import ApiScribe.Proofs.Builder.Steps

/-!
# Passes inside passes

A pass that enters a callback hands all annotations that are left to a pass inside it, and is done
when that one is. The passes together are one run from the first annotation to the last, in which a
callback that is entered replaces what is remembered of the pass.
-/

namespace ApiScribe.Builder

variable {value : Option String} {s : State} {a : Annotation} {annotations xs ys : List Annotation}

/-! ### What each pass applies -/

/-- An annotation that is applied in a state, and its outcome. -/
structure Application where
  state : State
  subject : Annotation
  outcome : Outcome

/-- The annotation as it is applied in a state. -/
def applied (value : Option String) (s : State) (a : Annotation) : Application :=
  { state := s, subject := a, outcome := (attempt value s a).2 }

/-- Put an application in front of what the outermost pass has applied. -/
def prepend (first : Application) : List (List Application) → List (List Application)
  | [] => [[first]]
  | pass :: passes => (first :: pass) :: passes

/-- A pass with a record of what it applies, followed by the records of the passes inside it. -/
def recordPass (value : Option String) (s : State) :
    List Annotation → (State × List Failure) × List (List Application)
  | [] => ((s, []), [[]])
  | a :: rest =>
    match attempt value s a with
    | (next, .done) =>
      let (result, passes) := recordPass value next rest
      (result, prepend (applied value s a) passes)
    | (next, .failed error) =>
      let ((final, failures), passes) := recordPass value next rest
      ((final, { kind := a.kind, error } :: failures), prepend (applied value s a) passes)
    | (next, .entered callback) =>
      let ((inner, failures), passes) :=
        recordPass value { next with pass := .inside callback } rest
      (({ next with doc := inner.doc }, failures), [applied value s a] :: passes)

/-- Recording a pass does not change it. -/
lemma recordPass_result : (recordPass value s annotations).1 = runPass value s annotations := by
  induction annotations generalizing s with
  | nil => rfl
  | cons a rest ih =>
    rw [recordPass, runPass]
    generalize attempt value s a = result
    obtain ⟨next, outcome⟩ := result
    cases outcome with
    | done => exact ih
    | failed error => simp only [← ih]
    | entered callback => simp only [← ih]

/-- The applications of a run without passes inside passes. -/
def applications (value : Option String) (s : State) : List Annotation → List Application
  | [] => []
  | a :: rest => applied value s a :: applications value (step value s a).1 rest

lemma flatten_prepend (first : Application) (passes : List (List Application)) :
    (prepend first passes).flatten = first :: passes.flatten := by
  cases passes <;> rfl

/-- The passes apply, one after the other, what the run applies. -/
lemma flatten_recordPass :
    (recordPass value s annotations).2.flatten = applications value s annotations := by
  induction annotations generalizing s with
  | nil => rfl
  | cons a rest ih =>
    rw [recordPass, applications, step]
    generalize attempt value s a = result
    obtain ⟨next, outcome⟩ := result
    cases outcome with
    | done => simp only [flatten_prepend, ih]
    | failed error => simp only [flatten_prepend, ih]
    | entered callback => simp only [List.flatten_cons, ih, List.singleton_append]

/-- Passes each of which, but for the innermost, enters a callback with its last annotation and with
no other. -/
inductive Nested : List (List Application) → Prop
  | innermost {pass : List Application}
    (hpass : ∀ application ∈ pass, ∀ callback, application.outcome ≠ .entered callback) :
    Nested [pass]
  | around {pass : List Application} {last : Application} {callback : Container}
    {passes : List (List Application)}
    (hpass : ∀ application ∈ pass, ∀ callback, application.outcome ≠ .entered callback)
    (hlast : last.outcome = .entered callback) (h : Nested passes) :
    Nested ((pass ++ [last]) :: passes)

lemma Nested.prepend {first : Application} {passes : List (List Application)} (h : Nested passes)
    (hfirst : ∀ callback, first.outcome ≠ .entered callback) : Nested (prepend first passes) := by
  cases h with
  | innermost hpass => exact .innermost (List.forall_mem_cons.mpr ⟨hfirst, hpass⟩)
  | around hpass hlast h => exact .around (List.forall_mem_cons.mpr ⟨hfirst, hpass⟩) hlast h

lemma nested_recordPass : Nested (recordPass value s annotations).2 := by
  induction annotations generalizing s with
  | nil => exact .innermost fun _ h => by cases h
  | cons a rest ih =>
    rw [recordPass]
    cases hattempt : attempt value s a with
    | mk next outcome =>
      have houtcome : (applied value s a).outcome = outcome := by rw [applied, hattempt]
      cases outcome with
      | done => exact ih.prepend fun callback h => by rw [houtcome] at h; cases h
      | failed error => exact ih.prepend fun callback h => by rw [houtcome] at h; cases h
      | entered callback => exact .around (List.forall_mem_nil _) houtcome ih

lemma map_subject_applications :
    (applications value s annotations).map (·.subject) = annotations := by
  induction annotations generalizing s with
  | nil => rfl
  | cons a rest ih => rw [applications, List.map_cons, ih]; rfl

/-! ### Runs -/

lemma run_cons (a : Annotation) (rest : List Annotation) :
    run value s (a :: rest) =
      ((run value (step value s a).1 rest).1,
        (step value s a).2 ++ (run value (step value s a).1 rest).2) :=
  rfl

lemma run_append (xs ys : List Annotation) :
    run value s (xs ++ ys) =
      ((run value (run value s xs).1 ys).1,
        (run value s xs).2 ++ (run value (run value s xs).1 ys).2) := by
  induction xs generalizing s with
  | nil => rfl
  | cons x xs ih => rw [List.cons_append, run_cons, run_cons, ih, List.append_assoc]

lemma applications_append (xs ys : List Annotation) :
    applications value s (xs ++ ys) =
      applications value s xs ++ applications value (run value s xs).1 ys := by
  induction xs generalizing s with
  | nil => rfl
  | cons x xs ih => rw [List.cons_append, applications, ih]; rfl

/-- Each application fails at most once, and the failures are in the order of the applications. -/
lemma run_failures :
    (run value s annotations).2 =
      (applications value s annotations).filterMap fun application =>
        application.outcome.failure? application.subject.kind := by
  induction annotations generalizing s with
  | nil => rfl
  | cons a rest ih =>
    rw [run_cons, applications, step_failures, ih, List.filterMap_cons]
    dsimp only [applied]
    cases (attempt value s a).2.failure? a.kind <;> rfl

lemma runPass_doc : (runPass value s annotations).1.doc = (run value s annotations).1.doc := by
  induction annotations generalizing s with
  | nil => rfl
  | cons a rest ih => rw [runPass_cons_doc, run_cons, ih]

lemma runPass_failures_eq : (runPass value s annotations).2 = (run value s annotations).2 := by
  induction annotations generalizing s with
  | nil => rfl
  | cons a rest ih => rw [runPass_cons_failures, run_cons, ih]

/-- The passes over the annotations of a list, each inside the one before, are one run over the
list. Together they apply every annotation once, in order, and in the state that the run has reached
there; they fail as the run fails, at most once for each annotation, and leave the document of the
run. What comes of further annotations is what comes of them in the state after the run, and the
failures so far stay as they are. -/
theorem runPass_eq_run (value : Option String) (s : State) (annotations : List Annotation) :
    (recordPass value s annotations).1 = runPass value s annotations ∧
    Nested (recordPass value s annotations).2 ∧
    (recordPass value s annotations).2.flatten = applications value s annotations ∧
    (applications value s annotations).map (·.subject) = annotations ∧
    (runPass value s annotations).1.doc = (run value s annotations).1.doc ∧
    (runPass value s annotations).2 = (run value s annotations).2 ∧
    (runPass value s annotations).2 =
      (applications value s annotations).filterMap
        (fun application => application.outcome.failure? application.subject.kind) ∧
    ∀ others,
      (runPass value s (annotations ++ others)).1.doc =
        (runPass value (run value s annotations).1 others).1.doc ∧
      (runPass value s (annotations ++ others)).2 =
        (runPass value s annotations).2 ++
          (runPass value (run value s annotations).1 others).2 := by
  refine ⟨recordPass_result, nested_recordPass, flatten_recordPass, map_subject_applications,
    runPass_doc, runPass_failures_eq, runPass_failures_eq.trans run_failures, fun others => ?_⟩
  constructor
  · rw [runPass_doc, run_append, runPass_doc]
  · rw [runPass_failures_eq, run_append, runPass_failures_eq, runPass_failures_eq]

end ApiScribe.Builder
