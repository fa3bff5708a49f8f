import ApiScribe.Proofs.Builder.Steps
import ApiScribe.Proofs.Builder.Transport

/-!
# Failing annotations

A failing annotation has no effect: without it, the other annotations of the declaration have the
same outcomes and leave the same document. Two of them change the state all the same, by taking a
component key that is none and by registering a parameter that is then not referred to. The first
change goes unnoticed, and the second cannot happen in a coherent state.
-/

namespace ApiScribe.Builder

open OpenApi

variable {value : Option String} {s s' t : State} {a : Annotation} {outcome : Outcome}
  {annotations : List Annotation}

/-! ### Alike states -/

/-- States that differ in a component key of no use at most. -/
def State.Alike (s s' : State) : Prop := s.Transported 0 id s'

namespace State.Alike

lemma refl (s : State) : s.Alike s := ⟨rfl, rfl, by rw [Scope.shift_zero], rfl⟩

lemma trans (h : s.Alike s') (h' : s'.Alike t) : s.Alike t where
  doc := h'.doc.trans h.doc
  pass := {
    container := h'.pass.container.trans h.pass.container
    scope := by rw [h'.pass.scope, h.pass.scope, Scope.shift_zero]
    takeId := h'.pass.takeId.trans h.pass.takeId }

lemma symm (h : s.Alike s') : s'.Alike s where
  doc := h.doc.symm
  pass := {
    container := h.pass.container.symm
    scope := by rw [h.pass.scope, Scope.shift_zero, Scope.shift_zero]
    takeId := h.pass.takeId.symm }

end State.Alike

lemma unnoticed_id (doc : Document) (pass : Pass) (a : Annotation) : Unnoticed 0 id doc pass a where
  length_servers := (Nat.zero_add _).symm
  setVariable index name entry _ := by rw [Nat.zero_add]; rfl
  operation? _ _ := rfl
  paths? := rfl
  hasContent _ _ := rfl
  info _ _ := rfl
  server _ := rfl
  tag _ _ _ := rfl
  security _ := rfl
  scheme _ _ _ := rfl
  schema _ _ := rfl
  parameter _ _ := rfl
  requestBody _ _ := rfl
  response _ _ := rfl
  callback _ := rfl
  operation _ _ _ _ := rfl
  amend _ _ _ _ := rfl
  namedParameter _ _ _ _ _ _ := rfl
  setSchema _ _ _ _ := rfl
  setExample _ _ _ _ _ := rfl

/-- A failing annotation leaves a state that treats annotations alike. -/
lemma Rule.alike_of_failed {error : AnnotationError} (h : Rule value s a s' (.failed error))
    (hs : Coherent s.doc s.pass) : s.Alike s' := by
  cases h with
  | amend hscope hoperation h => cases h
  | failed => exact .refl s
  | keyless hid =>
    refine ⟨rfl, rfl, ?_, hid.symm⟩
    rw [Scope.shift_zero]
    rfl
  | unreferred _ _ _ hscope hoperation =>
    -- the operation in scope is there
    have hsome := hs.operation _ hscope
    rw [hoperation] at hsome
    cases hsome

lemma step_alike_of_failed {error : AnnotationError} (hs : Coherent s.doc s.pass)
    (h : (attempt value s a).2 = .failed error) : s.Alike (step value s a).1 := by
  cases hattempt : attempt value s a with
  | mk next outcome =>
    obtain rfl : outcome = .failed error := by rw [← h, hattempt]
    rw [step, hattempt]
    exact (Rule.of_attempt hattempt).alike_of_failed hs

/-! ### Leaving failing annotations out -/

/-- A trace without some of its failing annotations. -/
inductive Thinned : Trace → Trace → Prop
  | nil : Thinned [] []
  | keep {all chosen : Trace} {a : Annotation} {outcome : Outcome} (h : Thinned all chosen) :
    Thinned ((a, outcome) :: all) ((a, outcome) :: chosen)
  | leave {all chosen : Trace} {a : Annotation} {error : AnnotationError}
    (h : Thinned all chosen) : Thinned ((a, .failed error) :: all) chosen

def Outcome.isFailure : Outcome → Bool
  | .failed _ => true
  | _ => false

lemma thinned_filter (all : Trace) : Thinned all (all.filter fun entry => !entry.2.isFailure) := by
  induction all with
  | nil => exact .nil
  | cons entry all ih =>
    obtain ⟨a, outcome⟩ := entry
    cases outcome with
    | failed error => exact .leave ih
    | done => exact .keep ih
    | entered callback => exact .keep ih

/-- Without some of the annotations that fail, the others have the outcomes they had, and the
document is the same. -/
lemma trace_thinned {chosen : Trace} (hs : Coherent s.doc s.pass) (halike : s.Alike s')
    (h : Thinned (trace value s annotations) chosen) :
    trace value s' (chosen.map Prod.fst) = chosen ∧
      (runPass value s' (chosen.map Prod.fst)).1.doc = (runPass value s annotations).1.doc := by
  -- the two runs stay alike: they take the same step, or only the full one takes a failing step
  induction annotations generalizing s s' chosen with
  | nil =>
    cases h
    exact ⟨rfl, halike.doc⟩
  | cons a rest ih =>
    rw [trace] at h
    rw [runPass_cons_doc]
    generalize houtcome : (attempt value s a).2 = outcome at h
    have hs' : Coherent (step value s a).1.doc (step value s a).1.pass := step_coherent hs
    cases h with
    | keep h =>
      obtain ⟨hattempt, hnext⟩ := attempt_transport halike (unnoticed_id s.doc s.pass a)
      obtain ⟨htrace, hdoc⟩ := ih hs' (step_transport hattempt hnext).2 h
      rw [List.map_cons, trace, runPass_cons_doc, htrace, hdoc, hattempt, houtcome]
      exact ⟨rfl, rfl⟩
    | leave h => exact ih hs' ((step_alike_of_failed hs houtcome).symm.trans halike) h

/-- The annotations of a pass that do not fail. -/
def kept (value : Option String) (s : State) (annotations : List Annotation) : List Annotation :=
  ((trace value s annotations).filter fun entry => !entry.2.isFailure).map Prod.fst

/-- A failing annotation has no effect. Every annotation of a declaration has its outcome, and the
failures are those of the annotations that fail. The other annotations alone do not fail, and leave
the same document; and so do they together with any of those that fail, which then fail as before.
-/
theorem runPass_kept (value : Option String) (doc : Document) (name : String)
    (annotations : List Annotation) :
    let s := State.start doc name
    let all := trace value s annotations
    all.map Prod.fst = annotations ∧
    (runPass value s annotations).2 =
      all.filterMap (fun entry => entry.2.failure? entry.1.kind) ∧
    (runPass value s (kept value s annotations)).2 = [] ∧
    (runPass value s (kept value s annotations)).1.doc = (runPass value s annotations).1.doc ∧
    ∀ chosen, Thinned all chosen →
      trace value s (chosen.map Prod.fst) = chosen ∧
      (runPass value s (chosen.map Prod.fst)).1.doc = (runPass value s annotations).1.doc := by
  intro s all
  have hthinned {chosen : Trace} (h : Thinned all chosen) :=
    trace_thinned (Coherent.start doc name) (.refl s) h
  obtain ⟨htrace, hdoc⟩ := hthinned (thinned_filter all)
  refine ⟨map_fst_trace, runPass_failures, ?_, hdoc, fun chosen h => hthinned h⟩
  rw [runPass_failures, kept, htrace, List.filterMap_eq_nil_iff]
  intro entry hentry
  obtain ⟨a, outcome⟩ := entry
  have hkept := (List.mem_filter.mp hentry).2
  cases outcome with
  | failed error => cases hkept
  | done => rfl
  | entered callback => rfl

-- the second response finds the name of the declaration used up
example :
    kept none (.start {} "User") [{ kind := .response }, { kind := .response }, { kind := .tag }] =
      [{ kind := .response }] := rfl

end ApiScribe.Builder
