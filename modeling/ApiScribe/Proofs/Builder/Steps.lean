import ApiScribe.Proofs.Builder.Coherence

/-!
# A pass, step by step

A pass with all passes inside it applies its annotations one after the other: the document and the
failures are those of the steps. The trace of a pass tells the outcome of each annotation.
-/

namespace ApiScribe.Builder

variable {value : Option String} {s : State} {a : Annotation} {rest annotations : List Annotation}

/-! ### Passes as steps -/

lemma runPass_cons_doc :
    (runPass value s (a :: rest)).1.doc = (runPass value (step value s a).1 rest).1.doc := by
  rw [runPass, step]
  split <;> rfl

lemma runPass_cons_failures :
    (runPass value s (a :: rest)).2 =
      (step value s a).2 ++ (runPass value (step value s a).1 rest).2 := by
  rw [runPass, step]
  split <;> rfl

lemma step_coherent (hs : Coherent s.doc s.pass) :
    Coherent (step value s a).1.doc (step value s a).1.pass := by
  rw [step]
  split
  next next hattempt => exact (Rule.of_attempt hattempt).coherent hs fun _ h => by cases h
  next next error hattempt => exact (Rule.of_attempt hattempt).coherent hs fun _ h => by cases h
  next next callback hattempt => exact (Rule.of_attempt hattempt).coherent_inside

/-! ### Invariants of the document -/

section Preservation

variable {P : OpenApi.Document → Prop}
  (hP : ∀ {s s' : State} {a : Annotation} {outcome : Outcome},
    Rule value s a s' outcome → P s.doc → P s'.doc)

include hP

lemma step_preserves (hs : P s.doc) : P (step value s a).1.doc := by
  rw [step]
  split
  next next hattempt => exact hP (Rule.of_attempt hattempt) hs
  next next error hattempt => exact hP (Rule.of_attempt hattempt) hs
  next next callback hattempt =>
    have hnext : P next.doc := hP (Rule.of_attempt hattempt) hs
    exact hnext

/-- What every annotation preserves of the document, a pass preserves. -/
lemma runPass_preserves (hs : P s.doc) : P (runPass value s annotations).1.doc := by
  induction annotations generalizing s with
  | nil => exact hs
  | cons a rest ih =>
    rw [runPass_cons_doc]
    exact ih (step_preserves hP hs)

end Preservation

/-! ### Traces -/

/-- The failure that an outcome stands for. -/
def Outcome.failure? (kind : Annotation.Kind) : Outcome → Option Failure
  | .failed error => some { kind, error }
  | _ => none

/-- Annotations, each with its outcome. -/
abbrev Trace := List (Prod Annotation Outcome)

/-- The trace of a pass and of the passes inside it. -/
def trace (value : Option String) (s : State) : List Annotation → Trace
  | [] => []
  | a :: rest => (a, (attempt value s a).2) :: trace value (step value s a).1 rest

lemma map_fst_trace : (trace value s annotations).map Prod.fst = annotations := by
  induction annotations generalizing s with
  | nil => rfl
  | cons a rest ih => rw [trace, List.map_cons, ih]

lemma step_failures :
    (step value s a).2 = ((attempt value s a).2.failure? a.kind).toList := by
  rw [step]
  split
  all_goals
    next hattempt => rw [hattempt]; rfl

/-- The failures of a pass are those in its trace, in order. -/
lemma runPass_failures :
    (runPass value s annotations).2 =
      (trace value s annotations).filterMap fun entry => entry.2.failure? entry.1.kind := by
  induction annotations generalizing s with
  | nil => rfl
  | cons a rest ih =>
    rw [runPass_cons_failures, trace, ih, step_failures, List.filterMap_cons]
    dsimp only
    cases (attempt value s a).2.failure? a.kind <;> rfl

end ApiScribe.Builder
