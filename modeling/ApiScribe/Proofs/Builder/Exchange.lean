import ApiScribe.Proofs.Builder.Atomicity
import ApiScribe.Proofs.Builder.Confinement

/-!
# Annotations that can stand anywhere

A title, a version, a security scheme and a tag with a description belong to the document, whatever
is in scope. Each of these annotations writes one part of the document and reads nothing, and no
other annotation reads that part. So it can change places with any annotation that does not write
the same part, also with one that enters a callback.
-/

namespace ApiScribe

open OpenApi

namespace Builder

/-- The parts of a document that annotations write whatever is in scope. -/
inductive Part where
  | title
  | version
  | securitySchemes
  | tags
deriving DecidableEq

end Builder

open Builder

/-- The part of the document that an annotation writes whatever is in scope. A tag without a
description has none, as it belongs to the operation in scope. -/
def Annotation.part? (a : Annotation) : Option Part :=
  match a.kind with
  | .api => some .title
  | .version => some .version
  | .apiKeyScheme | .httpScheme => some .securitySchemes
  | .tag => if a.bodyText = "" then none else some .tags
  | _ => none

namespace Builder

/-! ### Changes of one part -/

/-- A change of one part of a document, or none. -/
inductive Writes : Part → (Document → Document) → Prop
  | nothing (part : Part) : Writes part id
  | title (title description : String) :
    Writes .title fun doc => { doc with info := { doc.info with title, description } }
  | version (version : String) :
    Writes .version fun doc => { doc with info := { doc.info with version } }
  | scheme (name : String) (scheme : SecurityScheme) :
    Writes .securitySchemes fun doc => registerScheme doc name scheme
  | tag (tag : Tag) : Writes .tags fun doc => { doc with tags := doc.tags ++ [tag] }

namespace Writes

variable {part part' : Part} {φ ψ : Document → Document}

/-- Changes of different parts can be made in either order. -/
lemma comm (hφ : Writes part φ) (hψ : Writes part' ψ) (hne : part' ≠ part) (doc : Document) :
    φ (ψ doc) = ψ (φ doc) := by
  cases hφ <;> cases hψ <;> first | rfl | exact absurd rfl hne

lemma paths?_eq (h : Writes part φ) (doc : Document) (c : Container) :
    (φ doc).paths? c = doc.paths? c := by
  apply Document.paths?_congr
  · cases h <;> rfl
  · cases h <;> rfl

lemma operation?_eq (h : Writes part φ) (doc : Document) (place : OperationPlace) :
    (φ doc).operation? place = doc.operation? place := by
  simp only [Document.operation?, h.paths?_eq]

lemma hasContent_eq (h : Writes part φ) (doc : Document) (place : ContentPlace) :
    (φ doc).hasContent place = doc.hasContent place := by
  have hoperation := h.operation?_eq doc
  match place with
  | .parameter (.component id) | .requestBody (.component id) | .response (.component id) =>
    cases h <;> rfl
  | .parameter (.inline place index) =>
    simp only [Document.hasContent, Document.parameter?, hoperation]
  | .requestBody (.inline place) =>
    simp only [Document.hasContent, Document.requestBody?, hoperation]
  | .response (.inline place status) =>
    simp only [Document.hasContent, Document.response?, hoperation]

lemma modifyPaths_comm (h : Writes part φ) (doc : Document) (c : Container) (f : Paths → Paths) :
    φ (doc.modifyPaths c f) = (φ doc).modifyPaths c f := by
  induction c generalizing f with
  | document => cases h <;> rfl
  | component id => cases h <;> rfl
  | inline container path method key ih => exact ih _

lemma modifyOperation_comm (h : Writes part φ) (doc : Document) (place : OperationPlace)
    (f : Operation → Operation) :
    φ (doc.modifyOperation place f) = (φ doc).modifyOperation place f :=
  h.modifyPaths_comm doc place.container _

lemma setSchema_comm (h : Writes part φ) (doc : Document) (schema : Schema)
    (place : ContentPlace) : φ (doc.setSchema schema place) = (φ doc).setSchema schema place := by
  match place with
  | .parameter (.component id) | .requestBody (.component id) | .response (.component id) =>
    cases h <;> rfl
  | .parameter (.inline place _) | .requestBody (.inline place) | .response (.inline place _) =>
    exact h.modifyOperation_comm doc place _

lemma setExample_comm (h : Writes part φ) (doc : Document) (name : String) (sample : Example)
    (place : ContentPlace) :
    φ (doc.setExample name sample place) = (φ doc).setExample name sample place := by
  match place with
  | .parameter (.component id) | .requestBody (.component id) | .response (.component id) =>
    cases h <;> rfl
  | .parameter (.inline place _) | .requestBody (.inline place) | .response (.inline place _) =>
    exact h.modifyOperation_comm doc place _

/-- An annotation that writes none of the parts does not notice the change. -/
lemma unnoticed (h : Writes part φ) {b : Annotation} (hb : b.part? = none) (doc : Document)
    (pass : Pass) : Unnoticed 0 φ doc pass b where
  length_servers := by cases h <;> exact (Nat.zero_add _).symm
  operation? place _ := h.operation?_eq doc place
  paths? := by rw [h.paths?_eq]
  hasContent place _ := h.hasContent_eq doc place
  info f hkind := by rcases hkind with hkind | hkind <;> simp [hkind, Annotation.part?] at hb
  server server := by cases h <;> rfl
  setVariable index name entry _ := by cases h <;> simp only [Nat.zero_add] <;> rfl
  tag tag hkind hbody := by simp [hkind, hbody, Annotation.part?] at hb
  security requirement := by cases h <;> rfl
  scheme name scheme hkind := by
    rcases hkind with hkind | hkind <;> simp [hkind, Annotation.part?] at hb
  schema id json := by cases h <;> rfl
  parameter id parameter := by cases h <;> rfl
  requestBody id body := by cases h <;> rfl
  response id response := by cases h <;> rfl
  callback id := by cases h <;> rfl
  operation path method o _ := h.modifyPaths_comm doc pass.container _
  amend place f _ _ := h.modifyOperation_comm doc place f
  namedParameter place id parameter reference _ _ := by
    have hregister : φ (registerParameter doc id parameter) =
        registerParameter (φ doc) id parameter := by cases h <;> rfl
    rw [addParameter, h.modifyOperation_comm, hregister, ← addParameter]
  setSchema place schema _ _ := h.setSchema_comm doc schema place
  setExample place name sample _ _ := h.setExample_comm doc name sample place

end Writes

/-! ### Annotations of the document -/

section Exchange

variable {value : Option String} {s s' : State} {a b : Annotation} {part : Part}
  {φ : Document → Document} {outcome : Outcome}

/-- In every state the annotation makes the same change to a part of the document, with the same
outcome. -/
structure SetsPart (a : Annotation) (part : Part) (φ : Document → Document) (outcome : Outcome) :
    Prop where
  writes : Writes part φ
  stays (callback : Container) : outcome ≠ .entered callback
  attempt_eq (value : Option String) (s : State) :
    attempt value s a = ({ s with doc := φ s.doc }, outcome)

lemma SetsPart.of_rule (hφ : Writes part φ)
    (h : ∀ value s, Rule value s a { s with doc := φ s.doc } .done) : SetsPart a part φ .done where
  writes := hφ
  stays := by simp
  attempt_eq value s := (h value s).attempt_eq (by simp)

lemma SetsPart.of_failed (error : AnnotationError)
    (h : ∀ value s, attempt value s a = (s, .failed error)) :
    SetsPart a part id (.failed error) where
  writes := .nothing part
  stays := by simp
  attempt_eq := h

lemma exists_setsPart (h : a.part? = some part) : ∃ φ outcome, SetsPart a part φ outcome := by
  cases hkind : a.kind <;>
    simp only [hkind, Annotation.part?, reduceCtorEq, Option.some.injEq] at h
  case api =>
    subst h
    exact ⟨_, _, .of_rule (.title a.argument a.bodyText) fun _ _ => .api hkind⟩
  case version =>
    subst h
    exact ⟨_, _, .of_rule (.version a.argument) fun _ _ => .version hkind⟩
  case tag =>
    split_ifs at h with hbody
    obtain rfl := Option.some.inj h
    exact ⟨_, _, .of_rule (.tag _) fun _ _ => .tag hkind hbody⟩
  case apiKeyScheme =>
    subst h
    cases hheader : apiKeyHeader a.argument with
    | error error =>
      refine ⟨_, _, .of_failed error fun value s => ?_⟩
      simp [attempt, apply, hkind, applyApiKeyScheme, hheader, Effect.check, Effect.fail,
        Effect.unchanged, Effect.state]
    | ok header =>
      exact ⟨_, _, .of_rule (.scheme header.1 _) fun _ _ => .apiKeyScheme hkind hheader⟩
  case httpScheme =>
    subst h
    rcases hwords : Text.words a.argument with _ | ⟨name, _ | ⟨scheme, rest⟩⟩
    case cons.cons =>
      cases hformat : bearerFormat (.ofList (scheme.toList.map Char.toLower)) rest with
      | error error =>
        refine ⟨_, _, .of_failed error fun value s => ?_⟩
        simp [attempt, apply, hkind, applyHttpScheme, hwords, hformat, Effect.check, Effect.fail,
          Effect.unchanged, Effect.state]
      | ok format =>
        exact ⟨_, _, .of_rule (.scheme name _) fun _ _ => .httpScheme hkind hwords hformat⟩
    -- the name of the scheme or the scheme itself is missing
    all_goals
      refine ⟨_, _, .of_failed (.invalidArgument .httpScheme) fun value s => ?_⟩
      simp [attempt, apply, hkind, applyHttpScheme, hwords, Effect.fail, Effect.unchanged,
        Effect.state]

lemma SetsPart.step_eq (h : SetsPart a part φ outcome) (value : Option String) (s : State) :
    (step value s a).1 = { s with doc := φ s.doc } := by
  rw [step_of_stays, h.attempt_eq]
  simpa [h.attempt_eq] using h.stays

/-- An annotation of the document and one that does not write the same part have the outcomes they
have without the other one, and leave alike states in either order. -/
lemma step_exchange (ha : a.part? = some part) (hb : b.part? ≠ some part) (value : Option String)
    (s : State) :
    (attempt value (step value s a).1 b).2 = (attempt value s b).2 ∧
      (attempt value (step value s b).1 a).2 = (attempt value s a).2 ∧
      (step value (step value s b).1 a).1.Alike (step value (step value s a).1 b).1 := by
  obtain ⟨φ, outcome, hφ⟩ := exists_setsPart ha
  simp only [hφ.step_eq, hφ.attempt_eq, true_and]
  cases hpart : b.part? with
  | some part' =>
    have hne : part' ≠ part := by
      rintro rfl
      exact hb hpart
    obtain ⟨ψ, outcome', hψ⟩ := exists_setsPart hpart
    simp only [hψ.step_eq, hψ.attempt_eq, hφ.writes.comm hψ.writes hne, true_and]
    exact .refl _
  | none =>
    have hs : s.Transported 0 φ { s with doc := φ s.doc } :=
      ⟨rfl, rfl, (Scope.shift_zero _).symm, rfl⟩
    obtain ⟨houtcome, hnext⟩ := attempt_transport hs (hφ.writes.unnoticed hpart s.doc s.pass)
    obtain ⟨-, hstep⟩ := step_transport houtcome hnext
    exact ⟨houtcome, hstep.doc, hstep.pass⟩

/-! ### Runs -/

/-- The failures that a trace tells of. -/
def Trace.failures (entries : Trace) : List Failure :=
  entries.filterMap fun entry => entry.2.failure? entry.1.kind

/-- The failures of two annotations stand between those before and after them. -/
lemma failures_pair (front back : Trace) (c d : Annotation) (outcome outcome' : Outcome) :
    Trace.failures (front ++ [(c, outcome), (d, outcome')] ++ back) =
      front.failures ++ ((outcome.failure? c.kind).toList ++ (outcome'.failure? d.kind).toList) ++
        back.failures := by
  simp only [Trace.failures, List.filterMap_append]
  cases outcome <;> cases outcome' <;> rfl

lemma trace_append (xs ys : List Annotation) :
    trace value s (xs ++ ys) = trace value s xs ++ trace value (run value s xs).1 ys := by
  induction xs generalizing s with
  | nil => rfl
  | cons x xs ih => rw [List.cons_append, trace, ih, trace, List.cons_append, run_cons]

/-- Annotations fare alike in alike states. -/
lemma run_alike (value : Option String) (h : s.Alike s') (annotations : List Annotation) :
    trace value s' annotations = trace value s annotations ∧
      (run value s' annotations).1.doc = (run value s annotations).1.doc := by
  induction annotations generalizing s s' with
  | nil => exact ⟨rfl, h.doc⟩
  | cons a rest ih =>
    obtain ⟨houtcome, hnext⟩ := @attempt_transport _ _ _ _ _ value h (unnoticed_id s.doc s.pass a)
    obtain ⟨htrace, hdoc⟩ := ih (step_transport houtcome hnext).2
    simp only [trace, run_cons, houtcome, htrace, hdoc, and_self]

/-- An annotation of the document and a neighbour that does not write the same part can change
places. The document stays the same and all annotations keep their outcomes, so that the failures
of the two, if both fail, change places as well. -/
theorem runPass_exchange (value : Option String) (s : State) (xs ys : List Annotation)
    (ha : a.part? = some part) (hb : b.part? ≠ some part) :
    (runPass value s (xs ++ [b, a] ++ ys)).1.doc = (runPass value s (xs ++ [a, b] ++ ys)).1.doc ∧
    ∃ (front back : Trace) (outcome outcome' : Outcome),
      front.map Prod.fst = xs ∧ back.map Prod.fst = ys ∧
      trace value s (xs ++ [a, b] ++ ys) = front ++ [(a, outcome), (b, outcome')] ++ back ∧
      trace value s (xs ++ [b, a] ++ ys) = front ++ [(b, outcome'), (a, outcome)] ++ back ∧
      (runPass value s (xs ++ [a, b] ++ ys)).2 =
        front.failures ++ ((outcome.failure? a.kind).toList ++ (outcome'.failure? b.kind).toList) ++
          back.failures ∧
      (runPass value s (xs ++ [b, a] ++ ys)).2 =
        front.failures ++ ((outcome'.failure? b.kind).toList ++ (outcome.failure? a.kind).toList) ++
          back.failures := by
  let t := (run value s xs).1
  obtain ⟨hb', ha', halike⟩ := step_exchange ha hb value t
  obtain ⟨htrace, hdoc⟩ := run_alike value halike ys
  have htraces (c d : Annotation) :
      trace value s (xs ++ [c, d] ++ ys) = trace value s xs ++
        [(c, (attempt value t c).2), (d, (attempt value (step value t c).1 d).2)] ++
          trace value (step value (step value t c).1 d).1 ys := by
    rw [trace_append, trace_append, run_append]
    rfl
  have hdocs (c d : Annotation) :
      (runPass value s (xs ++ [c, d] ++ ys)).1.doc =
        (run value (step value (step value t c).1 d).1 ys).1.doc := by
    rw [runPass_doc, run_append, run_append]
    rfl
  have hfailures (annotations : List Annotation) :
      (runPass value s annotations).2 = (trace value s annotations).failures := runPass_failures
  have htrace_ab := htraces a b
  have htrace_ba := htraces b a
  rw [hb', htrace] at htrace_ab
  rw [ha'] at htrace_ba
  constructor
  · rw [hdocs, hdocs, hdoc]
  · refine ⟨_, _, _, _, map_fst_trace, map_fst_trace, htrace_ab, htrace_ba, ?_, ?_⟩
    · rw [hfailures, htrace_ab, failures_pair]
    · rw [hfailures, htrace_ba, failures_pair]

/-- An operation, a security scheme without its field, a callback and its body. -/
def placeOrder : Annotation := { kind := .operation, argument := "POST /orders - Order" }

def keyWithoutField : Annotation := { kind := .apiKeyScheme, argument := "key header" }

def onShipping : Annotation := { kind := .callback, argument := "onShipping" }

def shippingBody : List Annotation :=
  [{ kind := .operation, argument := "POST /shipped - Shipped" }, { kind := .response }]

/-- The scheme fails before the callback or in its body, and the body fails after it. -/
theorem runPass_exchange_onShipping :
    let start := State.start {} ""
    keyWithoutField.part? = some .securitySchemes ∧ onShipping.part? ≠ some .securitySchemes ∧
    (attempt none (run none start [placeOrder]).1 onShipping).2 =
      .entered (.inline .document "/orders" .post "onShipping") ∧
    (runPass none start ([placeOrder] ++ [onShipping, keyWithoutField] ++ shippingBody)).1.doc =
      (runPass none start ([placeOrder] ++ [keyWithoutField, onShipping] ++ shippingBody)).1.doc ∧
    (runPass none start ([placeOrder] ++ [onShipping, keyWithoutField] ++ shippingBody)).2 =
      [⟨.apiKeyScheme, .invalidArgument .apiKeyScheme⟩,
        ⟨.response, .invalidArgument .response⟩] := by
  intro start
  have ha : keyWithoutField.part? = some .securitySchemes := rfl
  have hb : onShipping.part? ≠ some .securitySchemes := by decide
  have hexchange := runPass_exchange none start [placeOrder] shippingBody ha hb
  exact ⟨ha, hb, rfl, hexchange.1, rfl⟩

end Exchange

end Builder

end ApiScribe
