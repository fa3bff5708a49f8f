import ApiScribe.Proofs.Builder.Coherence

/-!
# Reachable states and dangling scopes

The states that applying annotations to a document goes through are coherent, whatever the
annotations and however deep the callbacks. It follows that an annotation finds its object gone only
where a reference has taken the place of a request body, a response or a callback.
-/

namespace ApiScribe

namespace Builder

open OpenApi

variable {value : Option String} {s s' t : State} {a : Annotation} {outcome : Outcome}
  {annotations : List Annotation}

/-! ### Reachable states -/

/-- The states that a pass over annotations goes through, those of the passes inside it included. -/
inductive Visits (value : Option String) : State → List Annotation → State → Prop
  | here {s : State} {annotations : List Annotation} : Visits value s annotations s
  | done {s next t : State} {a : Annotation} {rest : List Annotation}
    (hattempt : attempt value s a = (next, .done)) (h : Visits value next rest t) :
    Visits value s (a :: rest) t
  | failed {s next t : State} {a : Annotation} {rest : List Annotation} {error : AnnotationError}
    (hattempt : attempt value s a = (next, .failed error)) (h : Visits value next rest t) :
    Visits value s (a :: rest) t
  | entered {s next t : State} {a : Annotation} {rest : List Annotation} {callback : Container}
    (hattempt : attempt value s a = (next, .entered callback))
    (h : Visits value { next with pass := .inside callback } rest t) :
    Visits value s (a :: rest) t

/-- The states between passes: the one in which a declaration begins, and those that passes over
annotations leave. -/
inductive Rests (value : Option String) : State → Prop
  | start (doc : Document) (name : String) : Rests value (.start doc name)
  | after {s : State} (h : Rests value s) (annotations : List Annotation) :
    Rests value (runPass value s annotations).1

/-- The states in which an annotation can be attempted. -/
def Reachable (value : Option String) (t : State) : Prop :=
  ∃ s annotations, Rests value s ∧ Visits value s annotations t

/-! ### Coherence of reachable states -/

lemma Visits.coherent (h : Visits value s annotations t) (hs : Coherent s.doc s.pass) :
    Coherent t.doc t.pass := by
  induction h with
  | here => exact hs
  | done hattempt _ ih => exact ih ((Rule.of_attempt hattempt).coherent hs fun _ h => by cases h)
  | failed hattempt _ ih => exact ih ((Rule.of_attempt hattempt).coherent hs fun _ h => by cases h)
  | entered hattempt _ ih => exact ih (Rule.of_attempt hattempt).coherent_inside

lemma Amendment.container_eq {place : OperationPlace} {f : Operation → Operation} {pass : Pass}
    (h : Amendment s a place f pass outcome) : pass.container = s.pass.container := by
  cases h <;> rfl

lemma Rule.container_eq (h : Rule value s a s' outcome) :
    s'.pass.container = s.pass.container := by
  cases h with
  | amend hscope hoperation h => exact h.container_eq
  | _ => rfl

lemma Rule.entered_ne_document {c : Container} (h : Rule value s a s' (.entered c)) :
    c ≠ .document := by
  cases h with
  | amend hscope hoperation h => cases h; exact fun h => by cases h
  | callback => exact fun h => by cases h

/-- An annotation in the body of a callback loses nothing of the top level. -/
lemma Rule.retains_top (h : Rule value s a s' outcome) (hs : Coherent s.doc s.pass)
    (hc : s.pass.container ≠ .document) :
    s.doc.Retains (fun place => place.container = .document) s'.doc :=
  h.retains hs (fun _ _ _ htop => .inr (.inr htop)) (fun _ _ htop => .inr ⟨hc, htop⟩)
    (fun _ _ _ htop => htop)

/-- The body of a callback, with all callbacks inside it, loses nothing of the top level. -/
lemma runPass_retains_top (hs : Coherent s.doc s.pass) (hc : s.pass.container ≠ .document)
    (annotations : List Annotation) :
    s.doc.Retains (fun place => place.container = .document)
      (runPass value s annotations).1.doc := by
  induction annotations generalizing s with
  | nil => exact .refl _ s.doc
  | cons a rest ih =>
    rw [runPass]
    split
    next next hattempt =>
      have hrule := Rule.of_attempt hattempt
      have hnext := hrule.coherent hs fun _ h => by cases h
      exact (hrule.retains_top hs hc).trans (ih hnext (hrule.container_eq ▸ hc))
    next next error hattempt =>
      have hrule := Rule.of_attempt hattempt
      have hnext := hrule.coherent hs fun _ h => by cases h
      exact (hrule.retains_top hs hc).trans (ih hnext (hrule.container_eq ▸ hc))
    next next callback hattempt =>
      have hrule := Rule.of_attempt hattempt
      refine (hrule.retains_top hs hc).trans ?_
      exact @ih ⟨next.doc, .inside callback⟩ hrule.coherent_inside hrule.entered_ne_document

/-- A pass of the top level reaches the top level only. -/
lemma Coherent.uses_top {doc : Document} {pass : Pass} (h : Coherent doc pass)
    (hc : pass.container = .document) {place : OperationPlace} (huses : pass.Uses place) :
    place.container = .document := by
  rcases huses with hscope | howner
  · rcases h.near place hscope with hcontainer | howner
    · exact hcontainer.trans hc
    · rw [hc] at howner
      cases howner
  · rw [hc] at howner
    cases howner

/-- A pass of the top level stays coherent even where the annotation enters a callback. -/
lemma Rule.coherent_top (h : Rule value s a s' outcome) (hs : Coherent s.doc s.pass)
    (hc : s.pass.container = .document) : Coherent s'.doc s'.pass := by
  by_cases hstay : ∀ c, outcome ≠ .entered c
  · exact h.coherent hs hstay
  cases h with
  | amend hscope hoperation h => exact h.coherent hs hscope
  | callback =>
    exact (hs.retain ((retains_registerCallback _ _).mono fun _ => hs.uses_top hc)).dropId
  | _ => exact absurd (fun _ h => by cases h) hstay

lemma runPass_coherent (hs : Coherent s.doc s.pass) (hc : s.pass.container = .document)
    (annotations : List Annotation) :
    Coherent (runPass value s annotations).1.doc (runPass value s annotations).1.pass ∧
      (runPass value s annotations).1.pass.container = .document := by
  induction annotations generalizing s with
  | nil => exact ⟨hs, hc⟩
  | cons a rest ih =>
    rw [runPass]
    split
    next next hattempt =>
      have hrule := Rule.of_attempt hattempt
      exact ih (hrule.coherent_top hs hc) (hrule.container_eq.trans hc)
    next next error hattempt =>
      have hrule := Rule.of_attempt hattempt
      exact ih (hrule.coherent_top hs hc) (hrule.container_eq.trans hc)
    next next callback hattempt =>
      have hrule := Rule.of_attempt hattempt
      have hnext := hrule.coherent_top hs hc
      have hcontainer : next.pass.container = .document := hrule.container_eq.trans hc
      have hinner := @runPass_retains_top value ⟨next.doc, .inside callback⟩
        hrule.coherent_inside hrule.entered_ne_document rest
      exact ⟨hnext.retain (hinner.mono fun _ => hnext.uses_top hcontainer), hcontainer⟩

lemma Rests.coherent (h : Rests value s) :
    Coherent s.doc s.pass ∧ s.pass.container = .document := by
  induction h with
  | start doc name => exact ⟨.start doc name, rfl⟩
  | after _ annotations ih => exact runPass_coherent ih.1 ih.2 annotations

lemma Reachable.coherent (h : Reachable value t) : Coherent t.doc t.pass := by
  obtain ⟨s, annotations, hrests, hvisits⟩ := h
  exact hvisits.coherent hrests.coherent.1

/-! ### Objects replaced by references -/

end Builder

namespace OpenApi.Document

open Builder

/-- The content is a request body or a response of an operation that has become a reference. -/
def ContentReplaced (doc : Document) : ContentPlace → Prop
  | .requestBody (.inline place) =>
    ∃ o r, doc.operation? place = some o ∧ o.requestBody = some (.ref r)
  | .response (.inline place status) =>
    ∃ o r, doc.operation? place = some o ∧ o.responses.get? status = some (.ref r)
  | _ => False

/-- The table is that of a callback of an operation that has become a reference. -/
def CallbackReplaced (doc : Document) : Container → Prop
  | .inline container path method key =>
    ∃ o r, doc.operation? ⟨container, path, method⟩ = some o ∧
      o.callbacks.get? key = some (.ref r)
  | _ => False

lemma hasContent_eq_false_iff {doc : Document} {operation? : Option OperationPlace}
    {content : ContentPlace} (h : doc.ContentPresent operation? content) :
    doc.hasContent content = false ↔ doc.ContentReplaced content := by
  match content with
  | .parameter (.component id) | .requestBody (.component id) | .response (.component id) =>
    simp only [ContentReplaced, iff_false, Bool.not_eq_false]
    exact h
  | .parameter (.inline place index) =>
    obtain ⟨-, o, ho, hindex⟩ := h
    simp only [ContentReplaced, iff_false, Bool.not_eq_false, hasContent, parameter?, ho]
    exact hindex
  | .requestBody (.inline place) =>
    obtain ⟨-, o, ho, hbody⟩ := h
    obtain ⟨body, hbody⟩ := Option.isSome_iff_exists.mp hbody
    cases body <;> simp [ContentReplaced, hasContent, requestBody?, ho, hbody, RefOr.item?]
  | .response (.inline place status) =>
    obtain ⟨-, o, ho, hstatus⟩ := h
    obtain ⟨response, hstatus⟩ := Option.isSome_iff_exists.mp hstatus
    cases response <;> simp [ContentReplaced, hasContent, response?, ho, hstatus, RefOr.item?]

lemma paths?_eq_none_iff {doc : Document} {c : Container} (h : doc.ContainerPresent c) :
    doc.paths? c = none ↔ doc.CallbackReplaced c := by
  match c with
  | .document => simp [paths?, CallbackReplaced]
  | .component id =>
    obtain ⟨paths, hpaths⟩ := Option.isSome_iff_exists.mp h
    simp [paths?, CallbackReplaced, hpaths]
  | .inline container path method key =>
    obtain ⟨o, ho, hkey⟩ := h
    obtain ⟨callback, hkey⟩ := Option.isSome_iff_exists.mp hkey
    have hpaths := paths?_inline doc ⟨container, path, method⟩ key
    rw [ho, Option.bind_some, hkey, Option.bind_some] at hpaths
    rw [show doc.paths? (.inline container path method key) = callback.item? from hpaths]
    cases callback <;> simp [CallbackReplaced, ho, hkey, RefOr.item?]

end OpenApi.Document

namespace Builder

open OpenApi

/-! ### Reach of the failure -/

/-- The objects in scope can be found again. -/
structure ScopeResolves (doc : Document) (scope : Scope) : Prop where
  server (index : Nat) : scope.server? = some index → index < doc.servers.length
  operation (place : OperationPlace) : scope.operation? = some place →
    (doc.operation? place).isSome
  parameter (place : ParameterPlace) : scope.content? = some (.parameter place) →
    (doc.parameter? place).isSome
  component (place : ContentPlace) : scope.content? = some place → place.operation? = none →
    doc.hasContent place
  content (place : ContentPlace) (operation : OperationPlace) : scope.content? = some place →
    place.operation? = some operation → scope.operation? = some operation

lemma Coherent.scopeResolves {doc : Document} {pass : Pass} (h : Coherent doc pass) :
    ScopeResolves doc pass.scope where
  server := h.server
  operation := h.operation
  parameter place hplace := by
    have hpresent := h.content _ hplace
    cases place with
    | component id => exact hpresent
    | inline operation index =>
      obtain ⟨-, o, ho, hindex⟩ := hpresent
      simp only [Document.parameter?, ho]
      exact hindex
  component place hplace hnone := by
    have hpresent := h.content _ hplace
    match place with
    | .parameter (.component id) | .requestBody (.component id) | .response (.component id) =>
      exact hpresent
    | .parameter (.inline _ _) | .requestBody (.inline _) | .response (.inline _ _) => cases hnone
  content _ _ hplace hoperation := h.operation?_content hplace hoperation

/-- A schema or an example that is valid in itself. -/
def ValidForContent (value : Option String) (a : Annotation) : Prop :=
  a.kind = .jsonSchema ∧ (∃ read, readSchema value a.argument a.bodyText = .ok read) ∨
    a.kind = .jsonExample ∧ ∃ read, readExample a.argument a.bodyText = .ok read

/-- An operation with a well-formed header and a known method. -/
def ValidOperation (a : Annotation) : Prop :=
  a.kind = .operation ∧ ∃ header, operationHeader a.argument = .ok header

lemma Dangling.replaced (h : Dangling value s a) (hs : Coherent s.doc s.pass) :
    (ValidForContent value a ∧
      ∃ place, s.pass.scope.content? = some place ∧ s.doc.ContentReplaced place) ∨
    ValidOperation a ∧ s.doc.CallbackReplaced s.pass.container := by
  cases h with
  | server hscope hindex => exact absurd (hs.server _ hscope) (Nat.not_lt_of_le hindex)
  | operation hscope hoperation =>
    have hsome := hs.operation _ hscope
    rw [hoperation] at hsome
    cases hsome
  | container hkind hheader hpaths =>
    exact .inr ⟨⟨hkind, _, hheader⟩, (Document.paths?_eq_none_iff hs.container).mp hpaths⟩
  | schema hkind hread hscope hcontent =>
    refine .inl ⟨.inl ⟨hkind, _, hread⟩, _, hscope, ?_⟩
    exact (Document.hasContent_eq_false_iff (hs.content _ hscope)).mp hcontent
  | jsonExample hkind hread hscope hcontent =>
    refine .inl ⟨.inr ⟨hkind, _, hread⟩, _, hscope, ?_⟩
    exact (Document.hasContent_eq_false_iff (hs.content _ hscope)).mp hcontent

lemma attempt_content_gone {place : ContentPlace} (h : ValidForContent value a)
    (hscope : s.pass.scope.content? = some place) (hcontent : s.doc.hasContent place = false) :
    (attempt value s a).2 = .failed .danglingScope := by
  rcases h with ⟨hkind, ⟨schema, id?⟩, hread⟩ | ⟨hkind, ⟨name, sample⟩, hread⟩
  · simp [attempt, apply, hkind, applyJsonSchema, Effect.check, hread, hscope, hcontent,
      Effect.fail]
  · simp [attempt, apply, hkind, applyJsonExample, Effect.check, hread, hscope, hcontent,
      Effect.fail]

lemma attempt_container_gone (h : ValidOperation a)
    (hpaths : s.doc.paths? s.pass.container = none) :
    (attempt value s a).2 = .failed .danglingScope := by
  obtain ⟨hkind, ⟨method, path, summary⟩, hheader⟩ := h
  simp [attempt, apply, hkind, applyOperation, Effect.check, hheader, hpaths, Effect.fail]

/-- In every reachable state the scope resolves, and an annotation fails for want of its object in
two cases only: a schema or an example whose content has become a reference, and an operation whose
callback has. -/
theorem reachable_danglingScope_iff (h : Reachable value s) :
    ScopeResolves s.doc s.pass.scope ∧
      ∀ a, (attempt value s a).2 = .failed .danglingScope ↔
        (ValidForContent value a ∧
          ∃ place, s.pass.scope.content? = some place ∧ s.doc.ContentReplaced place) ∨
        ValidOperation a ∧ s.doc.CallbackReplaced s.pass.container := by
  have hs := h.coherent
  refine ⟨hs.scopeResolves, fun a => ⟨fun hfailed => ?_, fun hreplaced => ?_⟩⟩
  · obtain ⟨s', hattempt⟩ : ∃ s', attempt value s a = (s', .failed .danglingScope) :=
      ⟨_, Prod.ext rfl hfailed⟩
    cases Rule.of_attempt hattempt with
    | failed hdangling => exact (hdangling rfl).replaced hs
    | amend hscope hoperation h => cases h
    | unreferred _ _ _ hscope hoperation => exact (Dangling.operation hscope hoperation).replaced hs
  · rcases hreplaced with ⟨hvalid, place, hscope, hreplaced⟩ | ⟨hvalid, hreplaced⟩
    · have hcontent := (Document.hasContent_eq_false_iff (hs.content place hscope)).mpr hreplaced
      exact attempt_content_gone hvalid hscope hcontent
    · exact attempt_container_gone hvalid ((Document.paths?_eq_none_iff hs.container).mpr hreplaced)

/-- Both cases occur: a request body and a callback that are replaced while they are in use. -/
theorem danglingScope_reached :
    (∃ s, Reachable none s ∧
      (attempt none s { kind := .jsonSchema, argument := "\x7bUser\x7d" }).2 =
        .failed .danglingScope) ∧
    ∃ s, Reachable none s ∧
      (attempt none s { kind := .operation, argument := "POST /event - Event" }).2 =
        .failed .danglingScope := by
  constructor
  · have h : Reachable none _ :=
      ⟨_, [{ kind := .operation, argument := "GET /user - User" }, { kind := .requestBody },
        { kind := .requestBody, argument := "\x7bBody\x7d" }], .start {} "",
        .done rfl (.done rfl (.done rfl .here))⟩
    refine ⟨_, h, ((reachable_danglingScope_iff h).2 _).mpr (.inl ⟨.inl ⟨rfl, _, rfl⟩, ?_⟩)⟩
    exact ⟨_, rfl, _, _, rfl, rfl⟩
  · have h : Reachable none _ :=
      ⟨_, [{ kind := .operation, argument := "GET /user - User" },
        { kind := .callback, argument := "onEvent" },
        { kind := .callback, argument := "onEvent \x7bEvents\x7d" }], .start {} "",
        .done rfl (.entered rfl (.done rfl .here))⟩
    refine ⟨_, h, ((reachable_danglingScope_iff h).2 _).mpr (.inr ⟨⟨rfl, _, rfl⟩, ?_⟩)⟩
    exact ⟨_, _, rfl, rfl⟩

end Builder

end ApiScribe
