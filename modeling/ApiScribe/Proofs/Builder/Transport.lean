import ApiScribe.Proofs.Builder.Rules

/-!
# Annotations on two documents

When a document is changed by a map `φ` that the annotations of a pass do not notice, an annotation
does the same to the changed document: it has the same outcome, and leaves the change of what it
would have left. The passes may differ in the position of the server in scope, by a fixed number of
servers that `φ` puts in front, and in the component key as long as it is of no use in either.
-/

namespace ApiScribe.Builder

open OpenApi Text

/-! ### Passes -/

/-- The scope when `n` servers have been put in front. -/
def Scope.shift (n : Nat) : Scope → Scope
  | .server index => .server (n + index)
  | scope => scope

@[simp] lemma Scope.operation?_shift (n : Nat) (scope : Scope) :
    (scope.shift n).operation? = scope.operation? := by
  cases scope <;> rfl

@[simp] lemma Scope.content?_shift (n : Nat) (scope : Scope) :
    (scope.shift n).content? = scope.content? := by
  cases scope <;> rfl

@[simp] lemma Scope.server?_shift (n : Nat) (scope : Scope) :
    (scope.shift n).server? = scope.server?.map (n + ·) := by
  cases scope <;> rfl

@[simp] lemma Scope.shift_zero (scope : Scope) : scope.shift 0 = scope := by
  cases scope <;> simp [shift]

/-- Two passes that treat annotations alike. -/
structure Pass.Alike (n : Nat) (pass pass' : Pass) : Prop where
  container : pass'.container = pass.container
  scope : pass'.scope = pass.scope.shift n
  takeId : pass'.takeId = pass.takeId

namespace Pass.Alike

variable {n : Nat} {pass pass' : Pass}

lemma operation? (h : pass.Alike n pass') : pass'.scope.operation? = pass.scope.operation? := by
  rw [h.scope, Scope.operation?_shift]

lemma content? (h : pass.Alike n pass') : pass'.scope.content? = pass.scope.content? := by
  rw [h.scope, Scope.content?_shift]

lemma setId (h : pass.Alike n pass') (id : Option String) :
    Pass.Alike n { pass with componentId := id } { pass' with componentId := id } :=
  ⟨h.container, h.scope, rfl⟩

lemma dropId (h : pass.Alike n pass') : Pass.Alike n pass.dropId pass'.dropId :=
  h.setId none

lemma enterServer (h : pass.Alike n pass') (index : Nat) :
    Pass.Alike n (pass.enterServer index) (pass'.enterServer (n + index)) :=
  ⟨h.container, rfl, h.takeId⟩

lemma enterOperation (h : pass.Alike n pass') (place : OperationPlace) :
    Pass.Alike n (pass.enterOperation place) (pass'.enterOperation place) :=
  ⟨h.container, rfl, h.takeId⟩

lemma enterContent (h : pass.Alike n pass') (place : ContentPlace) :
    Pass.Alike n (pass.enterContent place) (pass'.enterContent place) := by
  refine ⟨h.container, ?_, h.takeId⟩
  simp only [Pass.enterContent, h.operation?]
  rfl

lemma inside (n : Nat) (c : Container) : Pass.Alike n (.inside c) (.inside c) := by
  refine ⟨rfl, ?_, rfl⟩
  unfold Pass.inside
  cases c.owner? <;> rfl

end Pass.Alike

/-! ### Changes that go unnoticed -/

/-- The map `φ`, which puts `n` servers in front, goes unnoticed by an annotation: what the pass can
reach in the document is as before, and whatever the annotation does there can be done before or
after `φ`. -/
structure Unnoticed (n : Nat) (φ : Document → Document) (doc : Document) (pass : Pass)
    (a : Annotation) : Prop where
  length_servers : (φ doc).servers.length = n + doc.servers.length
  operation? (place : OperationPlace) : pass.scope.operation? = some place →
    (φ doc).operation? place = doc.operation? place
  paths? : ((φ doc).paths? pass.container).isSome = (doc.paths? pass.container).isSome
  hasContent (place : ContentPlace) : pass.scope.content? = some place →
    (φ doc).hasContent place = doc.hasContent place
  info (f : Info → Info) : a.kind = .api ∨ a.kind = .version →
    φ { doc with info := f doc.info } = { φ doc with info := f (φ doc).info }
  server (server : Server) :
    φ { doc with servers := doc.servers ++ [server] } =
      { φ doc with servers := (φ doc).servers ++ [server] }
  setVariable (index : Nat) (name : String) (entry : ServerVariable) :
    index < doc.servers.length →
    φ (setVariable doc index name entry) = setVariable (φ doc) (n + index) name entry
  tag (tag : Tag) : a.kind = .tag → a.bodyText ≠ "" →
    φ { doc with tags := doc.tags ++ [tag] } = { φ doc with tags := (φ doc).tags ++ [tag] }
  security (requirement : SecurityRequirement) :
    φ { doc with security := doc.security ++ [requirement] } =
      { φ doc with security := (φ doc).security ++ [requirement] }
  scheme (name : String) (scheme : SecurityScheme) :
    a.kind = .apiKeyScheme ∨ a.kind = .httpScheme →
    φ (registerScheme doc name scheme) = registerScheme (φ doc) name scheme
  schema (id : String) (json : Json) :
    φ (doc.modifyComponents fun c => { c with schemas := c.schemas.insert id json }) =
      (φ doc).modifyComponents fun c => { c with schemas := c.schemas.insert id json }
  parameter (id : String) (parameter : Parameter) :
    φ (registerParameter doc id parameter) = registerParameter (φ doc) id parameter
  requestBody (id : String) (body : RequestBody) :
    φ (registerRequestBody doc id body) = registerRequestBody (φ doc) id body
  response (id : String) (response : Response) :
    φ (registerResponse doc id response) = registerResponse (φ doc) id response
  callback (id : String) : φ (registerCallback doc id) = registerCallback (φ doc) id
  operation (path : String) (method : Method) (o : Operation) :
    (doc.paths? pass.container).isSome →
    φ (doc.modifyPaths pass.container fun paths => paths.setOperation path method o) =
      (φ doc).modifyPaths pass.container fun paths => paths.setOperation path method o
  amend (place : OperationPlace) (f : Operation → Operation) :
    pass.scope.operation? = some place → (doc.operation? place).isSome →
    φ (doc.modifyOperation place f) = (φ doc).modifyOperation place f
  namedParameter (place : OperationPlace) (id : String) (parameter : Parameter)
    (reference : RefOr Parameter) :
    pass.scope.operation? = some place → (doc.operation? place).isSome →
    φ (addParameter (registerParameter doc id parameter) place reference) =
      addParameter (registerParameter (φ doc) id parameter) place reference
  setSchema (place : ContentPlace) (schema : Schema) :
    pass.scope.content? = some place → doc.hasContent place →
    φ (doc.setSchema schema place) = (φ doc).setSchema schema place
  setExample (place : ContentPlace) (name : String) (sample : Example) :
    pass.scope.content? = some place → doc.hasContent place →
    φ (doc.setExample name sample place) = (φ doc).setExample name sample place

/-- Two effects of an annotation, the second one after `φ`. -/
structure Effect.Transported (n : Nat) (φ : Document → Document) (effect effect' : Effect) :
    Prop where
  outcome : effect'.outcome = effect.outcome
  doc : effect'.doc = φ effect.doc
  pass : effect.pass.Alike n effect'.pass

namespace Effect.Transported

variable {n : Nat} {φ : Document → Document} {effect effect' : Effect}

lemma unchanged (φ : Document → Document) (doc : Document) {pass pass' : Pass}
    (h : pass.Alike n pass') :
    Transported n φ (unchanged doc pass) (unchanged (φ doc) pass') :=
  ⟨rfl, rfl, h⟩

lemma fail (h : Transported n φ effect effect') (error : AnnotationError) :
    Transported n φ (effect.fail error) (effect'.fail error) :=
  ⟨rfl, h.doc, h.pass⟩

lemma check {α : Type} {checked : Except AnnotationError α} {next next' : α → Effect}
    (h : Transported n φ effect effect')
    (hnext : ∀ v, checked = .ok v → Transported n φ (next v) (next' v)) :
    Transported n φ (effect.check checked next) (effect'.check checked next') := by
  cases checked with
  | error error => exact h.fail error
  | ok v => exact hnext v rfl

end Effect.Transported

/-! ### Annotations -/

section Annotations

variable {n : Nat} {φ : Document → Document} {doc : Document} {pass pass' : Pass} {a : Annotation}
  {value : Option String}

lemma currentOperation_transport (h : Unnoticed n φ doc pass a) (hpass : pass.Alike n pass') :
    currentOperation (φ doc) pass' = currentOperation doc pass := by
  unfold currentOperation
  rw [hpass.operation?]
  cases hscope : pass.scope.operation? with
  | none => rfl
  | some place => simp only [h.operation? place hscope]

lemma requireOperation_transport (h : Unnoticed n φ doc pass a) (hpass : pass.Alike n pass') :
    requireOperation (φ doc) pass' = requireOperation doc pass := by
  rw [requireOperation, requireOperation, currentOperation_transport h hpass]

/-- A registration under the component key. -/
lemma checkId_transport {next next' : String → Effect} (hpass : pass.Alike n pass')
    (hnext : ∀ id, Effect.Transported n φ (next id) (next' id)) :
    Effect.Transported n φ ((Effect.unchanged doc pass.dropId).check pass.takeId next)
      ((Effect.unchanged (φ doc) pass'.dropId).check pass'.takeId next') := by
  rw [hpass.takeId]
  exact (Effect.Transported.unchanged φ doc hpass.dropId).check fun id _ => hnext id

lemma applyVariable_transport (h : Unnoticed n φ doc pass a) (hpass : pass.Alike n pass')
    (argument body : String) :
    Effect.Transported n φ (applyVariable doc pass argument body)
      (applyVariable (φ doc) pass' argument body) := by
  have hsame := Effect.Transported.unchanged φ doc hpass
  unfold applyVariable
  rw [hpass.scope, Scope.server?_shift]
  cases pass.scope.server? with
  | none => exact hsame.fail _
  | some index =>
    simp only [Option.map_some]
    split
    next name default allowed hwords =>
      simp only [h.length_servers, Nat.add_lt_add_iff_left]
      split_ifs with hindex
      · exact ⟨rfl, (h.setVariable index name _ hindex).symm, hpass⟩
      · exact hsame.fail _
    next => exact hsame.fail _

lemma applyTag_transport (h : Unnoticed n φ doc pass a) (hpass : pass.Alike n pass')
    (hkind : a.kind = .tag) (argument : String) :
    Effect.Transported n φ (applyTag doc pass argument a.bodyText)
      (applyTag (φ doc) pass' argument a.bodyText) := by
  unfold applyTag
  split_ifs with hbody
  · rw [requireOperation_transport h hpass]
    refine (Effect.Transported.unchanged φ doc hpass).check fun place hplace => ?_
    obtain ⟨hscope, hoperation⟩ := requireOperation_eq_ok hplace
    exact ⟨rfl, (h.amend place _ hscope hoperation).symm, hpass⟩
  · exact ⟨rfl, (h.tag _ hkind hbody).symm, hpass⟩

lemma applySecurityRequirement_transport (h : Unnoticed n φ doc pass a)
    (hpass : pass.Alike n pass') (argument : String) :
    Effect.Transported n φ (applySecurityRequirement doc pass argument)
      (applySecurityRequirement (φ doc) pass' argument) := by
  have hsame := Effect.Transported.unchanged φ doc hpass
  unfold applySecurityRequirement
  split
  next => exact hsame.fail _
  next name scopes hwords =>
    rw [currentOperation_transport h hpass]
    refine hsame.check fun place? hplace => ?_
    obtain ⟨hscope, hoperation⟩ := currentOperation_eq_ok hplace
    cases place? with
    | none => exact ⟨rfl, (h.security _).symm, hpass⟩
    | some place => exact ⟨rfl, (h.amend place _ hscope (hoperation place rfl)).symm, hpass⟩

lemma applyApiKeyScheme_transport (h : Unnoticed n φ doc pass a) (hpass : pass.Alike n pass')
    (hkind : a.kind = .apiKeyScheme) (argument body : String) :
    Effect.Transported n φ (applyApiKeyScheme doc pass argument body)
      (applyApiKeyScheme (φ doc) pass' argument body) := by
  refine (Effect.Transported.unchanged φ doc hpass).check fun ⟨name, field, location⟩ _ => ?_
  exact ⟨rfl, (h.scheme name _ (.inl hkind)).symm, hpass⟩

lemma applyHttpScheme_transport (h : Unnoticed n φ doc pass a) (hpass : pass.Alike n pass')
    (hkind : a.kind = .httpScheme) (argument body : String) :
    Effect.Transported n φ (applyHttpScheme doc pass argument body)
      (applyHttpScheme (φ doc) pass' argument body) := by
  have hsame := Effect.Transported.unchanged φ doc hpass
  unfold applyHttpScheme
  split
  next name scheme rest hwords =>
    exact hsame.check fun format _ => ⟨rfl, (h.scheme name _ (.inr hkind)).symm, hpass⟩
  next => exact hsame.fail _

lemma applyOperation_transport (h : Unnoticed n φ doc pass a) (hpass : pass.Alike n pass')
    (argument body : String) :
    Effect.Transported n φ (applyOperation doc pass argument body)
      (applyOperation (φ doc) pass' argument body) := by
  refine (Effect.Transported.unchanged φ doc hpass).check fun ⟨method, path, summary⟩ _ => ?_
  simp only [hpass.container, h.paths?]
  split_ifs with hpaths
  · exact ⟨rfl, (h.operation path method _ hpaths).symm, hpass.enterOperation _⟩
  · exact ⟨rfl, rfl, hpass⟩

lemma applyNamedParameter_transport (h : Unnoticed n φ doc pass a) (hpass : pass.Alike n pass')
    (parameter : Parameter) (id : String) :
    Effect.Transported n φ (applyNamedParameter doc pass parameter id)
      (applyNamedParameter (φ doc) pass' parameter id) := by
  -- the operation is looked up once the parameter is registered, which moves no operation
  have hcurrent (doc : Document) (pass : Pass) :
      currentOperation (registerParameter doc id parameter) pass = currentOperation doc pass := by
    simp only [currentOperation, operation?_registerParameter]
  unfold applyNamedParameter
  simp only [hcurrent, currentOperation_transport h hpass]
  refine Effect.Transported.check ⟨rfl, (h.parameter id parameter).symm, hpass⟩ ?_
  intro place? hplace
  obtain ⟨hscope, hoperation⟩ := currentOperation_eq_ok hplace
  refine ⟨rfl, ?_, hpass.enterContent _⟩
  cases place? with
  | none => exact (h.parameter id parameter).symm
  | some place => exact (h.namedParameter place id parameter _ hscope (hoperation place rfl)).symm

lemma applyPlainParameter_transport (h : Unnoticed n φ doc pass a) (hpass : pass.Alike n pass')
    (parameter : Parameter) :
    Effect.Transported n φ (applyPlainParameter doc pass parameter)
      (applyPlainParameter (φ doc) pass' parameter) := by
  unfold applyPlainParameter
  rw [hpass.operation?]
  split
  next place hscope =>
    rw [h.operation? place hscope]
    split
    next => exact (Effect.Transported.unchanged φ doc hpass).fail _
    next operation hoperation =>
      have hsome : (doc.operation? place).isSome := by rw [hoperation]; rfl
      exact ⟨rfl, (h.amend place _ hscope hsome).symm, hpass.enterContent _⟩
  next =>
    exact checkId_transport hpass fun id =>
      ⟨rfl, (h.parameter id parameter).symm, hpass.dropId.enterContent _⟩

lemma applyParameter_transport (h : Unnoticed n φ doc pass a) (hpass : pass.Alike n pass')
    (argument body : String) :
    Effect.Transported n φ (applyParameter doc pass argument body)
      (applyParameter (φ doc) pass' argument body) := by
  have hsame := Effect.Transported.unchanged φ doc hpass
  unfold applyParameter
  split
  next id href =>
    rw [requireOperation_transport h hpass]
    refine hsame.check fun place hplace => ?_
    obtain ⟨hscope, hoperation⟩ := requireOperation_eq_ok hplace
    exact ⟨rfl, (h.amend place _ hscope hoperation).symm, hpass⟩
  next href =>
    refine hsame.check fun ⟨name, location, id?⟩ _ => ?_
    cases id? with
    | none => exact applyPlainParameter_transport h hpass _
    | some id => exact applyNamedParameter_transport h hpass _ id

lemma applyRequestBody_transport (h : Unnoticed n φ doc pass a) (hpass : pass.Alike n pass')
    (argument body : String) :
    Effect.Transported n φ (applyRequestBody doc pass argument body)
      (applyRequestBody (φ doc) pass' argument body) := by
  have hsame := Effect.Transported.unchanged φ doc hpass
  unfold applyRequestBody
  split
  next id href =>
    rw [requireOperation_transport h hpass]
    refine hsame.check fun place hplace => ?_
    obtain ⟨hscope, hoperation⟩ := requireOperation_eq_ok hplace
    exact ⟨rfl, (h.amend place _ hscope hoperation).symm, hpass⟩
  next href =>
    rw [currentOperation_transport h hpass]
    refine hsame.check fun place? hplace => ?_
    obtain ⟨hscope, hoperation⟩ := currentOperation_eq_ok hplace
    cases place? with
    | none =>
      exact checkId_transport hpass fun id =>
        ⟨rfl, (h.requestBody id _).symm, hpass.dropId.enterContent _⟩
    | some place =>
      exact ⟨rfl, (h.amend place _ hscope (hoperation place rfl)).symm, hpass.enterContent _⟩

lemma applyResponse_transport (h : Unnoticed n φ doc pass a) (hpass : pass.Alike n pass')
    (argument body : String) :
    Effect.Transported n φ (applyResponse doc pass argument body)
      (applyResponse (φ doc) pass' argument body) := by
  have hsame := Effect.Transported.unchanged φ doc hpass
  unfold applyResponse
  rw [hpass.operation?]
  split
  next =>
    exact checkId_transport hpass fun id =>
      ⟨rfl, (h.response id _).symm, hpass.dropId.enterContent _⟩
  next place hscope =>
    refine hsame.check fun ⟨status, reference?⟩ _ => ?_
    simp only [h.operation? place hscope]
    split_ifs with hoperation
    · have hamend (f : Operation → Operation) := (h.amend place f hscope hoperation).symm
      cases reference? with
      | none => exact ⟨rfl, hamend _, hpass.enterContent _⟩
      | some id => exact ⟨rfl, hamend _, hpass⟩
    · exact hsame.fail _

lemma applyCallback_transport (h : Unnoticed n φ doc pass a) (hpass : pass.Alike n pass')
    (argument : String) :
    Effect.Transported n φ (applyCallback doc pass argument)
      (applyCallback (φ doc) pass' argument) := by
  have hsame := Effect.Transported.unchanged φ doc hpass
  unfold applyCallback
  rw [hpass.operation?]
  split
  next => exact checkId_transport hpass fun id => ⟨rfl, (h.callback id).symm, hpass.dropId⟩
  next place hscope =>
    refine hsame.check fun ⟨key, reference?⟩ _ => ?_
    simp only [h.operation? place hscope]
    split_ifs with hoperation
    · have hamend (f : Operation → Operation) := (h.amend place f hscope hoperation).symm
      cases reference? <;> exact ⟨rfl, hamend _, hpass⟩
    · exact hsame.fail _

lemma applyJsonSchema_transport (h : Unnoticed n φ doc pass a) (hpass : pass.Alike n pass')
    (argument body : String) :
    Effect.Transported n φ (applyJsonSchema value doc pass argument body)
      (applyJsonSchema value (φ doc) pass' argument body) := by
  have hsame := Effect.Transported.unchanged φ doc hpass
  refine hsame.check fun ⟨schema, id?⟩ _ => ?_
  simp only [hpass.content?]
  split
  next place hscope =>
    rw [h.hasContent place hscope]
    split_ifs with hcontent
    · exact ⟨rfl, (h.setSchema place schema hscope hcontent).symm, hpass⟩
    · exact hsame.fail _
  next =>
    match schema, id? with
    | .ref _, _ => exact hsame.fail _
    | .item _, none => exact hsame.fail _
    | .item json, some id =>
      simp only [registerSchema]
      split_ifs
      · exact hsame.fail _
      · exact ⟨rfl, (h.schema id json).symm, hpass⟩

lemma applyJsonExample_transport (h : Unnoticed n φ doc pass a) (hpass : pass.Alike n pass')
    (argument body : String) :
    Effect.Transported n φ (applyJsonExample doc pass argument body)
      (applyJsonExample (φ doc) pass' argument body) := by
  have hsame := Effect.Transported.unchanged φ doc hpass
  refine hsame.check fun ⟨name, sample⟩ _ => ?_
  simp only [hpass.content?]
  split
  next => exact hsame.fail _
  next place hscope =>
    rw [h.hasContent place hscope]
    split_ifs with hcontent
    · exact ⟨rfl, (h.setExample place name sample hscope hcontent).symm, hpass⟩
    · exact hsame.fail _

/-- An annotation does the same before and after a change that it does not notice. -/
lemma apply_transport (value : Option String) (h : Unnoticed n φ doc pass a)
    (hpass : pass.Alike n pass') :
    Effect.Transported n φ (apply value doc pass a) (apply value (φ doc) pass' a) := by
  cases hkind : a.kind with
  | id =>
    simp only [apply, hkind]
    exact ⟨rfl, rfl, hpass.setId _⟩
  | api =>
    simp only [apply, hkind]
    exact ⟨rfl, (h.info (fun i => { i with title := a.argument, description := a.bodyText })
      (.inl hkind)).symm, hpass⟩
  | version =>
    simp only [apply, hkind]
    exact ⟨rfl, (h.info (fun i => { i with version := a.argument }) (.inr hkind)).symm, hpass⟩
  | server =>
    simp only [apply, hkind]
    refine ⟨rfl, (h.server _).symm, ?_⟩
    simp only [applyServer, h.length_servers]
    exact hpass.enterServer _
  | serverVariable => simpa only [apply, hkind] using applyVariable_transport h hpass _ _
  | tag => simpa only [apply, hkind] using applyTag_transport h hpass hkind _
  | securityRequirement =>
    simpa only [apply, hkind] using applySecurityRequirement_transport h hpass _
  | apiKeyScheme => simpa only [apply, hkind] using applyApiKeyScheme_transport h hpass hkind _ _
  | httpScheme => simpa only [apply, hkind] using applyHttpScheme_transport h hpass hkind _ _
  | operation => simpa only [apply, hkind] using applyOperation_transport h hpass _ _
  | parameter => simpa only [apply, hkind] using applyParameter_transport h hpass _ _
  | requestBody => simpa only [apply, hkind] using applyRequestBody_transport h hpass _ _
  | response => simpa only [apply, hkind] using applyResponse_transport h hpass _ _
  | jsonSchema => simpa only [apply, hkind] using applyJsonSchema_transport h hpass _ _
  | jsonExample => simpa only [apply, hkind] using applyJsonExample_transport h hpass _ _
  | callback => simpa only [apply, hkind] using applyCallback_transport h hpass _

end Annotations

/-! ### Steps -/

/-- Two states, the second one after `φ`. -/
structure State.Transported (n : Nat) (φ : Document → Document) (s s' : State) : Prop where
  doc : s'.doc = φ s.doc
  pass : s.pass.Alike n s'.pass

section Steps

variable {n : Nat} {φ : Document → Document} {s s' : State} {a : Annotation}
  {value : Option String}

lemma attempt_transport (h : s.Transported n φ s') (hφ : Unnoticed n φ s.doc s.pass a) :
    (attempt value s' a).2 = (attempt value s a).2 ∧
      (attempt value s a).1.Transported n φ (attempt value s' a).1 := by
  have heffect := apply_transport value hφ h.pass
  rw [← h.doc] at heffect
  exact ⟨heffect.outcome, heffect.doc, heffect.pass⟩

/-- Steps are alike where the attempts are: they enter the same callbacks. -/
lemma step_transport (houtcome : (attempt value s' a).2 = (attempt value s a).2)
    (hnext : (attempt value s a).1.Transported n φ (attempt value s' a).1) :
    (step value s' a).2 = (step value s a).2 ∧
      (step value s a).1.Transported n φ (step value s' a).1 := by
  rw [step, step]
  cases hattempt : attempt value s a with
  | mk next outcome =>
    cases hattempt' : attempt value s' a with
    | mk next' outcome' =>
      rw [hattempt, hattempt'] at houtcome hnext
      obtain rfl : outcome' = outcome := houtcome
      cases outcome' with
      | done => exact ⟨rfl, hnext⟩
      | failed error => exact ⟨rfl, hnext⟩
      | entered callback => exact ⟨rfl, hnext.doc, .inside n callback⟩

end Steps

end ApiScribe.Builder
