import ApiScribe.Builder.Run
import ApiScribe.Proofs.Builder.Places

/-!
# What an annotation can do

`Rule` lists everything that an annotation can do to a state, with the conditions under which it
does it, and `Rule.of_attempt` says that there is nothing else. Invariants of passes are shown rule
by rule. Conversely, `Rule.attempt_eq` says that a rule under which the annotation does not fail is
what the annotation does.
-/

namespace ApiScribe.Builder

open OpenApi Text

variable {value : Option String} {s s' : State} {a : Annotation} {outcome : Outcome}

/-! ### Rules -/

/-- A change of the operation in scope, with the pass and the outcome that go with it. -/
inductive Amendment (s : State) (a : Annotation) (place : OperationPlace) :
    (Operation → Operation) → Pass → Outcome → Prop
  | tag (hkind : a.kind = .tag) (hbody : a.bodyText = "") :
    Amendment s a place (fun o => { o with tags := o.tags ++ [a.argument] }) s.pass .done
  | security {name : String} {scopes : List String} (hkind : a.kind = .securityRequirement)
    (hwords : words a.argument = name :: scopes) :
    Amendment s a place (fun o => { o with security := o.security ++ [⟨[(name, scopes)]⟩] })
      s.pass .done
  | parameterReference {id : String} (hkind : a.kind = .parameter)
    (href : Argument.reference? a.argument = some id) :
    Amendment s a place
      (fun o => { o with parameters := o.parameters ++ [parameterReference id] }) s.pass .done
  | parameter {name : String} {location : ParameterLocation} {operation : Operation}
    (hkind : a.kind = .parameter) (href : Argument.reference? a.argument = none)
    (hheader : parameterHeader a.argument = .ok (name, location, none))
    (hoperation : s.doc.operation? place = some operation) :
    Amendment s a place
      (fun o => { o with
        parameters := o.parameters ++ [.item (.declare name location a.bodyText)] })
      (s.pass.enterContent (.parameter (.inline place operation.parameters.length))) .done
  | requestBodyReference {id : String} (hkind : a.kind = .requestBody)
    (href : Argument.reference? a.argument = some id) :
    Amendment s a place
      (fun o => { o with requestBody := some (.ref (.component .requestBodies id)) }) s.pass .done
  | requestBody (hkind : a.kind = .requestBody) (href : Argument.reference? a.argument = none) :
    Amendment s a place
      (fun o => { o with requestBody := some (.item { description := a.bodyText }) })
      (s.pass.enterContent (.requestBody (.inline place))) .done
  | responseReference {status id : String} (hkind : a.kind = .response)
    (hkeyed : keyed .response a.argument = .ok (status, some id)) :
    Amendment s a place
      (fun o => { o with
        responses := o.responses.insert status (.ref (.component .responses id)) }) s.pass .done
  | response {status : String} (hkind : a.kind = .response)
    (hkeyed : keyed .response a.argument = .ok (status, none)) :
    Amendment s a place
      (fun o => { o with
        responses := o.responses.insert status (.item { description := a.bodyText }) })
      (s.pass.enterContent (.response (.inline place status))) .done
  | callbackReference {key id : String} (hkind : a.kind = .callback)
    (hkeyed : keyed .callback a.argument = .ok (key, some id)) :
    Amendment s a place
      (fun o => { o with
        callbacks := o.callbacks.insert key (.ref (.component .callbacks id)) }) s.pass .done
  | callback {key : String} (hkind : a.kind = .callback)
    (hkeyed : keyed .callback a.argument = .ok (key, none)) :
    Amendment s a place (fun o => { o with callbacks := o.callbacks.insert key (.item {}) })
      s.pass (.entered (place.callback key))

/-- Where the object that an annotation needs is no longer in the document. -/
inductive Dangling (value : Option String) (s : State) (a : Annotation) : Prop
  | server {index : Nat} (hscope : s.pass.scope.server? = some index)
    (hindex : s.doc.servers.length ≤ index)
  | operation {place : OperationPlace} (hscope : s.pass.scope.operation? = some place)
    (hoperation : s.doc.operation? place = none)
  | container {header : Method × String × String} (hkind : a.kind = .operation)
    (hheader : operationHeader a.argument = .ok header)
    (hpaths : s.doc.paths? s.pass.container = none)
  | schema {read : Schema × Option String} {place : ContentPlace} (hkind : a.kind = .jsonSchema)
    (hread : readSchema value a.argument a.bodyText = .ok read)
    (hscope : s.pass.scope.content? = some place) (hcontent : s.doc.hasContent place = false)
  | jsonExample {read : String × Example} {place : ContentPlace} (hkind : a.kind = .jsonExample)
    (hread : readExample a.argument a.bodyText = .ok read)
    (hscope : s.pass.scope.content? = some place) (hcontent : s.doc.hasContent place = false)

/-- What an annotation can do to a state. -/
inductive Rule (value : Option String) (s : State) (a : Annotation) : State → Outcome → Prop
  | id (hkind : a.kind = .id) :
    Rule value s a { s with pass := { s.pass with componentId := some a.argument } } .done
  | api (hkind : a.kind = .api) :
    Rule value s a { s with doc := { s.doc with info :=
      { s.doc.info with title := a.argument, description := a.bodyText } } } .done
  | version (hkind : a.kind = .version) :
    Rule value s a
      { s with doc := { s.doc with info := { s.doc.info with version := a.argument } } } .done
  | server (hkind : a.kind = .server) :
    Rule value s a
      { doc := { s.doc with
          servers := s.doc.servers ++ [{ url := a.argument, description := a.bodyText }] }
        pass := s.pass.enterServer s.doc.servers.length } .done
  | serverVariable {index : Nat} {name default : String} {allowed : List String}
    (hkind : a.kind = .serverVariable) (hscope : s.pass.scope.server? = some index)
    (hwords : words a.argument = name :: default :: allowed)
    (hindex : index < s.doc.servers.length) :
    Rule value s a
      { s with doc :=
          setVariable s.doc index name { allowed, default, description := a.bodyText } } .done
  | tag (hkind : a.kind = .tag) (hbody : a.bodyText ≠ "") :
    Rule value s a
      { s with doc := { s.doc with
          tags := s.doc.tags ++ [{ name := a.argument, description := a.bodyText }] } } .done
  | security {name : String} {scopes : List String} (hkind : a.kind = .securityRequirement)
    (hscope : s.pass.scope.operation? = none) (hwords : words a.argument = name :: scopes) :
    Rule value s a
      { s with doc := { s.doc with security := s.doc.security ++ [⟨[(name, scopes)]⟩] } } .done
  | apiKeyScheme {name field : String} {location : ApiKeyLocation} (hkind : a.kind = .apiKeyScheme)
    (hheader : apiKeyHeader a.argument = .ok (name, field, location)) :
    Rule value s a
      { s with doc := registerScheme s.doc name (.apiKey a.bodyText field location) } .done
  | httpScheme {name scheme : String} {rest : List String} {format : Option String}
    (hkind : a.kind = .httpScheme) (hwords : words a.argument = name :: scheme :: rest)
    (hformat : bearerFormat (.ofList (scheme.toList.map Char.toLower)) rest = .ok format) :
    Rule value s a
      { doc :=
          registerScheme s.doc name
            (.http a.bodyText (.ofList (scheme.toList.map Char.toLower)) format)
        pass := s.pass } .done
  | operation {method : Method} {path summary : String} (hkind : a.kind = .operation)
    (hheader : operationHeader a.argument = .ok (method, path, summary))
    (hpaths : (s.doc.paths? s.pass.container).isSome) :
    Rule value s a
      { doc := s.doc.modifyPaths s.pass.container fun paths =>
          paths.setOperation path method { summary, description := a.bodyText }
        pass := s.pass.enterOperation { container := s.pass.container, path, method } } .done
  | amend {place : OperationPlace} {f : Operation → Operation} {pass : Pass} {outcome : Outcome}
    (hscope : s.pass.scope.operation? = some place) (hoperation : (s.doc.operation? place).isSome)
    (h : Amendment s a place f pass outcome) :
    Rule value s a { doc := s.doc.modifyOperation place f, pass } outcome
  | namedParameter {name : String} {location : ParameterLocation} {id : String}
    {place? : Option OperationPlace} (hkind : a.kind = .parameter)
    (href : Argument.reference? a.argument = none)
    (hheader : parameterHeader a.argument = .ok (name, location, some id))
    (hscope : s.pass.scope.operation? = place?)
    (hoperation : ∀ place ∈ place?, (s.doc.operation? place).isSome) :
    Rule value s a
      { doc :=
          referToParameter (registerParameter s.doc id (.declare name location a.bodyText)) id
            place?
        pass := s.pass.enterContent (.parameter (.component id)) } .done
  | parameter {name : String} {location : ParameterLocation} {id : String}
    (hkind : a.kind = .parameter) (href : Argument.reference? a.argument = none)
    (hheader : parameterHeader a.argument = .ok (name, location, none))
    (hscope : s.pass.scope.operation? = none) (hid : s.pass.takeId = .ok id) :
    Rule value s a
      { doc := registerParameter s.doc id (.declare name location a.bodyText)
        pass := s.pass.dropId.enterContent (.parameter (.component id)) } .done
  | requestBody {id : String} (hkind : a.kind = .requestBody)
    (href : Argument.reference? a.argument = none) (hscope : s.pass.scope.operation? = none)
    (hid : s.pass.takeId = .ok id) :
    Rule value s a
      { doc := registerRequestBody s.doc id { description := a.bodyText }
        pass := s.pass.dropId.enterContent (.requestBody (.component id)) } .done
  | response {id : String} (hkind : a.kind = .response)
    (hscope : s.pass.scope.operation? = none) (hid : s.pass.takeId = .ok id) :
    Rule value s a
      { doc := registerResponse s.doc id { description := a.bodyText }
        pass := s.pass.dropId.enterContent (.response (.component id)) } .done
  | callback {id : String} (hkind : a.kind = .callback)
    (hscope : s.pass.scope.operation? = none) (hid : s.pass.takeId = .ok id) :
    Rule value s a { doc := registerCallback s.doc id, pass := s.pass.dropId }
      (.entered (.component id))
  | attachSchema {schema : Schema} {id? : Option String} {place : ContentPlace}
    (hkind : a.kind = .jsonSchema)
    (hread : readSchema value a.argument a.bodyText = .ok (schema, id?))
    (hscope : s.pass.scope.content? = some place) (hcontent : s.doc.hasContent place) :
    Rule value s a { s with doc := s.doc.setSchema schema place } .done
  | schema {json : Json} {id : String} (hkind : a.kind = .jsonSchema)
    (hread : readSchema value a.argument a.bodyText = .ok (.item json, some id))
    (hscope : s.pass.scope.content? = none) (hid : id ≠ "") :
    Rule value s a { s with doc := s.doc.modifyComponents fun c =>
      { c with schemas := c.schemas.insert id json } } .done
  | jsonExample {name : String} {sample : Example} {place : ContentPlace}
    (hkind : a.kind = .jsonExample) (hread : readExample a.argument a.bodyText = .ok (name, sample))
    (hscope : s.pass.scope.content? = some place) (hcontent : s.doc.hasContent place) :
    Rule value s a { s with doc := s.doc.setExample name sample place } .done
  | failed {error : AnnotationError} (h : error = .danglingScope → Dangling value s a) :
    Rule value s a s (.failed error)
  -- the key is taken before it is found to be none
  | keyless (hid : s.pass.takeId = .error .missingComponentId) :
    Rule value s a { s with pass := s.pass.dropId } (.failed .missingComponentId)
  -- a parameter is registered before the operation that refers to it is looked up
  | unreferred {name : String} {location : ParameterLocation} {id : String}
    {place : OperationPlace} (hkind : a.kind = .parameter)
    (href : Argument.reference? a.argument = none)
    (hheader : parameterHeader a.argument = .ok (name, location, some id))
    (hscope : s.pass.scope.operation? = some place) (hoperation : s.doc.operation? place = none) :
    Rule value s a
      { s with doc := registerParameter s.doc id (.declare name location a.bodyText) }
      (.failed .danglingScope)

/-! ### Checks -/

/-- A check that does not look at the document. -/
def NeverDangles {α : Type} (checked : Except AnnotationError α) : Prop :=
  checked ≠ .error .danglingScope

namespace NeverDangles

variable {α β : Type}

lemma bind {x : Except AnnotationError α} {f : α → Except AnnotationError β} (hx : NeverDangles x)
    (hf : ∀ v, NeverDangles (f v)) : NeverDangles (x >>= f) := by
  cases x with
  | error e => exact fun h => hx (by cases h; rfl)
  | ok v => exact hf v

lemma require (form : Form) (parsed : Option α) : NeverDangles (require form parsed) := by
  cases parsed <;> exact fun h => by cases h

lemma choose (choice : Choice) (value? : String → Option α) (word : String) :
    NeverDangles (choose choice value? word) := by
  unfold Builder.choose
  split <;> exact fun h => by cases h

lemma apiKeyHeader (argument : String) : NeverDangles (apiKeyHeader argument) :=
  (require _ _).bind fun _ => (choose _ _ _).bind fun _ h => by cases h

lemma operationHeader (argument : String) : NeverDangles (operationHeader argument) :=
  (require _ _).bind fun _ => (choose _ _ _).bind fun _ h => by cases h

lemma parameterHeader (argument : String) : NeverDangles (parameterHeader argument) :=
  (require _ _).bind fun _ => (choose _ _ _).bind fun _ h => by cases h

lemma bearerFormat (scheme : String) (rest : List String) :
    NeverDangles (bearerFormat scheme rest) := by
  unfold Builder.bearerFormat
  split_ifs
  · cases rest <;> exact fun h => by cases h
  · exact fun h => by cases h

lemma keyed (form : Form) (argument : String) : NeverDangles (keyed form argument) := by
  unfold Builder.keyed
  repeat' split
  all_goals exact fun h => by cases h

lemma schemaId (fields : OrderedMap Json) : NeverDangles (schemaId fields) := by
  unfold Builder.schemaId
  repeat' split
  all_goals exact fun h => by cases h

lemma decodeSchema (text : String) : NeverDangles (decodeSchema text) := by
  unfold Builder.decodeSchema
  split
  · exact fun h => by cases h
  · exact (schemaId _).bind fun _ h => by cases h

lemma readSchema (value : Option String) (argument body : String) :
    NeverDangles (readSchema value argument body) := by
  unfold Builder.readSchema
  split
  · exact fun h => by cases h
  · dsimp only
    split_ifs
    · exact fun h => by cases h
    · exact (decodeSchema _).bind fun _ h => by cases h

lemma readExample (argument body : String) : NeverDangles (readExample argument body) := by
  unfold Builder.readExample
  split
  · exact fun h => by cases h
  · exact (require _ _).bind fun _ h => by cases h

end NeverDangles

lemma takeId_eq_error {pass : Pass} {error : AnnotationError} (h : pass.takeId = .error error) :
    error = .missingComponentId := by
  unfold Pass.takeId at h
  split at h
  · cases h; rfl
  · split_ifs at h
    cases h; rfl

lemma currentOperation_eq_ok {doc : Document} {pass : Pass} {place? : Option OperationPlace}
    (h : currentOperation doc pass = .ok place?) :
    pass.scope.operation? = place? ∧ ∀ place ∈ place?, (doc.operation? place).isSome := by
  unfold currentOperation at h
  split at h
  next hscope =>
    cases h
    exact ⟨hscope, fun place hplace => by cases hplace⟩
  next place hscope =>
    split_ifs at h with hoperation
    cases h
    refine ⟨hscope, fun place' hplace => ?_⟩
    cases hplace
    exact hoperation

lemma currentOperation_eq_error {doc : Document} {pass : Pass} {error : AnnotationError}
    (h : currentOperation doc pass = .error error) :
    error = .danglingScope ∧
      ∃ place, pass.scope.operation? = some place ∧ doc.operation? place = none := by
  unfold currentOperation at h
  split at h
  next => cases h
  next place hscope =>
    split_ifs at h with hoperation
    cases h
    exact ⟨rfl, place, hscope, Option.not_isSome_iff_eq_none.mp hoperation⟩

lemma requireOperation_eq_ok {doc : Document} {pass : Pass} {place : OperationPlace}
    (h : requireOperation doc pass = .ok place) :
    pass.scope.operation? = some place ∧ (doc.operation? place).isSome := by
  unfold requireOperation at h
  cases hcurrent : currentOperation doc pass with
  | error e => rw [hcurrent] at h; cases h
  | ok place? =>
    obtain ⟨hscope, hoperation⟩ := currentOperation_eq_ok hcurrent
    rw [hcurrent] at h
    cases place? with
    | none => cases h
    | some place' => cases h; exact ⟨hscope, hoperation place rfl⟩

lemma requireOperation_eq_error {doc : Document} {pass : Pass}
    (h : requireOperation doc pass = .error .danglingScope) :
    ∃ place, pass.scope.operation? = some place ∧ doc.operation? place = none := by
  unfold requireOperation at h
  cases hcurrent : currentOperation doc pass with
  | error e => exact (currentOperation_eq_error hcurrent).2
  | ok place? =>
    rw [hcurrent] at h
    cases place? <;> cases h

/-! ### Completeness of the rules -/

/-- The effect is one that the rules allow. -/
def Allowed (value : Option String) (s : State) (a : Annotation) (effect : Effect) : Prop :=
  Rule value s a effect.state effect.outcome

namespace Allowed

lemma failed {error : AnnotationError} (h : error = .danglingScope → Dangling value s a) :
    Allowed value s a ((Effect.unchanged s.doc s.pass).fail error) :=
  Rule.failed h

lemma check {α : Type} {effect : Effect} {checked : Except AnnotationError α} {next : α → Effect}
    (herror : ∀ error, checked = .error error → Allowed value s a (effect.fail error))
    (hok : ∀ v, checked = .ok v → Allowed value s a (next v)) :
    Allowed value s a (effect.check checked next) := by
  cases checked with
  | error error => exact herror error rfl
  | ok v => exact hok v rfl

/-- The common case: a check on the argument, made before anything has been done. -/
lemma checkArgument {α : Type} {checked : Except AnnotationError α} {next : α → Effect}
    (hnever : NeverDangles checked) (hok : ∀ v, checked = .ok v → Allowed value s a (next v)) :
    Allowed value s a ((Effect.unchanged s.doc s.pass).check checked next) :=
  check (fun _ herror => failed fun hdangling => absurd (hdangling ▸ herror) hnever) hok

lemma checkCurrent {next : Option OperationPlace → Effect}
    (hok : ∀ place?, s.pass.scope.operation? = place? →
      (∀ place ∈ place?, (s.doc.operation? place).isSome) → Allowed value s a (next place?)) :
    Allowed value s a
      ((Effect.unchanged s.doc s.pass).check (currentOperation s.doc s.pass) next) := by
  refine check (fun error herror => failed fun _ => ?_) fun place? hplace => ?_
  · obtain ⟨-, place, hscope, hoperation⟩ := currentOperation_eq_error herror
    exact .operation hscope hoperation
  · obtain ⟨hscope, hoperation⟩ := currentOperation_eq_ok hplace
    exact hok place? hscope hoperation

lemma checkRequired {next : OperationPlace → Effect}
    (hok : ∀ place, s.pass.scope.operation? = some place → (s.doc.operation? place).isSome →
      Allowed value s a (next place)) :
    Allowed value s a
      ((Effect.unchanged s.doc s.pass).check (requireOperation s.doc s.pass) next) := by
  refine check (fun error herror => failed fun hdangling => ?_) fun place hplace => ?_
  · obtain ⟨place, hscope, hoperation⟩ := requireOperation_eq_error (hdangling ▸ herror)
    exact .operation hscope hoperation
  · obtain ⟨hscope, hoperation⟩ := requireOperation_eq_ok hplace
    exact hok place hscope hoperation

lemma checkId {next : String → Effect}
    (hok : ∀ id, s.pass.takeId = .ok id → Allowed value s a (next id)) :
    Allowed value s a ((Effect.unchanged s.doc s.pass.dropId).check s.pass.takeId next) := by
  refine check (fun error herror => ?_) hok
  obtain rfl := takeId_eq_error herror
  exact Rule.keyless herror

end Allowed

lemma allowed_variable (hkind : a.kind = .serverVariable) :
    Allowed value s a (applyVariable s.doc s.pass a.argument a.bodyText) := by
  unfold applyVariable
  split
  next => exact .failed fun h => by cases h
  next index hscope =>
    split
    next name default allowed hwords =>
      split_ifs with hindex
      · exact Rule.serverVariable hkind hscope hwords hindex
      · exact .failed fun _ => .server hscope (Nat.le_of_not_lt hindex)
    next => exact .failed fun h => by cases h

lemma allowed_tag (hkind : a.kind = .tag) :
    Allowed value s a (applyTag s.doc s.pass a.argument a.bodyText) := by
  unfold applyTag
  split_ifs with hbody
  · apply Allowed.checkRequired
    intro place hscope hoperation
    exact Rule.amend hscope hoperation (.tag hkind hbody)
  · exact Rule.tag hkind hbody

lemma allowed_securityRequirement (hkind : a.kind = .securityRequirement) :
    Allowed value s a (applySecurityRequirement s.doc s.pass a.argument) := by
  unfold applySecurityRequirement
  split
  next => exact .failed fun h => by cases h
  next name scopes hwords =>
    apply Allowed.checkCurrent
    intro place? hscope hoperation
    cases place? with
    | none => exact Rule.security hkind hscope hwords
    | some place => exact Rule.amend hscope (hoperation place rfl) (.security hkind hwords)

lemma allowed_httpScheme (hkind : a.kind = .httpScheme) :
    Allowed value s a (applyHttpScheme s.doc s.pass a.argument a.bodyText) := by
  unfold applyHttpScheme
  split
  next name scheme rest hwords =>
    apply Allowed.checkArgument (.bearerFormat _ _)
    intro format hformat
    exact Rule.httpScheme hkind hwords hformat
  next => exact .failed fun h => by cases h

lemma allowed_operation (hkind : a.kind = .operation) :
    Allowed value s a (applyOperation s.doc s.pass a.argument a.bodyText) := by
  apply Allowed.checkArgument (.operationHeader _)
  rintro ⟨method, path, summary⟩ hheader
  dsimp only
  split_ifs with hpaths
  · exact Rule.operation hkind hheader hpaths
  · exact Rule.failed fun _ =>
      .container hkind hheader (Option.not_isSome_iff_eq_none.mp hpaths)

/-- Registering a parameter moves no operation. -/
lemma operation?_registerParameter (doc : Document) (id : String) (parameter : Parameter)
    (place : OperationPlace) :
    (registerParameter doc id parameter).operation? place = doc.operation? place := by
  apply Document.operation?_congr <;> rfl

lemma allowed_namedParameter {name : String} {location : ParameterLocation} {id : String}
    (hkind : a.kind = .parameter) (href : Argument.reference? a.argument = none)
    (hheader : parameterHeader a.argument = .ok (name, location, some id)) :
    Allowed value s a
      (applyNamedParameter s.doc s.pass (.declare name location a.bodyText) id) := by
  apply Allowed.check
  · intro error herror
    obtain ⟨rfl, place, hscope, hoperation⟩ := currentOperation_eq_error herror
    rw [operation?_registerParameter] at hoperation
    exact Rule.unreferred hkind href hheader hscope hoperation
  · intro place? hplace
    obtain ⟨hscope, hoperation⟩ := currentOperation_eq_ok hplace
    simp only [operation?_registerParameter] at hoperation
    exact Rule.namedParameter hkind href hheader hscope hoperation

lemma allowed_plainParameter {name : String} {location : ParameterLocation}
    (hkind : a.kind = .parameter) (href : Argument.reference? a.argument = none)
    (hheader : parameterHeader a.argument = .ok (name, location, none)) :
    Allowed value s a (applyPlainParameter s.doc s.pass (.declare name location a.bodyText)) := by
  unfold applyPlainParameter
  split
  next place hscope =>
    split
    next hoperation => exact .failed fun _ => .operation hscope hoperation
    next operation hoperation =>
      have hsome : (s.doc.operation? place).isSome := by rw [hoperation]; rfl
      exact Rule.amend hscope hsome (.parameter hkind href hheader hoperation)
  next hscope =>
    apply Allowed.checkId
    intro id hid
    exact Rule.parameter hkind href hheader hscope hid

lemma allowed_parameter (hkind : a.kind = .parameter) :
    Allowed value s a (applyParameter s.doc s.pass a.argument a.bodyText) := by
  unfold applyParameter
  split
  next id href =>
    apply Allowed.checkRequired
    intro place hscope hoperation
    exact Rule.amend hscope hoperation (.parameterReference hkind href)
  next href =>
    apply Allowed.checkArgument (.parameterHeader _)
    rintro ⟨name, location, id?⟩ hheader
    cases id? with
    | none => exact allowed_plainParameter hkind href hheader
    | some id => exact allowed_namedParameter hkind href hheader

lemma allowed_requestBody (hkind : a.kind = .requestBody) :
    Allowed value s a (applyRequestBody s.doc s.pass a.argument a.bodyText) := by
  unfold applyRequestBody
  split
  next id href =>
    apply Allowed.checkRequired
    intro place hscope hoperation
    exact Rule.amend hscope hoperation (.requestBodyReference hkind href)
  next href =>
    apply Allowed.checkCurrent
    intro place? hscope hoperation
    cases place? with
    | none =>
      apply Allowed.checkId
      intro id hid
      exact Rule.requestBody hkind href hscope hid
    | some place => exact Rule.amend hscope (hoperation place rfl) (.requestBody hkind href)

lemma allowed_response (hkind : a.kind = .response) :
    Allowed value s a (applyResponse s.doc s.pass a.argument a.bodyText) := by
  unfold applyResponse
  split
  next hscope =>
    apply Allowed.checkId
    intro id hid
    exact Rule.response hkind hscope hid
  next place hscope =>
    apply Allowed.checkArgument (.keyed _ _)
    rintro ⟨status, reference?⟩ hkeyed
    dsimp only
    split_ifs with hoperation
    · cases reference? with
      | none => exact Rule.amend hscope hoperation (.response hkind hkeyed)
      | some id => exact Rule.amend hscope hoperation (.responseReference hkind hkeyed)
    · exact .failed fun _ => .operation hscope (Option.not_isSome_iff_eq_none.mp hoperation)

lemma allowed_callback (hkind : a.kind = .callback) :
    Allowed value s a (applyCallback s.doc s.pass a.argument) := by
  unfold applyCallback
  split
  next hscope =>
    apply Allowed.checkId
    intro id hid
    exact Rule.callback hkind hscope hid
  next place hscope =>
    apply Allowed.checkArgument (.keyed _ _)
    rintro ⟨key, reference?⟩ hkeyed
    dsimp only
    split_ifs with hoperation
    · cases reference? with
      | none => exact Rule.amend hscope hoperation (.callback hkind hkeyed)
      | some id => exact Rule.amend hscope hoperation (.callbackReference hkind hkeyed)
    · exact .failed fun _ => .operation hscope (Option.not_isSome_iff_eq_none.mp hoperation)

lemma allowed_registerSchema {schema : Schema} {id? : Option String} (hkind : a.kind = .jsonSchema)
    (hread : readSchema value a.argument a.bodyText = .ok (schema, id?))
    (hscope : s.pass.scope.content? = none) :
    Allowed value s a (registerSchema s.doc s.pass schema id?) := by
  unfold registerSchema
  split
  next => exact .failed fun h => by cases h
  next json id =>
    split_ifs with hid
    · exact .failed fun h => by cases h
    · exact Rule.schema hkind hread hscope hid
  next => exact .failed fun h => by cases h

lemma allowed_jsonSchema (hkind : a.kind = .jsonSchema) :
    Allowed value s a (applyJsonSchema value s.doc s.pass a.argument a.bodyText) := by
  apply Allowed.checkArgument (.readSchema _ _ _)
  rintro ⟨schema, id?⟩ hread
  dsimp only
  split
  next place hscope =>
    split_ifs with hcontent
    · exact Rule.attachSchema hkind hread hscope hcontent
    · exact .failed fun _ => .schema hkind hread hscope (Bool.not_eq_true _ ▸ hcontent)
  next hscope => exact allowed_registerSchema hkind hread hscope

lemma allowed_jsonExample (hkind : a.kind = .jsonExample) :
    Allowed value s a (applyJsonExample s.doc s.pass a.argument a.bodyText) := by
  apply Allowed.checkArgument (.readExample _ _)
  rintro ⟨name, sample⟩ hread
  dsimp only
  split
  next => exact .failed fun h => by cases h
  next place hscope =>
    split_ifs with hcontent
    · exact Rule.jsonExample hkind hread hscope hcontent
    · exact .failed fun _ => .jsonExample hkind hread hscope (Bool.not_eq_true _ ▸ hcontent)

lemma allowed_apply (value : Option String) (s : State) (a : Annotation) :
    Allowed value s a (apply value s.doc s.pass a) := by
  unfold apply
  split
  next hkind => exact Rule.id hkind
  next hkind => exact Rule.api hkind
  next hkind => exact Rule.version hkind
  next hkind => exact Rule.server hkind
  next hkind => exact allowed_variable hkind
  next hkind => exact allowed_tag hkind
  next hkind => exact allowed_securityRequirement hkind
  next hkind =>
    apply Allowed.checkArgument (.apiKeyHeader _)
    rintro ⟨name, field, location⟩ hheader
    exact Rule.apiKeyScheme hkind hheader
  next hkind => exact allowed_httpScheme hkind
  next hkind => exact allowed_operation hkind
  next hkind => exact allowed_parameter hkind
  next hkind => exact allowed_requestBody hkind
  next hkind => exact allowed_response hkind
  next hkind => exact allowed_jsonSchema hkind
  next hkind => exact allowed_jsonExample hkind
  next hkind => exact allowed_callback hkind

/-- Every annotation follows one of the rules. -/
lemma Rule.of_attempt (h : attempt value s a = (s', outcome)) : Rule value s a s' outcome := by
  cases h
  exact allowed_apply value s a

/-! ### Exactness of the rules -/

lemma currentOperation_of_isSome {doc : Document} {pass : Pass} {place : OperationPlace}
    (hscope : pass.scope.operation? = some place) (hoperation : (doc.operation? place).isSome) :
    currentOperation doc pass = .ok (some place) := by
  simp [currentOperation, hscope, hoperation]

lemma currentOperation_of_none {doc : Document} {pass : Pass}
    (hscope : pass.scope.operation? = none) : currentOperation doc pass = .ok none := by
  simp [currentOperation, hscope]

lemma requireOperation_of_isSome {doc : Document} {pass : Pass} {place : OperationPlace}
    (hscope : pass.scope.operation? = some place) (hoperation : (doc.operation? place).isSome) :
    requireOperation doc pass = .ok place := by
  rw [requireOperation, currentOperation_of_isSome hscope hoperation]
  rfl

@[simp] lemma Effect.check_ok {α : Type} (effect : Effect) (v : α) (next : α → Effect) :
    effect.check (.ok v) next = next v :=
  rfl

lemma Amendment.attempt_eq {place : OperationPlace} {f : Operation → Operation} {pass : Pass}
    (h : Amendment s a place f pass outcome) (hscope : s.pass.scope.operation? = some place)
    (hoperation : (s.doc.operation? place).isSome) :
    attempt value s a = ({ doc := s.doc.modifyOperation place f, pass }, outcome) := by
  have hcurrent := currentOperation_of_isSome hscope hoperation
  have hrequire := requireOperation_of_isSome hscope hoperation
  cases h with
  | tag hkind hbody =>
    simp only [attempt, apply, hkind, applyTag, if_pos hbody, hrequire, Effect.check_ok]
    rfl
  | security hkind hwords =>
    simp only [attempt, apply, hkind, applySecurityRequirement, hwords, hcurrent, Effect.check_ok]
    rfl
  | parameterReference hkind href =>
    simp only [attempt, apply, hkind, applyParameter, href, hrequire, Effect.check_ok]
    rfl
  | parameter hkind href hheader hplace =>
    simp only [attempt, apply, hkind, applyParameter, href, hheader, Effect.check_ok,
      applyPlainParameter, hscope, hplace]
    rfl
  | requestBodyReference hkind href =>
    simp only [attempt, apply, hkind, applyRequestBody, href, hrequire, Effect.check_ok]
    rfl
  | requestBody hkind href =>
    simp only [attempt, apply, hkind, applyRequestBody, href, hcurrent, Effect.check_ok]
    rfl
  | responseReference hkind hkeyed | response hkind hkeyed =>
    simp only [attempt, apply, hkind, applyResponse, hscope, hkeyed, Effect.check_ok, hoperation,
      if_true]
    rfl
  | callbackReference hkind hkeyed | callback hkind hkeyed =>
    simp only [attempt, apply, hkind, applyCallback, hscope, hkeyed, Effect.check_ok, hoperation,
      if_true]
    rfl

/-- A rule under which an annotation does not fail says what the annotation does. -/
lemma Rule.attempt_eq (h : Rule value s a s' outcome) (hok : ∀ error, outcome ≠ .failed error) :
    attempt value s a = (s', outcome) := by
  cases h with
  | id hkind | api hkind | version hkind | server hkind =>
    simp only [attempt, apply, hkind]
    rfl
  | serverVariable hkind hscope hwords hindex =>
    simp only [attempt, apply, hkind, applyVariable, hscope, hwords, if_pos hindex]
    rfl
  | tag hkind hbody =>
    simp only [attempt, apply, hkind, applyTag, if_neg hbody]
    rfl
  | security hkind hscope hwords =>
    simp only [attempt, apply, hkind, applySecurityRequirement, hwords,
      currentOperation_of_none hscope, Effect.check_ok]
    rfl
  | apiKeyScheme hkind hheader =>
    simp only [attempt, apply, hkind, applyApiKeyScheme, hheader, Effect.check_ok]
    rfl
  | httpScheme hkind hwords hformat =>
    simp only [attempt, apply, hkind, applyHttpScheme, hwords, hformat, Effect.check_ok]
    rfl
  | operation hkind hheader hpaths =>
    simp only [attempt, apply, hkind, applyOperation, hheader, Effect.check_ok, if_pos hpaths]
    rfl
  | amend hscope hoperation h => exact h.attempt_eq hscope hoperation
  | @namedParameter name location id place? hkind href hheader hscope hoperation =>
    have hcurrent : currentOperation (registerParameter s.doc id (.declare name location
        a.bodyText)) s.pass = .ok place? := by
      cases place? with
      | none => exact currentOperation_of_none hscope
      | some place =>
        refine currentOperation_of_isSome hscope ?_
        rw [operation?_registerParameter]
        exact hoperation place rfl
    simp only [attempt, apply, hkind, applyParameter, href, hheader, Effect.check_ok,
      applyNamedParameter, hcurrent]
    rfl
  | parameter hkind href hheader hscope hid =>
    simp only [attempt, apply, hkind, applyParameter, href, hheader, Effect.check_ok,
      applyPlainParameter, hscope, hid]
    rfl
  | requestBody hkind href hscope hid =>
    simp only [attempt, apply, hkind, applyRequestBody, href, currentOperation_of_none hscope,
      Effect.check_ok, hid]
    rfl
  | response hkind hscope hid =>
    simp only [attempt, apply, hkind, applyResponse, hscope, hid, Effect.check_ok]
    rfl
  | callback hkind hscope hid =>
    simp only [attempt, apply, hkind, applyCallback, hscope, hid, Effect.check_ok]
    rfl
  | attachSchema hkind hread hscope hcontent =>
    simp only [attempt, apply, hkind, applyJsonSchema, hread, Effect.check_ok, hscope, hcontent,
      if_true]
    rfl
  | schema hkind hread hscope hid =>
    simp only [attempt, apply, hkind, applyJsonSchema, hread, Effect.check_ok, hscope,
      registerSchema, if_neg hid]
    rfl
  | jsonExample hkind hread hscope hcontent =>
    simp only [attempt, apply, hkind, applyJsonExample, hread, Effect.check_ok, hscope, hcontent,
      if_true]
    rfl
  | failed | keyless | unreferred => exact absurd rfl (hok _)

end ApiScribe.Builder
