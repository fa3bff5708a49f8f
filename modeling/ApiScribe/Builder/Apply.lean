import ApiScribe.Annotation.Basic
import ApiScribe.Builder.Argument
import ApiScribe.Builder.Pass
import ApiScribe.Json.Parse
import ApiScribe.Log
import ApiScribe.OpenApi.Shorthand

/-!
# The effect of an annotation

An annotation is checked and applied from left to right. What it leaves behind is the document and
what the pass remembers. One that fails stops where it fails: the component key it has taken is
gone, and a parameter it has registered stays.
-/

namespace ApiScribe.Builder

open OpenApi Text

/-- What became of one annotation. -/
inductive Outcome where
  | done
  /-- The following annotations are the body of the callback. -/
  | entered (callback : Container)
  | failed (error : AnnotationError)
deriving Repr, DecidableEq

/-- What an annotation leaves behind. -/
structure Effect where
  doc : Document
  pass : Pass
  outcome : Outcome := .done
  /-- What is reported on the way. -/
  log : List Log.Record := []

namespace Effect

def unchanged (doc : Document) (pass : Pass) : Effect := { doc, pass }

/-- Stop with what has been done so far. -/
def fail (effect : Effect) (error : AnnotationError) : Effect :=
  { effect with outcome := .failed error }

/-- Go on with what a check yields, or stop with what has been done so far. -/
def check {α : Type} (effect : Effect) (checked : Except AnnotationError α) (next : α → Effect) :
    Effect :=
  match checked with
  | .ok value => next value
  | .error error => effect.fail error

end Effect

open Effect

/-- The operation in scope, if any, which must still be there. -/
def currentOperation (doc : Document) (pass : Pass) :
    Except AnnotationError (Option OperationPlace) :=
  match pass.scope.operation? with
  | none => .ok none
  | some place => if (doc.operation? place).isSome then .ok (some place) else .error .danglingScope

/-- The operation in scope, without which the annotation cannot be used. -/
def requireOperation (doc : Document) (pass : Pass) : Except AnnotationError OperationPlace := do
  match ← currentOperation doc pass with
  | some place => .ok place
  | none => .error (.missingScope .operation)

/-- A word of an argument that is taken from a fixed set. -/
def choose {α : Type} (choice : Choice) (value? : String → Option α) (word : String) :
    Except AnnotationError α :=
  match value? word with
  | some value => .ok value
  | none => .error (.invalidValue choice word)

def require {α : Type} (form : Form) (parsed : Option α) : Except AnnotationError α :=
  match parsed with
  | some value => .ok value
  | none => .error (.invalidArgument form)

/-! ### The document as a whole -/

def applyId (doc : Document) (pass : Pass) (argument : String) : Effect :=
  { doc, pass := { pass with componentId := some argument } }

def applyApi (doc : Document) (pass : Pass) (argument body : String) : Effect :=
  { doc := { doc with info := { doc.info with title := argument, description := body } }, pass }

def applyVersion (doc : Document) (pass : Pass) (argument : String) : Effect :=
  { doc := { doc with info := { doc.info with version := argument } }, pass }

def applyServer (doc : Document) (pass : Pass) (argument body : String) : Effect :=
  { doc := { doc with servers := doc.servers ++ [{ url := argument, description := body }] }
    pass := pass.enterServer doc.servers.length }

def setVariable (doc : Document) (index : Nat) (name : String) (entry : ServerVariable) :
    Document :=
  { doc with servers := doc.servers.modify index fun s =>
      { s with placeholders := s.placeholders.insert name entry } }

def applyVariable (doc : Document) (pass : Pass) (argument body : String) : Effect :=
  match pass.scope.server? with
  | none => (unchanged doc pass).fail (.missingScope .server)
  | some index =>
    match words argument with
    | name :: default :: allowed =>
      if index < doc.servers.length then
        { doc := setVariable doc index name { allowed, default, description := body }, pass }
      else (unchanged doc pass).fail .danglingScope
    | _ => (unchanged doc pass).fail (.invalidArgument .serverVariable)

/-- A tag with a description belongs to the document, one without to the operation in scope. -/
def applyTag (doc : Document) (pass : Pass) (argument body : String) : Effect :=
  if body = "" then
    (unchanged doc pass).check (requireOperation doc pass) fun place =>
      { doc := doc.modifyOperation place fun o => { o with tags := o.tags ++ [argument] }
        pass }
  else { doc := { doc with tags := doc.tags ++ [{ name := argument, description := body }] }, pass }

/-! ### Security -/

def addSecurity (doc : Document) (requirement : SecurityRequirement) :
    Option OperationPlace → Document
  | some place =>
    doc.modifyOperation place fun o => { o with security := o.security ++ [requirement] }
  | none => { doc with security := doc.security ++ [requirement] }

def applySecurityRequirement (doc : Document) (pass : Pass) (argument : String) : Effect :=
  match words argument with
  | [] => (unchanged doc pass).fail (.invalidArgument .securityRequirement)
  | name :: scopes =>
    (unchanged doc pass).check (currentOperation doc pass) fun place? =>
      { doc := addSecurity doc ⟨[(name, scopes)]⟩ place?, pass }

def registerScheme (doc : Document) (name : String) (scheme : SecurityScheme) : Document :=
  doc.modifyComponents fun c => { c with securitySchemes := c.securitySchemes.insert name scheme }

/-- Name, field and location of an API key. -/
def apiKeyHeader (argument : String) :
    Except AnnotationError (String × String × ApiKeyLocation) := do
  let (name, field, location) ← require .apiKeyScheme (Argument.apiKey? argument)
  let location ← choose .apiKeyLocation ApiKeyLocation.ofName? location
  return (name, field, location)

def applyApiKeyScheme (doc : Document) (pass : Pass) (argument body : String) : Effect :=
  (unchanged doc pass).check (apiKeyHeader argument) fun (name, field, location) =>
    { doc := registerScheme doc name (.apiKey body field location)
      pass
      log := [.debug ("Registering API key security scheme: " ++ name ++ " (" ++ field ++ " in " ++
        location.name ++ ")")] }

/-- The bearer scheme, and no other, names the format of its token. -/
def bearerFormat (scheme : String) (rest : List String) :
    Except AnnotationError (Option String) :=
  if scheme = "bearer" then
    match rest with
    | [] => .error (.invalidArgument .bearerFormat)
    | format :: _ => .ok (some format)
  else .ok none

def applyHttpScheme (doc : Document) (pass : Pass) (argument body : String) : Effect :=
  match words argument with
  | name :: scheme :: rest =>
    let scheme := String.ofList (scheme.toList.map Char.toLower)
    (unchanged doc pass).check (bearerFormat scheme rest) fun format =>
      { doc := registerScheme doc name (.http body scheme format)
        pass
        log := [.debug ("Registering HTTP security scheme: " ++ name)] }
  | _ => (unchanged doc pass).fail (.invalidArgument .httpScheme)

/-! ### Operations and their parts -/

/-- Method, path and summary of an operation. -/
def operationHeader (argument : String) : Except AnnotationError (Method × String × String) := do
  let (method, path, summary) ← require .operation (Argument.operation? argument)
  let method ← choose .method Method.ofName? method
  return (method, path, summary)

/-- An operation is reported before its table is looked up, so also when that fails. -/
def applyOperation (doc : Document) (pass : Pass) (argument body : String) : Effect :=
  (unchanged doc pass).check (operationHeader argument) fun (method, path, summary) =>
    let log := [.debug ("Adding operation: " ++ method.name ++ " " ++ path)]
    if (doc.paths? pass.container).isSome then
      let operation : Operation := { summary, description := body }
      { doc := doc.modifyPaths pass.container (·.setOperation path method operation)
        pass := pass.enterOperation { container := pass.container, path, method }
        log }
    else fail { doc, pass, log } .danglingScope

def addParameter (doc : Document) (place : OperationPlace) (parameter : RefOr Parameter) :
    Document :=
  doc.modifyOperation place fun o => { o with parameters := o.parameters ++ [parameter] }

def registerParameter (doc : Document) (id : String) (parameter : Parameter) : Document :=
  doc.modifyComponents fun c => { c with parameters := c.parameters.insert id parameter }

def registeringParameter (id : String) (parameter : Parameter) : Log.Record :=
  .debug ("Registering parameter component: " ++ id ++ " (" ++ parameter.name ++ " in " ++
    parameter.location.name ++ ")")

def parameterReference (id : String) : RefOr Parameter := .ref (.component .parameters id)

/-- Let an operation, if there is one, refer to a registered parameter. -/
def referToParameter (doc : Document) (id : String) : Option OperationPlace → Document
  | some place => addParameter doc place (parameterReference id)
  | none => doc

/-- A parameter with a component ID of its own is registered, and then referred to by the operation
in scope if there is one. -/
def applyNamedParameter (doc : Document) (pass : Pass) (parameter : Parameter) (id : String) :
    Effect :=
  let registered := registerParameter doc id parameter
  let log := [registeringParameter id parameter]
  check { doc := registered, pass, log } (currentOperation registered pass) fun place? =>
    { doc := referToParameter registered id place?
      pass := pass.enterContent (.parameter (.component id))
      log }

/-- Any other parameter belongs to the operation in scope, or is registered. -/
def applyPlainParameter (doc : Document) (pass : Pass) (parameter : Parameter) : Effect :=
  match pass.scope.operation? with
  | some place =>
    match doc.operation? place with
    | none => (unchanged doc pass).fail .danglingScope
    | some operation =>
      { doc := addParameter doc place (.item parameter)
        pass := pass.enterContent (.parameter (.inline place operation.parameters.length)) }
  | none =>
    (unchanged doc pass.dropId).check pass.takeId fun id =>
      { doc := registerParameter doc id parameter
        pass := pass.dropId.enterContent (.parameter (.component id))
        log := [registeringParameter id parameter] }

/-- Name, location and component ID of a parameter. -/
def parameterHeader (argument : String) :
    Except AnnotationError (String × ParameterLocation × Option String) := do
  let (name, location, id?) ← require .parameter (Argument.parameter? argument)
  let location ← choose .parameterLocation ParameterLocation.ofName? location
  return (name, location, id?)

def applyParameter (doc : Document) (pass : Pass) (argument body : String) : Effect :=
  match Argument.reference? argument with
  | some id =>
    (unchanged doc pass).check (requireOperation doc pass) fun place =>
      { doc := addParameter doc place (parameterReference id), pass }
  | none =>
    (unchanged doc pass).check (parameterHeader argument) fun (name, location, id?) =>
      let parameter := Parameter.declare name location body
      match id? with
      | some id => applyNamedParameter doc pass parameter id
      | none => applyPlainParameter doc pass parameter

def setRequestBody (doc : Document) (place : OperationPlace) (body : RefOr RequestBody) :
    Document :=
  doc.modifyOperation place fun o => { o with requestBody := some body }

def registerRequestBody (doc : Document) (id : String) (body : RequestBody) : Document :=
  doc.modifyComponents fun c => { c with requestBodies := c.requestBodies.insert id body }

def applyRequestBody (doc : Document) (pass : Pass) (argument body : String) : Effect :=
  match Argument.reference? argument with
  | some id =>
    (unchanged doc pass).check (requireOperation doc pass) fun place =>
      { doc := setRequestBody doc place (.ref (.component .requestBodies id)), pass }
  | none =>
    (unchanged doc pass).check (currentOperation doc pass) fun
      | some place =>
        { doc := setRequestBody doc place (.item { description := body })
          pass := pass.enterContent (.requestBody (.inline place)) }
      | none =>
        (unchanged doc pass.dropId).check pass.takeId fun id =>
          { doc := registerRequestBody doc id { description := body }
            pass := pass.dropId.enterContent (.requestBody (.component id))
            log := [.debug ("Registering request body component: " ++ id)] }

/-- A key by itself, or a key and a component reference. -/
def keyed (form : Form) (argument : String) : Except AnnotationError (String × Option String) :=
  match words argument with
  | [key] => .ok (key, none)
  | [key, reference] =>
    match Argument.reference? reference with
    | some id => .ok (key, some id)
    | none => .error (.invalidArgument .reference)
  | _ => .error (.invalidArgument form)

def setResponse (doc : Document) (place : OperationPlace) (status : String)
    (response : RefOr Response) : Document :=
  doc.modifyOperation place fun o => { o with responses := o.responses.insert status response }

def registerResponse (doc : Document) (id : String) (response : Response) : Document :=
  doc.modifyComponents fun c => { c with responses := c.responses.insert id response }

def applyResponse (doc : Document) (pass : Pass) (argument body : String) : Effect :=
  match pass.scope.operation? with
  | none =>
    (unchanged doc pass.dropId).check pass.takeId fun id =>
      { doc := registerResponse doc id { description := body }
        pass := pass.dropId.enterContent (.response (.component id))
        log := [.debug ("Registering response component: " ++ id)] }
  | some place =>
    (unchanged doc pass).check (keyed .response argument) fun (status, reference?) =>
      if (doc.operation? place).isSome then
        match reference? with
        | some id => { doc := setResponse doc place status (.ref (.component .responses id)), pass }
        | none =>
          { doc := setResponse doc place status (.item { description := body })
            pass := pass.enterContent (.response (.inline place status)) }
      else (unchanged doc pass).fail .danglingScope

def setCallback (doc : Document) (place : OperationPlace) (key : String)
    (callback : RefOr Paths) : Document :=
  doc.modifyOperation place fun o => { o with callbacks := o.callbacks.insert key callback }

def registerCallback (doc : Document) (id : String) : Document :=
  doc.modifyComponents fun c => { c with callbacks := c.callbacks.insert id {} }

/-- The annotations after a callback that is written in place are its body. -/
def applyCallback (doc : Document) (pass : Pass) (argument : String) : Effect :=
  match pass.scope.operation? with
  | none =>
    (unchanged doc pass.dropId).check pass.takeId fun id =>
      { doc := registerCallback doc id
        pass := pass.dropId
        outcome := .entered (.component id)
        log := [.debug ("Registering callback component: " ++ id)] }
  | some place =>
    (unchanged doc pass).check (keyed .callback argument) fun (key, reference?) =>
      if (doc.operation? place).isSome then
        match reference? with
        | some id => { doc := setCallback doc place key (.ref (.component .callbacks id)), pass }
        | none =>
          { doc := setCallback doc place key (.item {})
            pass
            outcome := .entered (place.callback key) }
      else (unchanged doc pass).fail .danglingScope

/-! ### Schemas and examples -/

/-- The ID of a schema without the `#` it starts with. -/
def schemaId (fields : OrderedMap Json) : Except AnnotationError (Option String) :=
  match fields.get? "$id" with
  | some (.string id) =>
    match id.toList with
    | '#' :: cs => .ok (some (.ofList cs))
    | _ => .error (.invalidSchemaId id)
  | _ => .ok none

/-- The schema a text stands for, and its ID, which is not part of it. -/
def decodeSchema (text : String) : Except AnnotationError (OrderedMap Json × Option String) := do
  match Json.parseObject text with
  | .error fault => .error (.invalidJson .schema fault)
  | .ok fields =>
    let fields := Shorthand.expandObject fields
    let id ← schemaId fields
    return (fields.erase "$id", id)

/-- The text of a schema: the body or, without one, the value of the declaration. -/
def schemaText (value : Option String) (body : String) : String :=
  if body = "" then value.getD "" else body

/-- A schema and its ID. -/
def readSchema (value : Option String) (argument body : String) :
    Except AnnotationError (Schema × Option String) :=
  match Argument.reference? argument with
  | some id => .ok (.ref (.component .schemas id), none)
  | none => do
    let text := schemaText value body
    if trim text = "" then .error (.invalidArgument .schema)
    else
      let (fields, id) ← decodeSchema text
      return (.item (.object fields), id)

/-- Register a schema under its ID. -/
def registerSchema (doc : Document) (pass : Pass) (schema : Schema) (id? : Option String) :
    Effect :=
  match schema, id? with
  | .ref _, _ => (unchanged doc pass).fail .invalidUsage
  | .item json, some id =>
    if id = "" then (unchanged doc pass).fail .missingSchemaId
    else
      { doc := doc.modifyComponents fun c => { c with schemas := c.schemas.insert id json }
        pass
        log := [.debug ("Registering schema component: " ++ id)] }
  | .item _, none => (unchanged doc pass).fail .missingSchemaId

def applyJsonSchema (value : Option String) (doc : Document) (pass : Pass)
    (argument body : String) : Effect :=
  (unchanged doc pass).check (readSchema value argument body) fun (schema, id?) =>
    match pass.scope.content? with
    | some place =>
      if doc.hasContent place then { doc := doc.setSchema schema place, pass }
      else (unchanged doc pass).fail .danglingScope
    | none => registerSchema doc pass schema id?

/-- The name of an example, and the example. -/
def readExample (argument body : String) : Except AnnotationError (String × Example) :=
  match Json.parse body with
  | .error fault => .error (.invalidJson .sample fault)
  | .ok value => do
    let (name, summary) ← require .jsonExample (Argument.jsonExample? argument)
    return (name, { summary, value })

def applyJsonExample (doc : Document) (pass : Pass) (argument body : String) : Effect :=
  (unchanged doc pass).check (readExample argument body) fun (name, sample) =>
    match pass.scope.content? with
    | none => (unchanged doc pass).fail .invalidUsage
    | some place =>
      if doc.hasContent place then { doc := doc.setExample name sample place, pass }
      else (unchanged doc pass).fail .danglingScope

/-! ### All annotations -/

/-- The effect of an annotation of a declaration with the given string value. -/
def apply (value : Option String) (doc : Document) (pass : Pass) (a : Annotation) : Effect :=
  match a.kind with
  | .id => applyId doc pass a.argument
  | .api => applyApi doc pass a.argument a.bodyText
  | .version => applyVersion doc pass a.argument
  | .server => applyServer doc pass a.argument a.bodyText
  | .serverVariable => applyVariable doc pass a.argument a.bodyText
  | .tag => applyTag doc pass a.argument a.bodyText
  | .securityRequirement => applySecurityRequirement doc pass a.argument
  | .apiKeyScheme => applyApiKeyScheme doc pass a.argument a.bodyText
  | .httpScheme => applyHttpScheme doc pass a.argument a.bodyText
  | .operation => applyOperation doc pass a.argument a.bodyText
  | .parameter => applyParameter doc pass a.argument a.bodyText
  | .requestBody => applyRequestBody doc pass a.argument a.bodyText
  | .response => applyResponse doc pass a.argument a.bodyText
  | .jsonSchema => applyJsonSchema value doc pass a.argument a.bodyText
  | .jsonExample => applyJsonExample doc pass a.argument a.bodyText
  | .callback => applyCallback doc pass a.argument

end ApiScribe.Builder
