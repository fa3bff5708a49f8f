import ApiScribe.Json.Read
import ApiScribe.OpenApi.Document

/-!
# Documents from JSON

The reader of documents. It takes everything the writer produces, and more: unknown fields are
skipped, empty fields may be written out, and any object may be given as the list of its fields.
-/

namespace ApiScribe.OpenApi

namespace Read

open Json Json.Reader

/-! ### References -/

def reference : Reader Reference :=
  record true { target := "" } [field "$ref" string (fun s r => { r with target := s }) true]

/-- A reference if it looks like one, and otherwise the object itself. -/
def refOr {α : Type} (read : Reader α) : Reader (RefOr α) :=
  kept (orElse (fun tree => (reference tree).map .ref) (fun tree => (read tree).map .item))

def schema : Reader Schema := refOr json

/-! ### Parameters and bodies -/

def sample : Reader Example :=
  record false {}
    [field "summary" string fun s e => { e with summary := s },
      field "description" string fun s e => { e with description := s },
      field "value" json fun v e => { e with value := v }]

def parameter : Reader Parameter :=
  record false { name := "", location := .query }
    [field "name" string (fun s p => { p with name := s }) true,
      field "in" (oneOf false ParameterLocation.ofName?) (fun l p => { p with location := l }) true,
      field "description" string fun s p => { p with description := s },
      field "required" bool fun b p => { p with required := b },
      field "schema" (nullable schema) fun s p => { p with schema := s },
      field "examples" (map sample) fun m p => { p with examples := m }]

def mediaType : Reader MediaType :=
  record false {}
    [field "schema" (nullable schema) fun s m => { m with schema := s },
      field "examples" (map sample) fun e m => { m with examples := e }]

def requestBody : Reader RequestBody :=
  record false {}
    [field "description" string fun s b => { b with description := s },
      field "content" (map mediaType) fun m b => { b with content := m },
      field "required" bool fun r b => { b with required := r }]

def response : Reader Response :=
  record false {}
    [field "description" string fun s r => { r with description := s },
      field "content" (map mediaType) fun m r => { r with content := m }]

/-! ### Security -/

def securityRequirement : Reader SecurityRequirement := map (list string)

/-- The kinds of security schemes, as their field `type` names them. -/
inductive SchemeType where
  | apiKey
  | http

def SchemeType.ofName? (name : String) : Option SchemeType :=
  if name = "apiKey" then some .apiKey else if name = "http" then some .http else none

def schemeType : Reader SchemeType := fun tree => do
  let name ← string tree
  match SchemeType.ofName? name with
  | some type => .ok type
  | none => .error .mismatch

/-- The fields of an API key scheme. -/
structure ApiKeyFields where
  description : String := ""
  name : String := ""
  location : ApiKeyLocation := .query

/-- The fields of an HTTP scheme. -/
structure HttpFields where
  description : String := ""
  scheme : String := ""
  bearerFormat : Option String := none

def apiKeyFields : Reader ApiKeyFields :=
  record false {}
    [field "description" string fun s k => { k with description := s },
      field "name" string (fun s k => { k with name := s }) true,
      field "in" (oneOf true ApiKeyLocation.ofName?) (fun l k => { k with location := l }) true]

def httpFields : Reader HttpFields :=
  record false {}
    [field "description" string fun s h => { h with description := s },
      field "scheme" string (fun s h => { h with scheme := s }) true,
      field "bearerFormat" (nullable string) fun s h => { h with bearerFormat := s }]

/-- A scheme of a known type from its other fields. -/
def schemeOfType : SchemeType → Reader SecurityScheme
  | .apiKey =>
    kept fun tree => (apiKeyFields tree).map fun k => .apiKey k.description k.name k.location
  | .http =>
    kept fun tree => (httpFields tree).map fun h => .http h.description h.scheme h.bearerFormat

/-- Take the type out of the fields of a scheme. The other fields are kept for later, last first. -/
def splitScheme (type? : Option SchemeType) (others : List (Label × Tree)) :
    List (Label × Tree) → Except ReadError (Option SchemeType × List (Label × Tree))
  | [] => .ok (type?, others.reverse)
  | (.flawed fault, _) :: _ => .error (.fault fault)
  | (.name name, tree) :: fields =>
    if name = "type" then
      match type? with
      | some _ => .error .mismatch
      | none => do
        let type ← schemeType tree
        splitScheme (some type) others fields
    else do
      let _ ← json tree
      splitScheme type? ((.name name, tree) :: others) fields

def securityScheme : Reader SecurityScheme
  | .object fields stop => do
    let (type?, others) ← splitScheme none [] fields
    let type? ← endOf stop type?
    match type? with
    | some type => schemeOfType type (.object others none)
    | none => .error .mismatch
  | .array (tag :: others) stop => do
    let type ← schemeType tag
    let _ ← lift (Tree.toJson (.array others stop))
    schemeOfType type (.array others none)
  | .array [] stop => do
    endOf stop ()
    .error .mismatch
  | .guarded fault _ => .error (.fault fault)
  | tree => .error (unexpected tree)

/-! ### Operations -/

def operationFields (callback : Reader Paths) : List (Property Operation) :=
  [field "tags" (list string) fun t o => { o with tags := t },
    field "summary" string fun s o => { o with summary := s },
    field "description" string fun s o => { o with description := s },
    field "operationId" string fun s o => { o with operationId := s },
    field "parameters" (list (refOr parameter)) fun p o => { o with parameters := p },
    field "requestBody" (nullable (refOr requestBody)) fun b o => { o with requestBody := b },
    field "responses" (map (refOr response)) fun r o => { o with responses := r },
    field "callbacks" (map (refOr callback)) fun c o => { o with callbacks := c },
    field "security" (list securityRequirement) fun s o => { o with security := s }]

def pathItem (operation : Reader Operation) : Reader (PathItem Operation) :=
  record false {}
    (Method.all.map fun method =>
      field method.key (nullable operation) fun slot item => item.setSlot slot method)

/-- Operations nest through their callbacks, at most as deep as containers do. -/
def operation : Nat → Reader Operation
  | 0 => fun _ => .error .mismatch
  | depth + 1 => record false {} (operationFields (map (pathItem (operation depth))))

def paths : Reader Paths := map (pathItem (operation nestingLimit))

/-! ### Documents -/

def serverVariable : Reader ServerVariable :=
  record false { default := "" }
    [field "enum" (list string) fun a v => { v with allowed := a },
      field "default" string (fun s v => { v with default := s }) true,
      field "description" string fun s v => { v with description := s }]

def server : Reader Server :=
  record false { url := "" }
    [field "url" string (fun s v => { v with url := s }) true,
      field "description" string fun s v => { v with description := s },
      field "variables" (map serverVariable) fun m v => { v with placeholders := m }]

def tag : Reader Tag :=
  record false { name := "" }
    [field "name" string (fun s t => { t with name := s }) true,
      field "description" string fun s t => { t with description := s }]

def info : Reader Info :=
  record false {}
    [field "title" string fun s i => { i with title := s },
      field "description" string fun s i => { i with description := s },
      field "version" string fun s i => { i with version := s }]

def components : Reader Components :=
  record false {}
    [field "schemas" (map json) fun m c => { c with schemas := m },
      field "parameters" (map parameter) fun m c => { c with parameters := m },
      field "requestBodies" (map requestBody) fun m c => { c with requestBodies := m },
      field "responses" (map response) fun m c => { c with responses := m },
      field "securitySchemes" (map securityScheme) fun m c => { c with securitySchemes := m },
      field "callbacks" (map paths) fun m c => { c with callbacks := m }]

def document : Reader Document :=
  record false { openapi := "" }
    [field "openapi" string (fun s d => { d with openapi := s }) true,
      field "info" info (fun i d => { d with info := i }) true,
      field "servers" (list server) fun s d => { d with servers := s },
      field "paths" paths fun p d => { d with paths := p },
      field "components" components fun c d => { d with components := c },
      field "security" (list securityRequirement) fun s d => { d with security := s },
      field "tags" (list tag) fun t d => { d with tags := t }]

end Read

/-- The document a JSON text stands for. -/
def Document.parse (text : String) : Except Json.ReadError Document :=
  Json.Reader.ofText Read.document text

end ApiScribe.OpenApi
