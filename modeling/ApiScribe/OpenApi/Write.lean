import ApiScribe.OpenApi.Document

/-!
# Documents as JSON

Fields stand in a fixed order. Most of them are left out while they are empty; those that the
specification requires are always there.
-/

namespace ApiScribe.OpenApi

/-! ### Fields that are left out while empty -/

def textField (name : String) (text : String) : List (String × Json) :=
  if text = "" then [] else [(name, .string text)]

def flagField (name : String) (flag : Bool) : List (String × Json) :=
  if flag then [(name, .bool true)] else []

def listField (name : String) (items : List Json) : List (String × Json) :=
  if items.isEmpty then [] else [(name, .array items)]

def mapField (name : String) (fields : List (String × Json)) : List (String × Json) :=
  if fields.isEmpty then [] else [(name, .object ⟨fields⟩)]

def optionField (name : String) (value : Option Json) : List (String × Json) :=
  match value with
  | none => []
  | some json => [(name, json)]

/-! ### Objects -/

def mapEntries {α : Type} (f : α → Json) (m : OrderedMap α) : List (String × Json) :=
  m.entries.map fun (key, value) => (key, f value)

def mapJson {α : Type} (f : α → Json) (m : OrderedMap α) : Json := .object ⟨mapEntries f m⟩

def textList (texts : List String) : List Json := texts.map .string

def Schema.toJson (schema : Schema) : Json := RefOr.toJson id schema

def Example.toJson (e : Example) : Json :=
  .object ⟨textField "summary" e.summary ++ textField "description" e.description ++
    match e.value with
    | .null => []
    | value => [("value", value)]⟩

def Parameter.toJson (p : Parameter) : Json :=
  .object ⟨[("name", .string p.name), ("in", .string p.location.name)] ++
    textField "description" p.description ++ flagField "required" p.required ++
    optionField "schema" (p.schema.map Schema.toJson) ++
    mapField "examples" (mapEntries Example.toJson p.examples)⟩

def MediaType.toJson (m : MediaType) : Json :=
  .object ⟨optionField "schema" (m.schema.map Schema.toJson) ++
    mapField "examples" (mapEntries Example.toJson m.examples)⟩

def RequestBody.toJson (b : RequestBody) : Json :=
  .object ⟨textField "description" b.description ++
    [("content", mapJson MediaType.toJson b.content)] ++ flagField "required" b.required⟩

def Response.toJson (r : Response) : Json :=
  .object ⟨("description", .string r.description) ::
    mapField "content" (mapEntries MediaType.toJson r.content)⟩

def SecurityScheme.toJson : SecurityScheme → Json
  | .apiKey description name location =>
    .object ⟨("type", .string "apiKey") :: textField "description" description ++
      [("name", .string name), ("in", .string location.name)]⟩
  | .http description scheme bearerFormat =>
    .object ⟨("type", .string "http") :: textField "description" description ++
      ("scheme", .string scheme) :: optionField "bearerFormat" (bearerFormat.map .string)⟩

def SecurityRequirement.toJson (r : SecurityRequirement) : Json :=
  mapJson (fun scopes => .array (textList scopes)) r

/-! ### Operations -/

mutual
def Operation.toJson : Operation → Json
  | { tags, summary, description, operationId, parameters, requestBody, responses,
      callbacks := ⟨callbacks⟩, security } =>
    .object ⟨listField "tags" (textList tags) ++ textField "summary" summary ++
      textField "description" description ++ textField "operationId" operationId ++
      listField "parameters" (parameters.map (RefOr.toJson Parameter.toJson)) ++
      optionField "requestBody" (requestBody.map (RefOr.toJson RequestBody.toJson)) ++
      [("responses", mapJson (RefOr.toJson Response.toJson) responses)] ++
      mapField "callbacks" (callbackEntries callbacks) ++
      listField "security" (security.map SecurityRequirement.toJson)⟩

def callbackEntries :
    List (String × RefOr (OrderedMap (PathItem Operation))) → List (String × Json)
  | [] => []
  | (key, .ref reference) :: rest => (key, reference.toJson) :: callbackEntries rest
  | (key, .item ⟨paths⟩) :: rest => (key, .object ⟨pathEntries paths⟩) :: callbackEntries rest

def pathEntries : List (String × PathItem Operation) → List (String × Json)
  | [] => []
  | (path, { get, put, post, delete, options, head, patch, trace }) :: rest =>
    (path, .object ⟨slotField .get get ++ slotField .put put ++ slotField .post post ++
      slotField .delete delete ++ slotField .options options ++ slotField .head head ++
      slotField .patch patch ++ slotField .trace trace⟩) :: pathEntries rest

def slotField (method : Method) : Option Operation → List (String × Json)
  | none => []
  | some operation => [(method.key, operation.toJson)]
end

def Paths.toJson (paths : Paths) : Json := .object ⟨pathEntries paths.entries⟩

/-! ### Documents -/

def ServerVariable.toJson (v : ServerVariable) : Json :=
  .object ⟨listField "enum" (textList v.allowed) ++ ("default", .string v.default) ::
    textField "description" v.description⟩

def Server.toJson (s : Server) : Json :=
  .object ⟨("url", .string s.url) :: textField "description" s.description ++
    mapField "variables" (mapEntries ServerVariable.toJson s.placeholders)⟩

def Tag.toJson (t : Tag) : Json :=
  .object ⟨("name", .string t.name) :: textField "description" t.description⟩

def Info.toJson (i : Info) : Json :=
  .object ⟨("title", .string i.title) :: textField "description" i.description ++
    textField "version" i.version⟩

def Components.toJson (c : Components) : Json :=
  .object ⟨mapField "schemas" (mapEntries id c.schemas) ++
    mapField "parameters" (mapEntries Parameter.toJson c.parameters) ++
    mapField "requestBodies" (mapEntries RequestBody.toJson c.requestBodies) ++
    mapField "responses" (mapEntries Response.toJson c.responses) ++
    mapField "securitySchemes" (mapEntries SecurityScheme.toJson c.securitySchemes) ++
    mapField "callbacks" (mapEntries Paths.toJson c.callbacks)⟩

def Document.toJson (d : Document) : Json :=
  .object ⟨[("openapi", .string d.openapi), ("info", d.info.toJson)] ++
    listField "servers" (d.servers.map Server.toJson) ++ [("paths", Paths.toJson d.paths)] ++
    (if d.components.isEmpty then [] else [("components", d.components.toJson)]) ++
    listField "security" (d.security.map SecurityRequirement.toJson) ++
    listField "tags" (d.tags.map Tag.toJson)⟩

end ApiScribe.OpenApi
