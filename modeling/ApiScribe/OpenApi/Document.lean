import ApiScribe.OpenApi.Paths
import ApiScribe.OpenApi.Reference

/-!
# OpenAPI documents

The parts of an OpenAPI 3.0 document that annotations describe. Maps keep the order in which their
entries were added.
-/

namespace ApiScribe.OpenApi

/-! ### Parameters and bodies -/

inductive ParameterLocation where
  | query
  | header
  | path
  | cookie
deriving Repr, DecidableEq

namespace ParameterLocation

def all : List ParameterLocation := [query, header, path, cookie]

def name : ParameterLocation → String
  | query => "query"
  | header => "header"
  | path => "path"
  | cookie => "cookie"

def ofName? (name : String) : Option ParameterLocation := all.find? (·.name = name)

end ParameterLocation

structure Example where
  summary : String := ""
  description : String := ""
  value : Json := .null

structure Parameter where
  name : String
  location : ParameterLocation
  description : String := ""
  required : Bool := false
  schema : Option Schema := none
  examples : OrderedMap Example := {}

/-- A parameter as an annotation declares it: exactly those in the path are required. -/
def Parameter.declare (name : String) (location : ParameterLocation) (description : String) :
    Parameter :=
  { name, location, description, required := location = .path }

structure MediaType where
  schema : Option Schema := none
  examples : OrderedMap Example := {}

/-- The media types of a body. -/
abbrev Content := OrderedMap MediaType

/-- The one media type that annotations describe. -/
def jsonMediaType : String := "application/json"

/-- Change the JSON media type, which is added if it is not there. -/
def Content.modifyJson (content : Content) (f : MediaType → MediaType) : Content :=
  OrderedMap.insert content jsonMediaType (f ((OrderedMap.get? content jsonMediaType).getD {}))

structure RequestBody where
  description : String := ""
  content : Content := {}
  required : Bool := false

structure Response where
  description : String := ""
  content : Content := {}

/-! ### Security -/

inductive ApiKeyLocation where
  | query
  | header
  | cookie
deriving Repr, DecidableEq

namespace ApiKeyLocation

def all : List ApiKeyLocation := [query, header, cookie]

def name : ApiKeyLocation → String
  | query => "query"
  | header => "header"
  | cookie => "cookie"

def ofName? (name : String) : Option ApiKeyLocation := all.find? (·.name = name)

end ApiKeyLocation

inductive SecurityScheme where
  /-- A key sent in the field called `name`. -/
  | apiKey (description : String) (name : String) (location : ApiKeyLocation)
  | http (description : String) (scheme : String) (bearerFormat : Option String)
deriving Repr, DecidableEq

/-- The scopes that are required of each scheme. -/
abbrev SecurityRequirement := OrderedMap (List String)

/-! ### Operations -/

structure Operation where
  tags : List String := []
  summary : String := ""
  description : String := ""
  operationId : String := ""
  parameters : List (RefOr Parameter) := []
  requestBody : Option (RefOr RequestBody) := none
  responses : OrderedMap (RefOr Response) := {}
  callbacks : OrderedMap (RefOr (OrderedMap (PathItem Operation))) := {}
  security : List SecurityRequirement := []

/-- The document's paths, or the body of a callback. -/
abbrev Paths := PathTable Operation

/-! ### Documents -/

structure ServerVariable where
  allowed : List String := []
  default : String
  description : String := ""
deriving Repr, DecidableEq

structure Server where
  url : String
  description : String := ""
  placeholders : OrderedMap ServerVariable := {}
deriving Repr, DecidableEq

structure Tag where
  name : String
  description : String := ""
deriving Repr, DecidableEq

structure Info where
  title : String := ""
  description : String := ""
  version : String := ""
deriving Repr, DecidableEq

/-- The named parts of a document, each kind in a map of its own. -/
structure Components where
  schemas : OrderedMap Json := {}
  parameters : OrderedMap Parameter := {}
  requestBodies : OrderedMap RequestBody := {}
  responses : OrderedMap Response := {}
  securitySchemes : OrderedMap SecurityScheme := {}
  callbacks : OrderedMap Paths := {}

def Components.isEmpty (c : Components) : Bool :=
  c.schemas.isEmpty && c.parameters.isEmpty && c.requestBodies.isEmpty && c.responses.isEmpty &&
    c.securitySchemes.isEmpty && c.callbacks.isEmpty

/-- The version of the specification that documents follow. -/
def specificationVersion : String := "3.0.0"

structure Document where
  openapi : String := specificationVersion
  info : Info := {}
  servers : List Server := []
  paths : Paths := {}
  components : Components := {}
  security : List SecurityRequirement := []
  tags : List Tag := []

end ApiScribe.OpenApi
