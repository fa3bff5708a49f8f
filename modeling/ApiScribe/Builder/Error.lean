import ApiScribe.Annotation.Kind
import ApiScribe.Json.Fault

/-!
# Failures of annotations

Why an annotation could not be applied. A failure concerns one annotation only; those after it are
still applied.
-/

namespace ApiScribe.Builder

/-- The objects an annotation may need to be in. -/
inductive Surrounding where
  | server
  | operation
deriving Repr, DecidableEq

def Surrounding.name : Surrounding → String
  | server => "Server"
  | operation => "Operation"

/-- What the argument of an annotation must look like. -/
inductive Form where
  | serverVariable
  | securityRequirement
  | apiKeyScheme
  | httpScheme
  | bearerFormat
  | operation
  | parameter
  | reference
  | response
  | callback
  | schema
  | jsonExample
deriving Repr, DecidableEq

def Form.message : Form → String
  | serverVariable => "must provide name and at least one value"
  | securityRequirement => "must provide security scheme name"
  | apiKeyScheme => "must provide scheme name, location and field name"
  | httpScheme => "must provide scheme name and HTTP auth scheme"
  | bearerFormat => "must provide bearer token format"
  | operation => "must provide HTTP method, path and summary"
  | parameter => "must provide parameter name and location"
  | reference => "invalid object reference format"
  | response => "invalid response annotation format"
  | callback => "invalid callback annotation format"
  | schema => "invalid json schema declaration"
  | jsonExample => "must provide example name and summary"

/-- The words that are taken from a fixed set. -/
inductive Choice where
  | apiKeyLocation
  | method
  | parameterLocation
deriving Repr, DecidableEq

def Choice.name : Choice → String
  | apiKeyLocation => "API key location"
  | method => "HTTP method"
  | parameterLocation => "parameter location"

/-- What a JSON body is read as. -/
inductive Literal where
  | schema
  | sample
deriving Repr, DecidableEq

def Literal.name : Literal → String
  | schema => "schema"
  | sample => "example"

inductive AnnotationError where
  /-- The annotation needs an object around it that is not there. -/
  | missingScope (surrounding : Surrounding)
  | invalidArgument (form : Form)
  | invalidValue (choice : Choice) (value : String)
  | invalidJson (literal : Literal) (fault : Json.Fault)
  /-- A component is to be registered and there is no key for it. -/
  | missingComponentId
  | missingSchemaId
  | invalidSchemaId (id : String)
  /-- The annotation cannot be used in this form at this place. -/
  | invalidUsage
  /-- The object that the annotation belongs to has been replaced. -/
  | danglingScope
deriving Repr, DecidableEq

def AnnotationError.message : AnnotationError → String
  | missingScope surrounding => "must be used with " ++ surrounding.name
  | invalidArgument form => form.message
  | invalidValue choice value => "invalid " ++ choice.name ++ ": " ++ value
  | invalidJson literal fault => "invalid json " ++ literal.name ++ ": " ++ fault.message
  | missingComponentId => "must provide component ID"
  | missingSchemaId => "schema must contain non-empty top-level '$id' property"
  | invalidSchemaId id => "json schema ID must start with #: " ++ id
  | invalidUsage => "invalid annotation usage"
  | danglingScope => "active object no longer exists in the document"

end ApiScribe.Builder
