/-!
# Annotation kinds

The closed set of annotations a doc comment can carry, and the tags that introduce them.
-/

namespace ApiScribe

namespace Annotation

inductive Kind where
  | id
  | api
  | version
  | server
  | serverVariable
  | tag
  | securityRequirement
  | apiKeyScheme
  | httpScheme
  | operation
  | parameter
  | requestBody
  | response
  | jsonSchema
  | jsonExample
  | callback
deriving Repr, DecidableEq

namespace Kind

/-- The tag by which a kind is named in messages. -/
def name : Kind → String
  | id => "ID"
  | api => "API"
  | version => "Version"
  | server => "Server"
  | serverVariable => "Variable"
  | tag => "Tag"
  | securityRequirement => "SecurityRequirement"
  | apiKeyScheme => "SecuritySchemeAPIKey"
  | httpScheme => "SecuritySchemeHTTP"
  | operation => "Operation"
  | parameter => "Parameter"
  | requestBody => "RequestBody"
  | response => "Response"
  | jsonSchema => "JSONSchema"
  | jsonExample => "JSONExample"
  | callback => "Callback"

/-- The accepted tags in lower case; the security annotations have a short form as well. -/
def tags : List (String × Kind) :=
  [("id", id), ("api", api), ("version", version), ("server", server),
    ("variable", serverVariable), ("tag", tag), ("securityrequirement", securityRequirement),
    ("security", securityRequirement), ("securityschemeapikey", apiKeyScheme),
    ("securityapikey", apiKeyScheme), ("securityschemehttp", httpScheme),
    ("securityhttp", httpScheme), ("operation", operation), ("parameter", parameter),
    ("requestbody", requestBody), ("response", response), ("jsonschema", jsonSchema),
    ("jsonexample", jsonExample), ("callback", callback)]

/-- Lower the ASCII letters of a tag. -/
def lowered (tag : List Char) : List Char := tag.map Char.toLower

/-- The kind a tag stands for, whatever the case of its ASCII letters. -/
def ofTag? (tag : String) : Option Kind :=
  tags.lookup (.ofList (lowered tag.toList))

end Kind

end Annotation

end ApiScribe
