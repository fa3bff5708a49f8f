import ApiScribe.Json.Basic

/-!
# References

A reference stands in for a component of the document. It names the kind of component, which is the
map it is kept in, and the component's key there.
-/

namespace ApiScribe.OpenApi

/-- The component maps that references point into. -/
inductive ComponentKind where
  | schemas
  | parameters
  | requestBodies
  | responses
  | callbacks
deriving Repr, DecidableEq

def ComponentKind.name : ComponentKind → String
  | schemas => "schemas"
  | parameters => "parameters"
  | requestBodies => "requestBodies"
  | responses => "responses"
  | callbacks => "callbacks"

structure Reference where
  target : String
deriving Repr, DecidableEq

namespace Reference

/-- The reference to the component `id` of a kind. -/
def component (kind : ComponentKind) (id : String) : Reference :=
  { target := "#/components/" ++ kind.name ++ "/" ++ id }

def toJson (r : Reference) : Json := .object ⟨[("$ref", .string r.target)]⟩

end Reference

/-- An object written in place, or a reference to one. -/
inductive RefOr (α : Type) where
  | ref (reference : Reference)
  | item (value : α)
deriving Repr, DecidableEq

namespace RefOr

variable {α : Type}

def item? : RefOr α → Option α
  | ref _ => none
  | item value => some value

def mapItem (f : α → α) : RefOr α → RefOr α
  | ref reference => ref reference
  | item value => item (f value)

def toJson (f : α → Json) : RefOr α → Json
  | ref reference => reference.toJson
  | item value => f value

end RefOr

/-- A schema is any JSON value, or a reference to a schema component. -/
abbrev Schema := RefOr Json

end ApiScribe.OpenApi
