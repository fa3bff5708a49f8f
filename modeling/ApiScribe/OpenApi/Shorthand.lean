import ApiScribe.OpenApi.Reference

/-!
# Shorthand references

Inside a schema, an object whose only field is `$ref` with a value such as `#User` is short for a
reference to the schema component `User`.
-/

namespace ApiScribe.OpenApi.Shorthand

/-- The component that fields name, if they are a shorthand reference. -/
def target? : List (String × Json) → Option String
  | [(key, .string target)] =>
    match target.toList with
    | '#' :: c :: cs => if key = "$ref" then some (.ofList (c :: cs)) else none
    | _ => none
  | _ => none

mutual
/-- Write out the shorthand references of a value, at any depth. -/
def expand : Json → Json
  | .null => .null
  | .bool value => .bool value
  | .number value => .number value
  | .string value => .string value
  | .array items => .array (expandItems items)
  | .object ⟨fields⟩ =>
    match target? fields with
    | some id => (Reference.component .schemas id).toJson
    | none => .object ⟨expandFields fields⟩

def expandItems : List Json → List Json
  | [] => []
  | item :: items => expand item :: expandItems items

def expandFields : List (String × Json) → List (String × Json)
  | [] => []
  | (key, value) :: fields => (key, expand value) :: expandFields fields
end

/-- Write out the shorthand references of an object. -/
def expandObject (fields : OrderedMap Json) : OrderedMap Json :=
  match target? fields.entries with
  | some id => ⟨[("$ref", .string (Reference.component .schemas id).target)]⟩
  | none => ⟨expandFields fields.entries⟩

end ApiScribe.OpenApi.Shorthand
