import ApiScribe.Proofs.Json.Value

/-!
# Positions in a value

A position leads from a value to one inside it: at each step it says which of the values that are
held there to go to, by number. The shape of a value is what is left of it without the values it
holds. A value is known once the shapes at all of its positions are.
-/

namespace ApiScribe.Json

/-- A scalar, the length of an array or the names of the fields of an object. -/
inductive Shape where
  | null
  | bool (value : Bool)
  | number (value : Number)
  | string (value : String)
  | array (length : Nat)
  | object (keys : List String)

def shape : Json → Shape
  | .null => .null
  | .bool value => .bool value
  | .number value => .number value
  | .string value => .string value
  | .array items => .array items.length
  | .object fields => .object fields.keys

/-- The values that a value holds, in order. -/
def children : Json → List Json
  | .null | .bool _ | .number _ | .string _ => []
  | .array items => items
  | .object fields => fields.entries.map (·.2)

/-- The value at a position. -/
def valueAt? (json : Json) : List Nat → Option Json
  | [] => some json
  | index :: position => json.children[index]?.bind (·.valueAt? position)

/-- A value has a property if it has the property whenever all that it holds have it. -/
@[elab_as_elim]
theorem children_induction {P : Json → Prop}
    (h : ∀ json, (∀ child ∈ json.children, P child) → P json) (json : Json) : P json := by
  induction json using Json.induction with
  | null | bool | number | string => exact h _ (List.forall_mem_nil _)
  | array items ih => exact h _ ih
  | object fields ih => exact h _ (List.forall_mem_map.mpr ih)

/-- Values of the same shape that hold the same values are equal. -/
lemma ext_shape {json json' : Json} (hshape : json'.shape = json.shape)
    (hchildren : json'.children = json.children) : json' = json := by
  cases json <;> cases json' <;> simp only [shape, Shape.bool.injEq, Shape.number.injEq,
    Shape.string.injEq, Shape.array.injEq, Shape.object.injEq, reduceCtorEq] at hshape
  case null.null => rfl
  case bool.bool | number.number | string.string => rw [hshape]
  case array.array => exact congrArg Json.array hchildren
  case object.object fields fields' =>
    refine congrArg Json.object (OrderedMap.ext_entries ?_)
    exact (List.zip_of_prod hshape hchildren).trans (List.zip_of_prod rfl rfl).symm

end ApiScribe.Json
