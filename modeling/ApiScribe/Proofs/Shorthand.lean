import ApiScribe.OpenApi.Shorthand
import ApiScribe.Proofs.Json.Value

/-!
# Laws of shorthand references

Writing out shorthand references keeps the fields of every object that is not such a reference
itself. It can be undone, so that no two values have the same form when written out.
-/

namespace ApiScribe.OpenApi

namespace Reference

/-- The characters in front of the ID of a component. -/
def lead (kind : ComponentKind) : List Char := ("#/components/" ++ kind.name ++ "/").toList

/-- The ID of the component of the kind that a reference points to. -/
def id? (kind : ComponentKind) (r : Reference) : Option String :=
  if (lead kind).isPrefixOf r.target.toList then
    some (.ofList (r.target.toList.drop (lead kind).length))
  else none

lemma toList_target_component (kind : ComponentKind) (id : String) :
    (component kind id).target.toList = lead kind ++ id.toList := by
  rw [component, String.toList_append]
  rfl

@[simp] lemma id?_component (kind : ComponentKind) (id : String) :
    (component kind id).id? kind = some id := by
  rw [id?, toList_target_component, if_pos (by simp), List.drop_left, String.ofList_toList]

lemma eq_component_of_id? {kind : ComponentKind} {r : Reference} {id : String}
    (h : r.id? kind = some id) : r = component kind id := by
  rw [id?] at h
  split_ifs at h with hlead
  cases h
  obtain ⟨rest, hrest⟩ := List.isPrefixOf_iff_prefix.mp hlead
  have htarget : r.target = (component kind (.ofList rest)).target := by
    rw [← String.toList_inj, toList_target_component, String.toList_ofList, hrest]
  rw [← hrest, List.drop_left]
  cases r
  exact congrArg Reference.mk htarget

end Reference

namespace Shorthand

open Json

lemma expandItems_eq_map (items : List Json) : expandItems items = items.map expand := by
  induction items with
  | nil => rw [expandItems, List.map_nil]
  | cons item items ih => rw [expandItems, ih, List.map_cons]

lemma expandFields_eq_map (fields : List (String × Json)) :
    expandFields fields = fields.map fun e => (e.1, expand e.2) := by
  induction fields with
  | nil => rw [expandFields, List.map_nil]
  | cons e fields ih => rw [expandFields, ih, List.map_cons]

lemma expand_object (fields : OrderedMap Json) :
    expand (.object fields) = .object (expandObject fields) := by
  obtain ⟨fields⟩ := fields
  rw [expand, expandObject]
  cases target? fields <;> rfl

lemma expandObject_of_target {fields : OrderedMap Json} {id : String}
    (h : target? fields.entries = some id) :
    expandObject fields = ⟨[("$ref", .string (Reference.component .schemas id).target)]⟩ := by
  rw [expandObject, h]

lemma expandObject_of_none {fields : OrderedMap Json} (h : target? fields.entries = none) :
    expandObject fields = fields.mapValues expand := by
  rw [expandObject, h]
  exact congrArg OrderedMap.mk (expandFields_eq_map fields.entries)

/-- No field is named twice that was not before. -/
lemma distinct_expand {json : Json} (h : json.Distinct) : (expand json).Distinct := by
  induction json using Json.induction with
  | null | bool | number | string => exact h
  | array items ih =>
    cases h with
    | array hitems =>
      rw [expand, expandItems_eq_map]
      exact .array (List.forall_mem_map.mpr fun item hitem => ih item hitem (hitems item hitem))
  | object fields ih =>
    cases h with
    | object hkeys hfields =>
      rw [expand_object]
      cases htarget : target? fields.entries with
      | some id =>
        rw [expandObject_of_target htarget]
        exact .object (List.nodup_singleton _) (List.forall_mem_singleton.mpr (.string _))
      | none =>
        rw [expandObject_of_none htarget]
        refine .object (by rwa [OrderedMap.keys_mapValues]) ?_
        exact List.forall_mem_map.mpr fun e he => ih e he (hfields e he)

/-! ### Undoing -/

/-- The schema component that fields refer to, if they are a reference. -/
def component? : List (String × Json) → Option String
  | [(key, .string target)] => if key = "$ref" then Reference.id? .schemas { target } else none
  | _ => none

/-- The fields that are short for a reference to a schema component. -/
def short (id : String) : List (String × Json) := [("$ref", .string ("#" ++ id))]

mutual
/-- Make references to schema components shorthand again, at any depth. -/
def contract : Json → Json
  | .null => .null
  | .bool value => .bool value
  | .number value => .number value
  | .string value => .string value
  | .array items => .array (contractItems items)
  | .object ⟨fields⟩ =>
    match component? fields with
    | some id => .object ⟨short id⟩
    | none => .object ⟨contractFields fields⟩

def contractItems : List Json → List Json
  | [] => []
  | item :: items => contract item :: contractItems items

def contractFields : List (String × Json) → List (String × Json)
  | [] => []
  | (key, value) :: fields => (key, contract value) :: contractFields fields
end

lemma contractItems_eq_map (items : List Json) : contractItems items = items.map contract := by
  induction items with
  | nil => rw [contractItems, List.map_nil]
  | cons item items ih => rw [contractItems, ih, List.map_cons]

lemma contractFields_eq_map (fields : List (String × Json)) :
    contractFields fields = fields.map fun e => (e.1, contract e.2) := by
  induction fields with
  | nil => rw [contractFields, List.map_nil]
  | cons e fields ih => rw [contractFields, ih, List.map_cons]

lemma eq_short_of_target? {fields : List (String × Json)} {id : String}
    (h : target? fields = some id) : fields = short id := by
  unfold target? at h
  split at h
  next key target =>
    split at h
    next c cs htarget =>
      split_ifs at h with hkey
      cases h
      have hshort : target = "#" ++ String.ofList (c :: cs) := by
        rw [← String.toList_inj, String.toList_append, htarget]
        simp
      rw [short, ← hshort, hkey]
    next => cases h
  next => cases h

lemma target?_of_component? {fields : List (String × Json)} {id : String}
    (h : component? fields = some id) : (target? fields).isSome := by
  unfold component? at h
  split at h
  next key target =>
    split_ifs at h with hkey
    have htarget : target = (Reference.component .schemas id).target :=
      congrArg Reference.target (Reference.eq_component_of_id? h)
    rw [target?, htarget, Reference.toList_target_component]
    simp [Reference.lead, hkey]
  next => cases h

/-- Only a string is written out as a string. -/
lemma eq_string_of_expand {json : Json} {s : String} (h : expand json = .string s) :
    json = .string s := by
  cases json with
  | null | bool | number | string => exact h
  | array items =>
    rw [expand] at h
    cases h
  | object fields =>
    rw [expand_object] at h
    cases h

lemma component?_mapValues_expand {fields : OrderedMap Json} (h : target? fields.entries = none) :
    component? (fields.mapValues expand).entries = none := by
  cases hcomponent : component? (fields.mapValues expand).entries with
  | none => rfl
  | some id =>
    -- a single string field stands for itself, and would be a shorthand reference
    have hsome := target?_of_component? hcomponent
    unfold component? at hcomponent
    split at hcomponent
    next key target hentries =>
      obtain ⟨e, he, heq⟩ := List.map_eq_singleton_iff.mp hentries
      obtain ⟨rfl, hvalue⟩ := Prod.mk.inj heq
      have hsame : fields.entries = (fields.mapValues expand).entries := by
        rw [hentries, he, ← eq_string_of_expand hvalue]
      rw [← hsame, h] at hsome
      cases hsome
    next => cases hcomponent

/-- What is written out can be made short again. -/
lemma contract_expand (json : Json) : contract (expand json) = json := by
  induction json using Json.induction with
  | null | bool | number | string => rfl
  | array items ih =>
    rw [expand, contract, contractItems_eq_map, expandItems_eq_map, List.map_map]
    congr 1
    exact (List.map_congr_left ih).trans (List.map_id items)
  | object fields ih =>
    rw [expand_object]
    cases htarget : target? fields.entries with
    | some id =>
      rw [expandObject_of_target htarget, contract]
      have hcomponent : component? [("$ref", .string (Reference.component .schemas id).target)] =
          some id := by
        rw [component?, if_pos rfl]
        exact Reference.id?_component .schemas id
      rw [hcomponent]
      exact congrArg Json.object
        (OrderedMap.ext_entries (eq_short_of_target? htarget).symm)
    | none =>
      have hcomponent := component?_mapValues_expand htarget
      rw [expandObject_of_none htarget]
      obtain ⟨fields⟩ := fields
      rw [OrderedMap.mapValues, contract]
      rw [OrderedMap.mapValues] at hcomponent
      simp only [hcomponent, contractFields_eq_map, List.map_map]
      congr 2
      refine (List.map_congr_left fun e he => ?_).trans (List.map_id fields)
      exact congrArg (Prod.mk e.1) (ih e he)

end Shorthand

end ApiScribe.OpenApi
