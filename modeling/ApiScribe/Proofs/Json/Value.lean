import ApiScribe.Json.Tree
import ApiScribe.Proofs.OrderedMap
import Mathlib.Algebra.Group.Int.Defs
import Mathlib.Algebra.Group.Nat.Defs

/-!
# JSON values

How deep a value nests, which of its numbers can be written without loss, and whether its objects
name a field twice. Every value has a tree without faults, off which it can be read again if its
objects name no field twice.
-/

namespace ApiScribe

variable {ε α β : Type} {x : Except ε α} {b : β}

lemma exists_of_bind_eq_ok {f : α → Except ε β} (h : x >>= f = .ok b) :
    ∃ v, x = .ok v ∧ f v = .ok b := by
  cases x with
  | error error => cases h
  | ok v => exact ⟨v, rfl, h⟩

lemma exists_of_map_eq_ok {f : α → β} (h : x.map f = .ok b) : ∃ v, x = .ok v ∧ f v = b := by
  cases x with
  | error error => cases h
  | ok v => cases h; exact ⟨v, rfl, rfl⟩

namespace Json

/-- Induction over a value: an array or an object has a property if all that it holds have it. -/
@[elab_as_elim]
theorem induction {P : Json → Prop} (null : P .null) (bool : ∀ b, P (.bool b))
    (number : ∀ n, P (.number n)) (string : ∀ s, P (.string s))
    (array : ∀ items, (∀ item ∈ items, P item) → P (.array items))
    (object : ∀ fields : OrderedMap Json, (∀ e ∈ fields.entries, P e.2) → P (.object fields))
    (json : Json) : P json := by
  match json with
  | .null => exact null
  | .bool b => exact bool b
  | .number n => exact number n
  | .string s => exact string s
  | .array items =>
    refine array items fun item _ => ?_
    exact induction null bool number string array object item
  | .object fields =>
    refine object fields fun e _ => ?_
    exact induction null bool number string array object e.2
termination_by sizeOf json
decreasing_by
  · have := List.sizeOf_lt_of_mem ‹_›
    simp
    omega
  · have := List.sizeOf_lt_of_mem ‹_›
    obtain ⟨entries⟩ := fields
    obtain ⟨key, value⟩ := e
    simp at this ⊢
    omega

/-! ### Depth -/

mutual
/-- How many containers are nested in a value, itself included. -/
def depth : Json → Nat
  | .null | .bool _ | .number _ | .string _ => 0
  | .array items => depthItems items + 1
  | .object ⟨fields⟩ => depthFields fields + 1

def depthItems : List Json → Nat
  | [] => 0
  | item :: items => max (depth item) (depthItems items)

def depthFields : List (String × Json) → Nat
  | [] => 0
  | (_, value) :: fields => max (depth value) (depthFields fields)
end

lemma depth_le_depthItems {item : Json} {items : List Json} (h : item ∈ items) :
    item.depth ≤ depthItems items := by
  induction items with
  | nil => cases h
  | cons first items ih =>
    rw [depthItems]
    rcases List.mem_cons.mp h with rfl | h
    · exact Nat.le_max_left _ _
    · exact Nat.le_trans (ih h) (Nat.le_max_right _ _)

lemma depth_le_depthFields {e : String × Json} {fields : List (String × Json)} (h : e ∈ fields) :
    e.2.depth ≤ depthFields fields := by
  induction fields with
  | nil => cases h
  | cons first fields ih =>
    rw [depthFields]
    rcases List.mem_cons.mp h with rfl | h
    · exact Nat.le_max_left _ _
    · exact Nat.le_trans (ih h) (Nat.le_max_right _ _)

lemma depth_lt_of_mem_items {item : Json} {items : List Json} (h : item ∈ items) :
    item.depth < (array items).depth := by
  have := depth_le_depthItems h
  rw [depth]
  omega

lemma depth_lt_of_mem_fields {e : String × Json} {fields : OrderedMap Json}
    (h : e ∈ fields.entries) : e.2.depth < (object fields).depth := by
  have := depth_le_depthFields h
  rw [depth]
  omega

/-! ### Numbers and names -/

/-- The number is an integer of 64 bits, signed or unsigned. -/
def Number.IsInteger : Number → Prop
  | .integer n => -2 ^ 63 ≤ n ∧ n < 2 ^ 64
  | .double _ => False

/-- Every number in the value is an integer. -/
inductive Integral : Json → Prop
  | null : Integral .null
  | bool (b : Bool) : Integral (.bool b)
  | number {n : Number} (h : n.IsInteger) : Integral (.number n)
  | string (s : String) : Integral (.string s)
  | array {items : List Json} (h : ∀ item ∈ items, Integral item) : Integral (.array items)
  | object {fields : OrderedMap Json} (h : ∀ e ∈ fields.entries, Integral e.2) :
    Integral (.object fields)

mutual
/-- Check every number in the value. -/
def isIntegral : Json → Bool
  | .null | .bool _ | .string _ => true
  | .number (.integer n) => -2 ^ 63 ≤ n && n < 2 ^ 64
  | .number (.double _) => false
  | .array items => allIntegral items
  | .object ⟨fields⟩ => fieldsIntegral fields

def allIntegral : List Json → Bool
  | [] => true
  | item :: items => isIntegral item && allIntegral items

def fieldsIntegral : List (String × Json) → Bool
  | [] => true
  | (_, value) :: fields => isIntegral value && fieldsIntegral fields
end

lemma allIntegral_iff {items : List Json} (h : ∀ item ∈ items, item.isIntegral ↔ item.Integral) :
    allIntegral items ↔ ∀ item ∈ items, item.Integral := by
  induction items with
  | nil => simp [allIntegral]
  | cons item items ih =>
    obtain ⟨hitem, hitems⟩ := List.forall_mem_cons.mp h
    rw [allIntegral, Bool.and_eq_true, hitem, ih hitems, List.forall_mem_cons]

lemma fieldsIntegral_iff {fields : List (String × Json)}
    (h : ∀ e ∈ fields, e.2.isIntegral ↔ e.2.Integral) :
    fieldsIntegral fields ↔ ∀ e ∈ fields, e.2.Integral := by
  induction fields with
  | nil => simp [fieldsIntegral]
  | cons e fields ih =>
    obtain ⟨he, hfields⟩ := List.forall_mem_cons.mp h
    rw [fieldsIntegral, Bool.and_eq_true, he, ih hfields, List.forall_mem_cons]

lemma isIntegral_iff (json : Json) : json.isIntegral ↔ json.Integral := by
  induction json using Json.induction with
  | null => exact ⟨fun _ => .null, fun _ => rfl⟩
  | bool b => exact ⟨fun _ => .bool b, fun _ => rfl⟩
  | string s => exact ⟨fun _ => .string s, fun _ => rfl⟩
  | number n =>
    have hcheck : (number n).isIntegral ↔ n.IsInteger := by
      cases n <;> simp [isIntegral, Number.IsInteger]
    rw [hcheck]
    exact ⟨.number, fun h => by cases h with | number h => exact h⟩
  | array items ih =>
    rw [isIntegral, allIntegral_iff ih]
    exact ⟨.array, fun h => by cases h with | array h => exact h⟩
  | object fields ih =>
    rw [isIntegral, fieldsIntegral_iff ih]
    exact ⟨.object, fun h => by cases h with | object h => exact h⟩

instance : DecidablePred Integral := fun json => decidable_of_iff _ (isIntegral_iff json)

/-- No object in the value names a field twice. -/
inductive Distinct : Json → Prop
  | null : Distinct .null
  | bool (b : Bool) : Distinct (.bool b)
  | number (n : Number) : Distinct (.number n)
  | string (s : String) : Distinct (.string s)
  | array {items : List Json} (h : ∀ item ∈ items, Distinct item) : Distinct (.array items)
  | object {fields : OrderedMap Json} (hkeys : fields.keys.Nodup)
    (h : ∀ e ∈ fields.entries, Distinct e.2) : Distinct (.object fields)

namespace Tree

/-! ### Trees without faults -/

mutual
/-- The tree of a value. -/
def ofJson : Json → Tree
  | .null => .null
  | .bool value => .bool value
  | .number value => .number value
  | .string value => .string value
  | .array items => .array (ofItems items) none
  | .object ⟨fields⟩ => .object (ofFields fields) none

def ofItems : List Json → List Tree
  | [] => []
  | item :: items => ofJson item :: ofItems items

def ofFields : List (String × Json) → List (Label × Tree)
  | [] => []
  | (name, value) :: fields => (.name name, ofJson value) :: ofFields fields
end

/-! ### Values of trees -/

lemma itemsToJson_ofItems {items : List Json} {f : Json → Json}
    (h : ∀ item ∈ items, (ofJson item).toJson = .ok (f item)) :
    itemsToJson (ofItems items) = .ok (items.map f) := by
  induction items with
  | nil => rfl
  | cons item items ih =>
    obtain ⟨hitem, hrest⟩ := List.forall_mem_cons.mp h
    rw [ofItems, itemsToJson, hitem, ih hrest]
    rfl

lemma fieldsToJson_ofFields {fields : List (String × Json)} {f : String × Json → Json}
    (h : ∀ e ∈ fields, (ofJson e.2).toJson = .ok (f e)) :
    fieldsToJson (ofFields fields) = .ok (fields.map fun e => (e.1, f e)) := by
  induction fields with
  | nil => rfl
  | cons e fields ih =>
    obtain ⟨he, hrest⟩ := List.forall_mem_cons.mp h
    rw [ofFields, fieldsToJson, he, ih hrest]
    rfl

/-- The tree of a value has no fault. -/
lemma exists_toJson_ofJson (json : Json) : ∃ value, (ofJson json).toJson = .ok value := by
  have : Nonempty Json := ⟨.null⟩
  induction json using Json.induction with
  | null => exact ⟨_, rfl⟩
  | bool b => exact ⟨_, rfl⟩
  | number n => exact ⟨_, rfl⟩
  | string s => exact ⟨_, rfl⟩
  | array items ih =>
    choose! f hf using ih
    exact ⟨_, by rw [ofJson, toJson, itemsToJson_ofItems hf]; rfl⟩
  | object fields ih =>
    choose! f hf using ih
    exact ⟨_, by rw [ofJson, toJson, fieldsToJson_ofFields hf]; rfl⟩

/-- A value whose objects name no field twice is read off its tree. -/
lemma toJson_ofJson {json : Json} (h : json.Distinct) : (ofJson json).toJson = .ok json := by
  induction json using Json.induction with
  | null => rfl
  | bool b => rfl
  | number n => rfl
  | string s => rfl
  | array items ih =>
    cases h with
    | array hitems =>
      have hvalues : itemsToJson (ofItems items) = .ok (items.map id) :=
        itemsToJson_ofItems fun item hitem => ih item hitem (hitems item hitem)
      rw [ofJson, toJson, hvalues, List.map_id]
      rfl
  | object fields ih =>
    cases h with
    | object hkeys hfields =>
      have hvalues : fieldsToJson (ofFields fields.entries) = .ok (fields.entries.map id) :=
        fieldsToJson_ofFields fun e he => ih e he (hfields e he)
      rw [List.map_id] at hvalues
      rw [ofJson, toJson, hvalues]
      exact congrArg (fun m => Except.ok (Json.object m)) (OrderedMap.ofEntries_eq hkeys)

mutual
/-- The value of a tree names no field twice, whatever the text of the tree does. -/
lemma distinct_of_toJson : ∀ {tree : Tree} {json : Json}, tree.toJson = .ok json → json.Distinct
  | .null, _, h => by cases h; exact .null
  | .bool b, _, h => by cases h; exact .bool b
  | .number n, _, h => by cases h; exact .number n
  | .string s, _, h => by cases h; exact .string s
  | .array trees stop, _, h => by
    rw [toJson] at h
    obtain ⟨items, hitems, h⟩ := exists_of_bind_eq_ok h
    cases stop with
    | none => cases h; exact .array (distinct_of_itemsToJson hitems)
    | some fault => cases h
  | .object labelled stop, _, h => by
    rw [toJson] at h
    obtain ⟨fields, hfields, h⟩ := exists_of_bind_eq_ok h
    cases stop with
    | none =>
      cases h
      have hvalues := OrderedMap.forall_entries_ofEntries (distinct_of_fieldsToJson hfields)
      exact .object (OrderedMap.nodup_keys_ofEntries _) hvalues
    | some fault => cases h
  | .broken _, _, h => by cases h
  | .guarded _ _, _, h => by cases h

lemma distinct_of_itemsToJson : ∀ {trees : List Tree} {items : List Json},
    itemsToJson trees = .ok items → ∀ item ∈ items, item.Distinct
  | [], _, h => by cases h; exact List.forall_mem_nil _
  | tree :: trees, _, h => by
    rw [itemsToJson] at h
    obtain ⟨item, hitem, h⟩ := exists_of_bind_eq_ok h
    obtain ⟨items, hitems, h⟩ := exists_of_bind_eq_ok h
    cases h
    exact List.forall_mem_cons.mpr ⟨distinct_of_toJson hitem, distinct_of_itemsToJson hitems⟩

lemma distinct_of_fieldsToJson : ∀ {labelled : List (Label × Tree)} {fields : List (String × Json)},
    fieldsToJson labelled = .ok fields → ∀ e ∈ fields, e.2.Distinct
  | [], _, h => by cases h; exact List.forall_mem_nil _
  | (.flawed _, _) :: _, _, h => by cases h
  | (.name _, tree) :: labelled, _, h => by
    rw [fieldsToJson] at h
    obtain ⟨value, hvalue, h⟩ := exists_of_bind_eq_ok h
    obtain ⟨fields, hfields, h⟩ := exists_of_bind_eq_ok h
    cases h
    exact List.forall_mem_cons.mpr ⟨distinct_of_toJson hvalue, distinct_of_fieldsToJson hfields⟩
end

end Tree

end Json

end ApiScribe
