import ApiScribe.Proofs.Json.Positions
import ApiScribe.Proofs.Shorthand

/-!
# Where writing out changes a value

Writing out the shorthand references of a value replaces the outermost ones and changes nothing
else: every other position keeps its shape. So a value stays as it is if and only if there is no
shorthand reference in it, no two values are written out alike, and no shorthand reference is left
in what is written out.
-/

namespace ApiScribe.OpenApi.Shorthand

open Json

variable {json : Json} {position : List Nat} {id : String}

/-! ### Shorthand references in a value -/

/-- At the position stands an object whose only field is `$ref`, with `#` and the ID. -/
def ShortAt (json : Json) (position : List Nat) (id : String) : Prop :=
  id ≠ "" ∧ json.valueAt? position = some (.object ⟨short id⟩)

/-- No shorthand reference stands anywhere in the value. -/
def Free (json : Json) : Prop := ∀ position id, ¬ShortAt json position id

lemma target?_short (h : id ≠ "") : target? (short id) = some id := by
  obtain ⟨c, cs, hid⟩ := List.exists_cons_of_ne_nil (mt String.toList_eq_nil_iff.mp h)
  have hchars : ("#" ++ id).toList = '#' :: c :: cs := by simp [hid]
  simp only [target?, short, hchars, if_true]
  rw [← hid, String.ofList_toList]

lemma ne_empty_of_target? {fields : List (String × Json)} (h : target? fields = some id) :
    id ≠ "" := by
  unfold target? at h
  split at h
  next key target =>
    split at h
    next c cs htarget =>
      split_ifs at h
      cases h
      simp
    next => cases h
  next => cases h

lemma target?_eq_some_iff {fields : List (String × Json)} :
    target? fields = some id ↔ id ≠ "" ∧ fields = short id := by
  constructor
  · intro h
    exact ⟨ne_empty_of_target? h, eq_short_of_target? h⟩
  · rintro ⟨hid, rfl⟩
    exact target?_short hid

lemma shortAt_object_iff {fields : OrderedMap Json} :
    ShortAt (.object fields) [] id ↔ id ≠ "" ∧ fields.entries = short id := by
  refine and_congr_right fun _ => ⟨fun h => ?_, fun h => ?_⟩
  · exact congrArg OrderedMap.entries (Json.object.inj (Option.some.inj h))
  · exact congrArg (some ∘ Json.object) (OrderedMap.ext_entries h)

lemma target?_eq_none_iff {fields : OrderedMap Json} :
    target? fields.entries = none ↔ ∀ id, ¬ShortAt (.object fields) [] id := by
  rw [Option.eq_none_iff_forall_ne_some]
  refine forall_congr' fun id => not_congr ?_
  rw [target?_eq_some_iff, shortAt_object_iff]

/-! ### The root -/

/-- A shorthand reference is replaced by the reference it stands for. -/
lemma expand_of_short (h : ShortAt json [] id) :
    expand json = (Reference.component .schemas id).toJson := by
  obtain ⟨hid, hjson⟩ := h
  obtain rfl := Option.some.inj hjson
  rw [expand, target?_short hid]

lemma shape_expand (h : ∀ id, ¬ShortAt json [] id) : (expand json).shape = json.shape := by
  cases json with
  | null | bool | number | string => rfl
  | array items => rw [expand, expandItems_eq_map, shape, shape, List.length_map]
  | object fields =>
    rw [expand_object, expandObject_of_none (target?_eq_none_iff.mpr h), shape, shape,
      OrderedMap.keys_mapValues]

lemma children_expand (h : ∀ id, ¬ShortAt json [] id) :
    (expand json).children = json.children.map expand := by
  cases json with
  | null | bool | number | string => rfl
  | array items => rw [expand, expandItems_eq_map, children, children]
  | object fields =>
    rw [expand_object, expandObject_of_none (target?_eq_none_iff.mpr h), children, children,
      OrderedMap.mapValues, List.map_map, List.map_map]
    rfl

/-! ### All positions -/

/-- No shorthand reference stands above the position. -/
def Exposed (json : Json) (position : List Nat) : Prop :=
  ∀ above id, above <+: position → above ≠ position → ¬ShortAt json above id

lemma shortAt_cons {index : Nat} {child : Json} (h : json.children[index]? = some child) :
    ShortAt json (index :: position) id ↔ ShortAt child position id := by
  rw [ShortAt, ShortAt, valueAt?, h, Option.bind_some]

lemma Exposed.root {index : Nat} (h : Exposed json (index :: position)) (id : String) :
    ¬ShortAt json [] id :=
  h [] id List.nil_prefix (List.cons_ne_nil index position).symm

lemma Exposed.child {index : Nat} {child : Json} (h : Exposed json (index :: position))
    (hchild : json.children[index]? = some child) : Exposed child position := by
  intro above id hprefix hne
  rw [← shortAt_cons hchild]
  refine h _ id (List.cons_prefix_cons.mpr ⟨rfl, hprefix⟩) fun heq => hne ?_
  exact (List.cons.inj heq).2

/-- What is not inside a shorthand reference is written out where it stands. -/
lemma valueAt?_expand {sub : Json} (hexposed : Exposed json position)
    (h : json.valueAt? position = some sub) :
    (expand json).valueAt? position = some (expand sub) := by
  induction position generalizing json with
  | nil =>
    obtain rfl := Option.some.inj h
    rfl
  | cons index position ih =>
    obtain ⟨child, hchild, hsub⟩ := Option.bind_eq_some_iff.mp h
    rw [valueAt?, children_expand hexposed.root, List.getElem?_map, hchild]
    exact ih (hexposed.child hchild) hsub

/-- The second value is the first one with its outermost shorthand references written out and with
nothing else changed. -/
structure WrittenOut (json written : Json) : Prop where
  replaced : ∀ position id, Exposed json position → ShortAt json position id →
    written.valueAt? position =
      some (.object ⟨[("$ref", .string ("#/components/schemas/" ++ id))]⟩)
  kept : ∀ position sub, Exposed json position → (∀ id, ¬ShortAt json position id) →
    json.valueAt? position = some sub →
    (written.valueAt? position).map shape = some sub.shape

lemma writtenOut_expand (json : Json) : WrittenOut json (expand json) where
  replaced position id hexposed hshort := by
    rw [valueAt?_expand hexposed hshort.2]
    exact congrArg some (expand_of_short ⟨hshort.1, rfl⟩)
  kept position sub hexposed hshort hsub := by
    rw [valueAt?_expand hexposed hsub, Option.map_some]
    refine congrArg some (shape_expand fun id h => hshort id ⟨h.1, ?_⟩)
    rw [hsub]
    exact h.2

/-! ### References that are left -/

/-- What holds of all shorthand references of a value. -/
lemma forall_shortAt_iff {Q : String → Prop} :
    (∀ position id, ShortAt json position id → Q id) ↔
      (∀ id, ShortAt json [] id → Q id) ∧
        ∀ child ∈ json.children, ∀ position id, ShortAt child position id → Q id := by
  constructor
  · intro h
    refine ⟨h [], fun child hchild position id hshort => ?_⟩
    obtain ⟨index, hindex⟩ := List.getElem?_of_mem hchild
    exact h _ id ((shortAt_cons hindex).mpr hshort)
  · rintro ⟨hroot, hchildren⟩ position id hshort
    cases position with
    | nil => exact hroot id hshort
    | cons index position =>
      obtain ⟨child, hchild, hsub⟩ := Option.bind_eq_some_iff.mp hshort.2
      exact hchildren child (List.mem_of_getElem? hchild) position id ⟨hshort.1, hsub⟩

/-- Whatever looks like a shorthand reference is a reference to a schema component. -/
def Resolved (json : Json) : Prop :=
  ∀ position id, ShortAt json position id → ∃ name, "#" ++ id = "#/components/schemas/" ++ name

lemma resolved_iff :
    Resolved json ↔
      (∀ id, ShortAt json [] id → ∃ name, "#" ++ id = "#/components/schemas/" ++ name) ∧
      ∀ child ∈ json.children, Resolved child :=
  forall_shortAt_iff

lemma resolved_component (id : String) : Resolved (Reference.component .schemas id).toJson := by
  refine resolved_iff.mpr ⟨fun id' hshort => ⟨id, ?_⟩, ?_⟩
  · have htarget := hshort.2
    simp only [valueAt?, Reference.toJson, short, Option.some.injEq, Json.object.injEq,
      OrderedMap.mk.injEq, List.cons.injEq, Prod.mk.injEq, Json.string.injEq, true_and,
      and_true] at htarget
    exact htarget.symm
  · refine List.forall_mem_singleton.mpr (resolved_iff.mpr ⟨?_, List.forall_mem_nil _⟩)
    rintro id' ⟨-, hstring⟩
    cases hstring

lemma expand_eq_string_iff {s : String} : expand json = .string s ↔ json = .string s := by
  cases json with
  | null | bool | number | array => simp [expand]
  | string => rw [expand]
  | object fields => simp [expand_object]

/-- Writing out the values of fields neither makes a shorthand reference of them nor breaks one. -/
lemma mapValues_expand_eq_short_iff {fields : OrderedMap Json} :
    (fields.mapValues expand).entries = short id ↔ fields.entries = short id := by
  obtain ⟨_ | ⟨⟨key, value⟩, _ | ⟨e, rest⟩⟩⟩ := fields
  · simp [OrderedMap.mapValues, short]
  · simp [OrderedMap.mapValues, short, expand_eq_string_iff]
  · simp [OrderedMap.mapValues, short]

lemma shortAt_mapValues_expand_iff {fields : OrderedMap Json} :
    ShortAt (.object (fields.mapValues expand)) [] id ↔ ShortAt (.object fields) [] id := by
  rw [shortAt_object_iff, shortAt_object_iff, mapValues_expand_eq_short_iff]

/-- No shorthand reference is left in a value that is written out. -/
lemma resolved_expand (json : Json) : Resolved (expand json) := by
  induction json using children_induction with
  | h json ih =>
    by_cases hroot : ∃ id, ShortAt json [] id
    · obtain ⟨id, hshort⟩ := hroot
      rw [expand_of_short hshort]
      exact resolved_component id
    · have hnone : ∀ id, ¬ShortAt json [] id := not_exists.mp hroot
      refine resolved_iff.mpr ⟨fun id hshort => ?_, ?_⟩
      · cases json with
        | null | bool | number | string | array => cases hshort.2
        | object fields =>
          rw [expand_object, expandObject_of_none (target?_eq_none_iff.mpr hnone),
            shortAt_mapValues_expand_iff] at hshort
          exact absurd hshort (hnone id)
      · rw [children_expand hnone]
        exact List.forall_mem_map.mpr ih

/-! ### Values that stay as they are -/

lemma free_iff :
    Free json ↔ (∀ id, ¬ShortAt json [] id) ∧ ∀ child ∈ json.children, Free child :=
  forall_shortAt_iff

/-- A shorthand reference is not its own replacement, which is longer. -/
lemma expand_ne_of_short (h : ShortAt json [] id) : expand json ≠ json := by
  rw [expand_of_short h]
  obtain ⟨-, hjson⟩ := h
  obtain rfl := Option.some.inj hjson
  intro heq
  have htarget : (Reference.component .schemas id).target = "#" ++ id := by
    simpa [Reference.toJson, short] using heq
  have hchars := congrArg String.toList htarget
  rw [Reference.toList_target_component, String.toList_append] at hchars
  exact absurd (List.append_cancel_right hchars) (by decide)

lemma expand_eq_self_iff (json : Json) : expand json = json ↔ Free json := by
  induction json using children_induction with
  | h json ih =>
    rw [free_iff]
    constructor
    · intro heq
      have hroot : ∀ id, ¬ShortAt json [] id := fun id hshort => expand_ne_of_short hshort heq
      refine ⟨hroot, fun child hchild => (ih child hchild).mp ?_⟩
      have hchildren := children_expand hroot
      rw [heq] at hchildren
      exact (List.map_inj_left.mp (hchildren.symm.trans (List.map_id _).symm)) child hchild
    · rintro ⟨hroot, hchildren⟩
      refine ext_shape (shape_expand hroot) ((children_expand hroot).trans ?_)
      refine (List.map_congr_left fun child hchild => ?_).trans (List.map_id _)
      exact (ih child hchild).mpr (hchildren child hchild)

lemma expand_injective : Function.Injective expand :=
  Function.LeftInverse.injective contract_expand

/-- Writing out loses nothing, leaves alone only the values without shorthand references, and can be
repeated without effect on these values only. -/
theorem expand_lossless :
    Function.Injective expand ∧ (∀ json, expand json = json ↔ Free json) ∧
      ∀ json, expand (expand json) = expand json ↔ expand json = json :=
  ⟨expand_injective, expand_eq_self_iff, fun _ => expand_injective.eq_iff⟩

end ApiScribe.OpenApi.Shorthand
