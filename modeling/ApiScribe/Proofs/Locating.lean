import ApiScribe.Builder.Locator
import ApiScribe.Proofs.Json.Pointer
import ApiScribe.Proofs.Linking

/-!
# Where the parts of a document are written

In the JSON form of a document every component stands under its kind and key, and every table of
paths, be it the document's own or that of a callback, where its place says.
-/

namespace ApiScribe

open OpenApi

namespace OrderedMap

variable {α : Type}

/-! ### Looking up fields -/

lemma lookup_append (key : String) (front back : List (String × α)) :
    lookup key (front ++ back) = (lookup key front).or (lookup key back) := by
  induction front with
  | nil => rfl
  | cons e front ih =>
    obtain ⟨k, v⟩ := e
    simp only [List.cons_append, lookup, ih]
    split_ifs <;> rfl

end OrderedMap

namespace OpenApi

open OrderedMap (lookup lookup_append)

section Fields

variable {key name : String}

lemma lookup_textField (h : name ≠ key) (text : String) :
    lookup key (textField name text) = none := by
  unfold textField
  split_ifs <;> simp [lookup, h]

lemma lookup_listField (h : name ≠ key) (items : List Json) :
    lookup key (listField name items) = none := by
  unfold listField
  split_ifs <;> simp [lookup, h]

lemma lookup_mapField (h : name ≠ key) (fields : List (String × Json)) :
    lookup key (mapField name fields) = none := by
  unfold mapField
  split_ifs <;> simp [lookup, h]

lemma lookup_mapField_self {fields : List (String × Json)} (h : fields ≠ []) :
    lookup name (mapField name fields) = some (.object ⟨fields⟩) := by
  simp [mapField, h, lookup]

lemma lookup_optionField (value : Option Json) :
    lookup key (optionField name value) = if name = key then value else none := by
  cases value <;> simp [optionField, lookup]

end Fields

/-! ### Components -/

/-- The components of a kind as they are written. -/
def Components.written (components : Components) : ComponentKind → OrderedMap Json
  | .schemas => components.schemas
  | .parameters => components.parameters.mapValues Parameter.toJson
  | .requestBodies => components.requestBodies.mapValues RequestBody.toJson
  | .responses => components.responses.mapValues Response.toJson
  | .callbacks => components.callbacks.mapValues Paths.toJson

lemma ne_nil_of_lookup {α : Type} {fields : List (String × α)} {key : String} {value : α}
    (h : lookup key fields = some value) : fields ≠ [] := by
  rintro rfl
  cases h

/-- The map of a kind is written if it is not empty. -/
lemma child?_components {components : Components} {kind : ComponentKind}
    (h : (components.written kind).entries ≠ []) :
    components.toJson.child? (.field kind.name) = some (.object (components.written kind)) := by
  cases kind with
  | schemas =>
    have hmap : mapEntries id components.schemas = components.schemas.entries := List.map_id _
    rw [Components.written] at h ⊢
    simp [Components.toJson, Json.child?, OrderedMap.get?, lookup_append, lookup_mapField,
      ComponentKind.name, hmap, lookup_mapField_self h]
  | parameters | requestBodies | responses | callbacks =>
    simp only [Components.toJson, Json.child?, OrderedMap.get?, lookup_append, lookup_mapField,
      ComponentKind.name, ne_eq, String.reduceEq, not_false_eq_true, Option.none_or, Option.or_none]
    exact lookup_mapField_self h

lemma isEmpty_components_eq_false {components : Components} {kind : ComponentKind}
    (h : (components.written kind).entries ≠ []) : components.isEmpty = false := by
  cases kind <;> simp_all [Components.written, Components.isEmpty, OrderedMap.isEmpty,
    OrderedMap.mapValues]

/-- A component is written under its kind and key. -/
lemma follow?_component {doc : Document} {kind : ComponentKind} {id : String} {json : Json}
    (h : (doc.components.written kind).get? id = some json) :
    doc.toJson.follow? [.field "components", .field kind.name, .field id] = some json := by
  have hne : (doc.components.written kind).entries ≠ [] := ne_nil_of_lookup h
  have hcomponents : doc.toJson.child? (.field "components") = some doc.components.toJson := by
    simp [Document.toJson, Json.child?, OrderedMap.get?, lookup_append, lookup_listField, lookup,
      isEmpty_components_eq_false hne]
  simp only [Json.follow?, hcomponents, child?_components hne, Option.bind_some]
  simpa [Json.child?] using h

/-! ### Tables of paths -/

/-- The steps to the table of paths at a place. -/
def steps : Builder.Container → List Json.Step
  | .document => [.field "paths"]
  | .component id => [.field "components", .field "callbacks", .field id]
  | .inline container path method key =>
    steps container ++ [.field path, .field method.key, .field "callbacks", .field key]

lemma child?_paths (paths : Paths) (path : String) :
    (Paths.toJson paths).child? (.field path) =
      (OrderedMap.get? paths path).map (PathItem.toJson Operation.toJson) := by
  rw [Paths.toJson_eq]
  exact OrderedMap.get?_mapValues _ paths path

lemma child?_pathItem (item : PathItem Operation) (method : Method) :
    (item.toJson Operation.toJson).child? (.field method.key) =
      (item.operation? method).map Operation.toJson := by
  cases method <;>
    simp [PathItem.toJson, PathItem.fields, Method.all, Json.child?, OrderedMap.get?,
      lookup_append, lookup_optionField, Method.key]

lemma follow?_callback {o : Operation} {key : String} {callback : RefOr Paths}
    (h : o.callbacks.get? key = some callback) :
    o.toJson.follow? [.field "callbacks", .field key] = some (callback.toJson Paths.toJson) := by
  let written := o.callbacks.mapValues (RefOr.toJson Paths.toJson)
  have hget : written.get? key = some (callback.toJson Paths.toJson) := by
    rw [OrderedMap.get?_mapValues, h, Option.map_some]
  have hcallbacks : o.toJson.child? (.field "callbacks") = some (.object written) := by
    rw [Operation.toJson_eq]
    simp only [Json.child?, OrderedMap.get?, lookup_append, lookup_listField, lookup_textField,
      lookup_optionField, lookup, ne_eq, String.reduceEq, not_false_eq_true, if_false,
      Option.none_or, Option.or_none]
    exact lookup_mapField_self (ne_nil_of_lookup hget)
  simp only [Json.follow?, hcallbacks, Option.bind_some]
  simpa [Json.child?] using hget

/-- A table of paths is written at its place. -/
lemma follow?_paths {doc : Document} {c : Builder.Container} {paths : Paths}
    (h : doc.paths? c = some paths) : doc.toJson.follow? (steps c) = some (Paths.toJson paths) := by
  induction c generalizing paths with
  | document =>
    cases h
    simp [steps, Json.follow?, Document.toJson, Json.child?, OrderedMap.get?, lookup_append,
      lookup_listField, lookup]
  | component id =>
    have hget : doc.components.callbacks.get? id = some paths := h
    refine @follow?_component doc .callbacks id _ ?_
    rw [Components.written, OrderedMap.get?_mapValues, hget, Option.map_some]
  | inline container path method key ih =>
    simp only [Document.paths?, Option.bind_eq_bind, Option.bind_eq_some_iff] at h
    obtain ⟨table, htable, o, ho, callback, hcallback, hitem⟩ := h
    rw [steps, Json.follow?_append, ih htable, Option.bind_some]
    simp only [Json.follow?, child?_paths]
    obtain ⟨pathItem, hpath, hmethod⟩ := Option.bind_eq_some_iff.mp ho
    rw [hpath, Option.map_some, Option.bind_some, child?_pathItem, hmethod, Option.map_some,
      Option.bind_some]
    have hfollow := follow?_callback hcallback
    cases callback with
    | ref reference => cases hitem
    | item value =>
      cases hitem
      exact hfollow

end OpenApi

end ApiScribe
