import ApiScribe.Builder.Declaration
import ApiScribe.Proofs.Annotation.Splitting
import ApiScribe.Proofs.Builder.Rules
import ApiScribe.Proofs.Expansion
import ApiScribe.Proofs.Json.Acceptance

/-!
# What a schema annotation stores

The object that a schema annotation reads is stored without its ID and with its shorthand
references written out, as a component or with the content in scope. The ID is dropped last: an
object that is a shorthand reference but for its ID is stored as it is.
-/

namespace ApiScribe

open OpenApi

/-! ### Schemas of contents -/

namespace OpenApi

/-- The schema of a JSON body. -/
def Content.schema? (content : Content) : Option Schema :=
  (OrderedMap.get? content jsonMediaType).bind (·.schema)

lemma Content.schema?_modifyJson (content : Content) (schema : Schema) :
    (content.modifyJson fun m => { m with schema := some schema }).schema? = some schema := by
  rw [Content.schema?, Content.modifyJson, OrderedMap.get?_insert_self, Option.bind_some]

namespace Document

open Builder

variable (doc : Document)

lemma parameter?_modifyParameter (f : Parameter → Parameter) (place : ParameterPlace) :
    (doc.modifyParameter f place).parameter? place = (doc.parameter? place).map f := by
  cases place with
  | component id => exact OrderedMap.get?_modify_self _ _ _
  | inline operation index =>
    simp only [parameter?, modifyParameter, operation?_modifyOperation_self]
    cases doc.operation? operation with
    | none => rfl
    | some o =>
      simp only [Option.map_some, Option.bind_eq_bind, Option.bind_some, List.getElem?_modify_eq]
      cases o.parameters[index]? <;> simp

lemma requestBody?_modifyRequestBody (f : RequestBody → RequestBody) (place : RequestBodyPlace) :
    (doc.modifyRequestBody f place).requestBody? place = (doc.requestBody? place).map f := by
  cases place with
  | component id => exact OrderedMap.get?_modify_self _ _ _
  | inline operation =>
    simp only [requestBody?, modifyRequestBody, operation?_modifyOperation_self]
    cases doc.operation? operation with
    | none => rfl
    | some o =>
      simp only [Option.map_some, Option.bind_eq_bind, Option.bind_some]
      cases o.requestBody <;> simp

lemma response?_modifyResponse (f : Response → Response) (place : ResponsePlace) :
    (doc.modifyResponse f place).response? place = (doc.response? place).map f := by
  cases place with
  | component id => exact OrderedMap.get?_modify_self _ _ _
  | inline operation status =>
    simp only [response?, modifyResponse, operation?_modifyOperation_self]
    cases doc.operation? operation with
    | none => rfl
    | some o =>
      simp only [Option.map_some, Option.bind_eq_bind, Option.bind_some,
        OrderedMap.get?_modify_self]
      cases o.responses.get? status <;> simp

/-- The schema of the content at a place. -/
def schemaAt? : ContentPlace → Option Schema
  | .parameter place => (doc.parameter? place).bind (·.schema)
  | .requestBody place => (doc.requestBody? place).bind (·.content.schema?)
  | .response place => (doc.response? place).bind (·.content.schema?)

variable {doc}

lemma schemaAt?_setSchema {place : ContentPlace} (h : doc.hasContent place) (schema : Schema) :
    (doc.setSchema schema place).schemaAt? place = some schema := by
  cases place with
  | parameter place =>
    obtain ⟨p, hp⟩ := Option.isSome_iff_exists.mp h
    simp only [schemaAt?, setSchema, parameter?_modifyParameter, hp, Option.map_some,
      Option.bind_some]
  | requestBody place =>
    obtain ⟨b, hb⟩ := Option.isSome_iff_exists.mp h
    simp only [schemaAt?, setSchema, requestBody?_modifyRequestBody, hb, Option.map_some,
      Option.bind_some, Content.schema?_modifyJson]
  | response place =>
    obtain ⟨r, hr⟩ := Option.isSome_iff_exists.mp h
    simp only [schemaAt?, setSchema, response?_modifyResponse, hr, Option.map_some,
      Option.bind_some, Content.schema?_modifyJson]

end Document

end OpenApi

namespace Builder

open Shorthand Text

variable {fields stored : OrderedMap Json} {id : String}

/-! ### What is kept -/

/-- The fields that are kept of a schema: its ID is dropped once the references are written out. -/
def keptFields (fields : OrderedMap Json) : OrderedMap Json := (expandObject fields).erase "$id"

lemma keptFields_of_short (h : ShortAt (.object fields) [] id) :
    keptFields fields = ⟨[("$ref", .string ("#/components/schemas/" ++ id))]⟩ := by
  obtain ⟨hid, hentries⟩ := shortAt_object_iff.mp h
  rw [keptFields, expandObject_of_target (target?_eq_some_iff.mpr ⟨hid, hentries⟩)]
  rfl

lemma keptFields_of_not_short (h : ∀ id, ¬ShortAt (.object fields) [] id) :
    keptFields fields = (fields.erase "$id").mapValues expand := by
  rw [keptFields, expandObject_of_none (target?_eq_none_iff.mpr h)]
  refine OrderedMap.ext_entries ?_
  rw [OrderedMap.erase, OrderedMap.mapValues, OrderedMap.mapValues, OrderedMap.erase,
    List.filter_map]
  rfl

/-- The second object has the fields of the first one but for its ID, in order and with their
shorthand references written out, unless the first object is a shorthand reference itself. -/
structure Stores (fields stored : OrderedMap Json) : Prop where
  short : ∀ id, ShortAt (.object fields) [] id →
    stored = ⟨[("$ref", .string ("#/components/schemas/" ++ id))]⟩
  plain : (∀ id, ¬ShortAt (.object fields) [] id) →
    List.Forall₂ (fun field field' => field'.1 = field.1 ∧ WrittenOut field.2 field'.2)
      (fields.entries.filter (·.1 ≠ "$id")) stored.entries

lemma stores_keptFields (fields : OrderedMap Json) : Stores fields (keptFields fields) where
  short _ h := keptFields_of_short h
  plain h := by
    rw [keptFields_of_not_short h, OrderedMap.mapValues, List.forall₂_map_right_iff]
    exact List.forall₂_same.mpr fun field _ => ⟨rfl, writtenOut_expand field.2⟩

/-- The object is a shorthand reference but for its ID. -/
def Masked (fields : OrderedMap Json) (id : String) : Prop :=
  "$id" ∈ fields.keys ∧ ShortAt (.object (fields.erase "$id")) [] id

lemma resolved_keptFields_iff :
    Resolved (.object (keptFields fields)) ↔
      ∀ id, Masked fields id → ∃ name, "#" ++ id = "#/components/schemas/" ++ name := by
  by_cases hroot : ∃ id, ShortAt (.object fields) [] id
  · obtain ⟨id, hshort⟩ := hroot
    rw [keptFields_of_short hshort]
    refine iff_of_true (resolved_component id) fun id' hmasked => ?_
    have hkeys : fields.keys = ["$ref"] := by
      rw [OrderedMap.keys, (shortAt_object_iff.mp hshort).2]
      rfl
    exact absurd (hkeys ▸ hmasked.1) (by decide)
  · have hnone : ∀ id, ¬ShortAt (.object fields) [] id := not_exists.mp hroot
    have hchildren : ∀ child ∈ (Json.object (keptFields fields)).children, Resolved child := by
      rw [keptFields_of_not_short hnone]
      simp only [Json.children, OrderedMap.mapValues, List.map_map, List.forall_mem_map]
      exact fun field _ => resolved_expand field.2
    rw [resolved_iff, and_iff_left hchildren, keptFields_of_not_short hnone]
    refine forall_congr' fun id => imp_congr_left ?_
    rw [shortAt_mapValues_expand_iff, Masked, iff_and_self]
    -- without an ID, the object would be a shorthand reference itself
    intro hshort
    by_contra hkey
    rw [OrderedMap.erase_of_notMem hkey] at hshort
    exact hnone id hshort

/-! ### Reading a schema -/

lemma eq_hash_append {text : String} {cs : List Char} (h : text.toList = '#' :: cs) :
    text = "#" ++ .ofList cs := by
  rw [← String.toList_inj]
  simp [h]

lemma schemaId_eq_some_iff :
    schemaId fields = .ok (some id) ↔ fields.get? "$id" = some (.string ("#" ++ id)) := by
  constructor
  · intro h
    unfold schemaId at h
    split at h
    next text hget =>
      split at h
      next cs htext =>
        cases h
        rw [hget, ← eq_hash_append htext]
      next => cases h
    next => cases h
  · intro h
    rw [schemaId, h]
    simp

lemma exists_schemaId_iff :
    (∃ id?, schemaId fields = .ok id?) ↔
      ∀ text, fields.get? "$id" = some (.string text) → ∃ rest, text = "#" ++ rest := by
  constructor
  · rintro ⟨id?, h⟩ text hget
    simp only [schemaId, hget] at h
    split at h
    next cs htext => exact ⟨.ofList cs, eq_hash_append htext⟩
    next => cases h
  · intro h
    unfold schemaId
    split
    next text hget =>
      obtain ⟨rest, rfl⟩ := h text hget
      exact ⟨some rest, by simp⟩
    next => exact ⟨none, rfl⟩

lemma schemaId_expandObject (fields : OrderedMap Json) :
    schemaId (expandObject fields) = schemaId fields := by
  cases htarget : target? fields.entries with
  | some id =>
    obtain rfl : fields = ⟨short id⟩ := OrderedMap.ext_entries (target?_eq_some_iff.mp htarget).2
    rw [expandObject_of_target htarget]
    rfl
  | none =>
    rw [expandObject_of_none htarget, schemaId, schemaId, OrderedMap.get?_mapValues]
    cases fields.get? "$id" with
    | none => rfl
    | some json =>
      cases json with
      | null | bool | number | string | array => rfl
      | object fields =>
        rw [Option.map_some, expand_object]

lemma readSchema_eq {value : Option String} {argument body : String}
    (hreference : Argument.reference? argument = none)
    (hparse : Json.parse (schemaText value body) = .ok (.object fields)) :
    readSchema value argument body =
      (schemaId fields).map fun id? => (.item (.object (keptFields fields)), id?) := by
  rw [readSchema, hreference]
  simp only [if_neg (Json.trim_ne_empty_of_parse hparse), decodeSchema,
    Json.parseObject_eq_ok_iff.mpr hparse, schemaId_expandObject]
  cases schemaId fields <;> rfl

lemma readSchema_of_schemaId {value : Option String} {argument body : String} {id? : Option String}
    (hreference : Argument.reference? argument = none)
    (hparse : Json.parse (schemaText value body) = .ok (.object fields))
    (hid : schemaId fields = .ok id?) :
    readSchema value argument body = .ok (.item (.object (keptFields fields)), id?) := by
  rw [readSchema_eq hreference hparse, hid]
  rfl

/-! ### Applying the annotation -/

section Literal

variable {value : Option String} {s : State} {a : Annotation} {place : ContentPlace}
  (hkind : a.kind = .jsonSchema) (hreference : Argument.reference? a.argument = none)
  (hparse : Json.parse (schemaText value a.bodyText) = .ok (.object fields))

include hkind hreference hparse

lemma exists_schemaId_of_done (hdone : (attempt value s a).2 = .done) :
    ∃ id?, schemaId fields = .ok id? := by
  cases hid : schemaId fields with
  | ok id? => exact ⟨id?, rfl⟩
  | error error =>
    simp only [attempt, apply, hkind, applyJsonSchema, readSchema_eq hreference hparse,
      hid] at hdone
    cases hdone

/-- The schema becomes a component. -/
lemma attempt_register (hscope : s.pass.scope.content? = none)
    (hid : fields.get? "$id" = some (.string ("#" ++ id))) (hne : id ≠ "") :
    attempt value s a =
      ({ s with doc := s.doc.modifyComponents fun c =>
          { c with schemas := c.schemas.insert id (.object (keptFields fields)) } }, .done) := by
  have hread := readSchema_of_schemaId hreference hparse (schemaId_eq_some_iff.mpr hid)
  exact (Rule.schema hkind hread hscope hne).attempt_eq fun _ h => by cases h

/-- The schema becomes part of the content. -/
lemma attempt_attach {id? : Option String} (hscope : s.pass.scope.content? = some place)
    (hcontent : s.doc.hasContent place) (hid : schemaId fields = .ok id?) :
    attempt value s a =
      ({ s with doc := s.doc.setSchema (.item (.object (keptFields fields))) place }, .done) := by
  have hread := readSchema_of_schemaId hreference hparse hid
  exact (Rule.attachSchema hkind hread hscope hcontent).attempt_eq fun _ h => by cases h

lemma attempt_register_done_iff (hscope : s.pass.scope.content? = none) :
    (attempt value s a).2 = .done ↔
      ∃ id, id ≠ "" ∧ fields.get? "$id" = some (.string ("#" ++ id)) := by
  constructor
  · intro hdone
    obtain ⟨id?, hid⟩ := exists_schemaId_of_done hkind hreference hparse hdone
    have hread := readSchema_of_schemaId hreference hparse hid
    simp only [attempt, apply, hkind, applyJsonSchema, hread, Effect.check_ok, hscope] at hdone
    cases id? with
    | none => cases hdone
    | some id =>
      refine ⟨id, ?_, schemaId_eq_some_iff.mp hid⟩
      rintro rfl
      cases hdone
  · rintro ⟨id, hne, hid⟩
    rw [attempt_register hkind hreference hparse hscope hid hne]

lemma attempt_attach_done_iff (hscope : s.pass.scope.content? = some place)
    (hcontent : s.doc.hasContent place) :
    (attempt value s a).2 = .done ↔
      ∀ text, fields.get? "$id" = some (.string text) → ∃ rest, text = "#" ++ rest := by
  rw [← exists_schemaId_iff]
  constructor
  · exact exists_schemaId_of_done hkind hreference hparse
  · rintro ⟨id?, hid⟩
    rw [attempt_attach hkind hreference hparse hscope hcontent hid]

/-- Content that is no longer there takes no schema. -/
lemma hasContent_of_done (hdone : (attempt value s a).2 = .done)
    (hscope : s.pass.scope.content? = some place) : s.doc.hasContent place := by
  obtain ⟨id?, hid⟩ := exists_schemaId_of_done hkind hreference hparse hdone
  have hread := readSchema_of_schemaId hreference hparse hid
  by_contra hcontent
  simp only [attempt, apply, hkind, applyJsonSchema, hread, Effect.check_ok, hscope,
    if_neg hcontent] at hdone
  cases hdone

end Literal

variable {value : Option String} {s : State} {a : Annotation}

/-- A schema annotation without a component in its argument stores the object it reads. Where no
content is in scope, the object needs an ID and becomes the component with that ID; otherwise a
string as its ID must start with `#`, and the object becomes the schema of the content. -/
theorem schema_stored (hkind : a.kind = .jsonSchema)
    (hreference : Argument.reference? a.argument = none)
    (hparse : Json.parse (schemaText value a.bodyText) = .ok (.object fields)) (s : State) :
    ∃ stored, Stores fields stored ∧
      (s.pass.scope.content? = none →
        ((attempt value s a).2 = .done ↔
          ∃ id, id ≠ "" ∧ fields.get? "$id" = some (.string ("#" ++ id))) ∧
        ∀ id, id ≠ "" → fields.get? "$id" = some (.string ("#" ++ id)) →
          (attempt value s a).1 = { s with doc := s.doc.modifyComponents fun c =>
            { c with schemas := c.schemas.insert id (.object stored) } }) ∧
      ∀ place, s.pass.scope.content? = some place → s.doc.hasContent place →
        ((attempt value s a).2 = .done ↔
          ∀ text, fields.get? "$id" = some (.string text) → ∃ rest, text = "#" ++ rest) ∧
        ((attempt value s a).2 = .done →
          (attempt value s a).1 = { s with doc := s.doc.setSchema (.item (.object stored)) place } ∧
          (attempt value s a).1.doc.schemaAt? place = some (.item (.object stored))) := by
  refine ⟨keptFields fields, stores_keptFields fields, fun hscope => ⟨?_, ?_⟩, ?_⟩
  · exact attempt_register_done_iff hkind hreference hparse hscope
  · intro id hne hid
    rw [attempt_register hkind hreference hparse hscope hid hne]
  · intro place hscope hcontent
    refine ⟨attempt_attach_done_iff hkind hreference hparse hscope hcontent, fun hdone => ?_⟩
    obtain ⟨id?, hid⟩ := exists_schemaId_of_done hkind hreference hparse hdone
    rw [attempt_attach hkind hreference hparse hscope hcontent hid]
    exact ⟨rfl, Document.schemaAt?_setSchema hcontent _⟩

/-- A schema that refers to another one, over two lines. -/
def negation : Annotation :=
  { kind := .jsonSchema, body := ["\x7b\"$id\": \"#A\",", "\"not\": \x7b\"$ref\": \"#B\"\x7d\x7d"] }

def negationFields : OrderedMap Json :=
  ⟨[("$id", .string "#A"), ("not", .object ⟨[("$ref", .string "#B")]⟩)]⟩

lemma parse_negation :
    Json.parse (schemaText none negation.bodyText) = .ok (.object negationFields) := by
  have htarget : (Json.object ⟨[("$ref", .string "#B")]⟩).Distinct :=
    .object (by decide) (List.forall_mem_singleton.mpr (.string "#B"))
  refine Json.parse_of_readsAs (.object (by decide) ?_) (by decide +kernel)
  exact List.forall_mem_cons.mpr ⟨.string "#A", List.forall_mem_singleton.mpr htarget⟩

/-- The schema becomes a component under its ID. -/
theorem schema_stored_negation :
    negation.kind = .jsonSchema ∧ Argument.reference? negation.argument = none ∧
      Json.parse (schemaText none negation.bodyText) = .ok (.object negationFields) ∧
      ∃ stored, Stores negationFields stored ∧
        (attempt none (.start {} "NOT") negation).2 = .done ∧
        (attempt none (.start {} "NOT") negation).1.doc.components.schemas =
          ⟨[("A", .object stored)]⟩ := by
  obtain ⟨stored, hstored, hregister, -⟩ :=
    schema_stored (a := negation) rfl rfl parse_negation (.start {} "NOT")
  obtain ⟨hdone, hstate⟩ := hregister rfl
  refine ⟨rfl, rfl, parse_negation, stored, hstored, hdone.mpr ⟨"A", by decide, rfl⟩, ?_⟩
  rw [hstate "A" (by decide) rfl]
  rfl

/-! ### References in stored schemas -/

/-- The document has the object as the schema that an annotation with the fields describes. -/
inductive StoredIn (s : State) (fields stored : OrderedMap Json) (doc : Document) : Prop
  | component {id : String} (hscope : s.pass.scope.content? = none)
    (hid : fields.get? "$id" = some (.string ("#" ++ id)))
    (hstored : doc.components.schemas.get? id = some (.object stored))
  | content {place : ContentPlace} (hscope : s.pass.scope.content? = some place)
    (hstored : doc.schemaAt? place = some (.item (.object stored)))

lemma storedIn_of_done (hkind : a.kind = .jsonSchema)
    (hreference : Argument.reference? a.argument = none)
    (hparse : Json.parse (schemaText value a.bodyText) = .ok (.object fields))
    (hdone : (attempt value s a).2 = .done) :
    StoredIn s fields (keptFields fields) (attempt value s a).1.doc := by
  cases hscope : s.pass.scope.content? with
  | none =>
    obtain ⟨id, hne, hid⟩ := (attempt_register_done_iff hkind hreference hparse hscope).mp hdone
    rw [attempt_register hkind hreference hparse hscope hid hne]
    exact .component hscope hid (OrderedMap.get?_insert_self _ _ _)
  | some place =>
    have hcontent := hasContent_of_done hkind hreference hparse hdone hscope
    obtain ⟨id?, hid⟩ := exists_schemaId_of_done hkind hreference hparse hdone
    rw [attempt_attach hkind hreference hparse hscope hcontent hid]
    exact .content hscope (Document.schemaAt?_setSchema hcontent _)

/-- A shorthand reference is left in a stored schema if and only if the schema is one but for its
ID. -/
theorem schema_resolved_iff (hkind : a.kind = .jsonSchema)
    (hreference : Argument.reference? a.argument = none)
    (hparse : Json.parse (schemaText value a.bodyText) = .ok (.object fields))
    (hdone : (attempt value s a).2 = .done) :
    ∃ stored, StoredIn s fields stored (attempt value s a).1.doc ∧
      (Resolved (.object stored) ↔
        ∀ id, Masked fields id → ∃ name, "#" ++ id = "#/components/schemas/" ++ name) :=
  ⟨keptFields fields, storedIn_of_done hkind hreference hparse hdone, resolved_keptFields_iff⟩

/-- The reference in the schema is resolved where the schema is stored. -/
theorem schema_resolved_negation :
    (attempt none (.start {} "NOT") negation).2 = .done ∧
      ∃ stored, StoredIn (.start {} "NOT") negationFields stored
          (attempt none (.start {} "NOT") negation).1.doc ∧ Resolved (.object stored) := by
  have hdone : (attempt none (.start {} "NOT") negation).2 = .done :=
    (attempt_register_done_iff rfl rfl parse_negation rfl).mpr ⟨"A", by decide, rfl⟩
  obtain ⟨stored, hstored, hresolved⟩ :=
    schema_resolved_iff (a := negation) rfl rfl parse_negation hdone
  refine ⟨hdone, stored, hstored, hresolved.mpr fun id hmasked => ?_⟩
  have hkeys : ["not"] = ["$ref"] :=
    congrArg (List.map Prod.fst) (shortAt_object_iff.mp hmasked.2).2
  exact absurd hkeys (by decide)

/-- A schema that is a shorthand reference but for its ID. -/
def synonymText : String := "\x7b\"$id\": \"#Alias\", \"$ref\": \"#User\"\x7d"

def synonymFields : OrderedMap Json := ⟨[("$id", .string "#Alias"), ("$ref", .string "#User")]⟩

def synonym : Annotation := { kind := .jsonSchema, body := [synonymText] }

lemma parse_synonym :
    Json.parse (schemaText none synonym.bodyText) = .ok (.object synonymFields) := by
  refine Json.parse_of_readsAs (.object (by decide) ?_) (by decide +kernel)
  exact List.forall_mem_cons.mpr ⟨.string "#Alias", List.forall_mem_singleton.mpr (.string "#User")⟩

/-- A declaration with one annotation takes one step. -/
lemma addTo_of_singleton (d : Declaration) (h : Annotation.ofComment d.doc = [a])
    (doc : Document) :
    d.addTo doc =
      ((step d.value (.start doc d.name) a).1.doc,
        (step d.value (.start doc d.name) a).2.map d.diagnostic) := by
  rw [Declaration.addTo, Declaration.annotations, h]
  cases hattempt : attempt d.value (.start doc d.name) a with
  | mk next outcome => cases outcome <;> simp only [runPass, step, hattempt]

/-- The reference is stored as it is. -/
theorem synonym_unresolved :
    ({ name := "ALIAS", doc := Annotation.comment [synonym] : Declaration }.addTo
        {}).1.components.schemas.get? "Alias" = some (.object ⟨[("$ref", .string "#User")]⟩) ∧
      ¬Resolved (.object ⟨[("$ref", .string "#User")]⟩) := by
  constructor
  · have htidy : synonym.Tidy := ⟨by decide, .singleton (by decide) (by decide) (by decide)⟩
    have hcomment := Annotation.ofComment_comment (List.forall_mem_singleton.mpr htidy)
    have hid : synonymFields.get? "$id" = some (.string ("#" ++ "Alias")) := rfl
    have hattempt := attempt_register (s := .start {} "ALIAS") (a := synonym) rfl rfl parse_synonym
      rfl hid (by decide)
    rw [addTo_of_singleton { name := "ALIAS", doc := Annotation.comment [synonym] } hcomment, step,
      hattempt]
    rfl
  · intro h
    obtain ⟨name, hname⟩ := h [] "User" ⟨by decide, rfl⟩
    have hchars := congrArg String.toList hname
    simp at hchars

end Builder

end ApiScribe
