import ApiScribe.OpenApi.Read
import ApiScribe.Proofs.Json.Parsing
import ApiScribe.Proofs.Json.Reading
import ApiScribe.Proofs.Linking
import ApiScribe.Proofs.Regularity

/-!
# Reading written documents

Every part of a regular document is taken back by its reader as its linked form: what is left out is
restored by a default, and an object written in place is not taken for a reference.
-/

namespace ApiScribe.OpenApi

open Json Json.Reader

/-! ### Fields that are left out while empty -/

section Fields

variable {α β : Type} {read : Reader β} {write : α → Json} {f : α → β} (name : String)

lemma written_textField (text : String) :
    Written string name "" text (textField name text) := by
  unfold textField
  split_ifs with h
  · exact .omitted h
  · exact .field rfl

lemma written_flagField (flag : Bool) : Written bool name false flag (flagField name flag) := by
  cases flag with
  | false => exact .omitted rfl
  | true => exact .field rfl

lemma written_listField {values : List α}
    (h : ∀ v ∈ values, read (.ofJson (write v)) = .ok (f v)) :
    Written (list read) name [] (values.map f) (listField name (values.map write)) := by
  cases values with
  | nil => exact .omitted rfl
  | cons v values => exact .field (list_ofJson h)

lemma written_mapField {m : OrderedMap α} (hkeys : m.keys.Nodup)
    (h : ∀ e ∈ m.entries, read (.ofJson (write e.2)) = .ok (f e.2)) :
    Written (map read) name {} (m.mapValues f) (mapField name (mapEntries write m)) := by
  obtain ⟨_ | ⟨e, entries⟩⟩ := m
  · exact .omitted rfl
  · exact .field (map_ofJson hkeys h)

lemma written_optionField {value : Option α} (hnull : ∀ v ∈ value, write v ≠ .null)
    (h : ∀ v ∈ value, read (.ofJson (write v)) = .ok (f v)) :
    Written (nullable read) name none (value.map f) (optionField name (value.map write)) := by
  cases value with
  | none => exact .omitted rfl
  | some v => exact .field (nullable_ofJson (hnull v rfl) (h v rfl))

/-! Where reading gives back the very values, so it does for lists and maps of them. -/

variable {read : Reader α}

lemma written_listField_self {values : List α}
    (h : ∀ v ∈ values, read (.ofJson (write v)) = .ok v) :
    Written (list read) name [] values (listField name (values.map write)) := by
  have hwritten := written_listField name (f := id) h
  rwa [List.map_id] at hwritten

lemma written_mapField_self {m : OrderedMap α} (hkeys : m.keys.Nodup)
    (h : ∀ e ∈ m.entries, read (.ofJson (write e.2)) = .ok e.2) :
    Written (map read) name {} m (mapField name (mapEntries write m)) := by
  have hwritten := written_mapField name (f := id) hkeys h
  rwa [OrderedMap.mapValues_id] at hwritten

lemma map_ofJson_self {m : OrderedMap α} (hkeys : m.keys.Nodup)
    (h : ∀ e ∈ m.entries, read (.ofJson (write e.2)) = .ok e.2) :
    map read (.ofJson (mapJson write m)) = .ok m := by
  have hread := map_ofJson (f := id) hkeys h
  rwa [OrderedMap.mapValues_id] at hread

lemma list_string_ofJson (texts : List String) :
    list string (.ofJson (.array (textList texts))) = .ok texts := by
  have hread : list string (.ofJson (.array (texts.map .string))) = .ok (texts.map id) :=
    list_ofJson fun _ _ => rfl
  rwa [List.map_id] at hread

end Fields

/-! ### References -/

/-- The value cannot be read as a reference. -/
structure Plain (json : Json) : Prop where
  ne_object : ∀ r : Reference, json ≠ r.toJson
  ne_list : ∀ s, json ≠ .array [.string s]

lemma string_ofJson_eq_ok {json : Json} {s : String} (h : string (.ofJson json) = .ok s) :
    json = .string s := by
  cases json <;> cases h
  rfl

/-- Only two values are read as a reference. -/
lemma eq_of_reference_eq_ok {json : Json} {r : Reference}
    (h : Read.reference (.ofJson json) = .ok r) :
    json = r.toJson ∨ json = .array [.string r.target] := by
  match json with
  | .null | .bool _ | .number _ | .string _ => cases h
  | .array [] => cases h
  | .array (item :: items) =>
    obtain ⟨r', hr', h⟩ := exists_of_bind_eq_ok h
    obtain ⟨s, hs, rfl⟩ := exists_of_map_eq_ok hr'
    obtain rfl := string_ofJson_eq_ok hs
    cases items with
    | nil => cases h; exact .inr rfl
    | cons item' items => cases h
  | .object ⟨[]⟩ => cases h
  | .object ⟨(name, value) :: fields⟩ =>
    obtain ⟨p, hp, h⟩ := exists_of_bind_eq_ok h
    obtain ⟨p₁, hp₁, hp⟩ := exists_of_bind_eq_ok hp
    by_cases hname : "$ref" = name
    · subst hname
      obtain ⟨r', hr', hp₁⟩ := exists_of_bind_eq_ok hp₁
      obtain ⟨s, hs, rfl⟩ := exists_of_map_eq_ok hr'
      obtain rfl := string_ofJson_eq_ok hs
      cases hp₁
      cases fields with
      | nil => cases hp; cases h; exact .inl rfl
      | cons e fields =>
        obtain ⟨p₂, hp₂, hp⟩ := exists_of_bind_eq_ok hp
        by_cases hname' : "$ref" = e.1
        · simp [readField, field, hname'.symm] at hp₂
        · simp [readField, field, hname'] at hp₂
    · simp [readField, field, hname] at hp₁

section RefOr

variable {α : Type} {read : Reader α} {write : α → Json} {f : α → α} {r : RefOr α}

lemma refOr_ref (read : Reader α) (r : Reference) :
    Read.refOr read (.ofJson r.toJson) = .ok (.ref r) :=
  kept_ofJson rfl

lemma refOr_item {json : Json} {v : α} (hjson : Plain json) (h : read (.ofJson json) = .ok v) :
    Read.refOr read (.ofJson json) = .ok (.item v) := by
  refine kept_ofJson ?_
  have hreference : ∃ error, Read.reference (.ofJson json) = .error error := by
    cases hread : Read.reference (.ofJson json) with
    | error error => exact ⟨error, rfl⟩
    | ok r =>
      rcases eq_of_reference_eq_ok hread with hjson' | hjson'
      · exact absurd hjson' (hjson.ne_object r)
      · exact absurd hjson' (hjson.ne_list r.target)
  obtain ⟨error, herror⟩ := hreference
  rw [orElse, herror, h]
  rfl

lemma refOr_ofJson (hplain : ∀ v, r = .item v → Plain (write v))
    (h : ∀ v, r = .item v → read (.ofJson (write v)) = .ok (f v)) :
    Read.refOr read (.ofJson (r.toJson write)) = .ok (r.mapItem f) := by
  cases r with
  | ref r => exact refOr_ref read r
  | item v => exact refOr_item (hplain v rfl) (h v rfl)

end RefOr

/-- An object with a field of another name is no reference. -/
lemma plain_of_mem {fields : List (String × Json)} {name : String} {value : Json}
    (h : (name, value) ∈ fields) (hname : name ≠ "$ref") : Plain (.object ⟨fields⟩) where
  ne_object r hr := by
    cases hr
    cases List.mem_singleton.mp h
    exact hname rfl
  ne_list s hs := by cases hs

lemma refOr_toJson_ne_null {α : Type} {write : α → Json} {r : RefOr α} (h : ∀ v, write v ≠ .null) :
    r.toJson write ≠ .null := by
  cases r with
  | ref r => exact fun h => by cases h
  | item v => exact h v

/-! ### Schemas and examples -/

lemma schema_ofJson {schema : Schema} (h : schema.Each RegularSchema) :
    Read.schema (.ofJson schema.toJson) = .ok schema.linked := by
  cases h with
  | ref r => exact refOr_ref _ r
  | @item json hjson =>
    unfold Schema.linked
    split
    next target heq =>
      cases heq
      exact refOr_ref _ { target }
    next hnot =>
      refine refOr_item ⟨?_, hjson.ne_list⟩ (json_ofJson hjson.distinct)
      rintro r rfl
      exact hnot r.target rfl

lemma Schema.toJson_ne_null {schema : Schema} (h : schema.Each RegularSchema) :
    schema.toJson ≠ .null := by
  cases h with
  | ref r => exact fun h => by cases h
  | item h => exact h.ne_null

lemma written_schema {schema : Option Schema} (h : ∀ s ∈ schema, s.Each RegularSchema) :
    Written (nullable Read.schema) "schema" none (schema.map Schema.linked)
      (optionField "schema" (schema.map Schema.toJson)) :=
  written_optionField "schema" (fun s hs => Schema.toJson_ne_null (h s hs)) fun s hs =>
    schema_ofJson (h s hs)

/-- The value may be left out if it is null. -/
lemma sample_ofFields {e : Example} {fields : List (String × Json)}
    (h : Written json "value" .null e.value fields) :
    Read.sample (.ofJson (.object
      ⟨textField "summary" e.summary ++ textField "description" e.description ++ fields⟩)) =
      .ok e := by
  rw [List.append_assoc]
  refine record_ofJson (.written (written_textField _ _) rfl ?_) (by decide)
  exact .written (written_textField _ _) rfl (.last h rfl)

lemma sample_ofJson {e : Example} (h : e.Regular) : Read.sample (.ofJson e.toJson) = .ok e := by
  have hread := json_ofJson h
  rw [Example.toJson]
  cases hvalue : e.value with
  | null => exact sample_ofFields (.omitted hvalue)
  | _ => exact sample_ofFields (.field (hvalue ▸ hread))

lemma written_examples {examples : OrderedMap Example} (h : examples.Each Example.Regular) :
    Written (map Read.sample) "examples" {} examples
      (mapField "examples" (mapEntries Example.toJson examples)) :=
  written_mapField_self "examples" h.nodup fun e he => sample_ofJson (h.values e he)

/-! ### Parameters and bodies -/

lemma parameter_ofJson {p : Parameter} (h : p.Regular) :
    Read.parameter (.ofJson p.toJson) = .ok p.linked := by
  have hlocation : oneOf false ParameterLocation.ofName? (.ofJson (.string p.location.name)) =
      .ok p.location := by
    cases p.location <;> rfl
  simp only [Parameter.toJson, List.append_assoc, List.cons_append, List.nil_append]
  refine record_ofJson (.field true rfl (.field true hlocation ?_)) (by decide)
  refine .written (written_textField _ _) rfl (.written (written_flagField _ _) rfl ?_)
  exact .written (written_schema h.schema) rfl (.last (written_examples h.examples) rfl)

lemma mediaType_ofJson {m : MediaType} (h : m.Regular) :
    Read.mediaType (.ofJson m.toJson) = .ok m.linked := by
  refine record_ofJson (.written (written_schema h.schema) rfl ?_) (by decide)
  exact .last (written_examples h.examples) rfl

lemma requestBody_ofJson {b : RequestBody} (h : b.Regular) :
    Read.requestBody (.ofJson b.toJson) = .ok b.linked := by
  have hcontent := map_ofJson h.nodup fun e he => mediaType_ofJson (h.values e he)
  simp only [RequestBody.toJson, List.append_assoc, List.cons_append, List.nil_append]
  refine record_ofJson (.written (written_textField _ _) rfl ?_) (by decide)
  exact .field false hcontent (.last (written_flagField _ _) rfl)

lemma response_ofJson {r : Response} (h : r.Regular) :
    Read.response (.ofJson r.toJson) = .ok r.linked := by
  have hcontent := written_mapField "content" h.nodup fun e he => mediaType_ofJson (h.values e he)
  exact record_ofJson (.field false rfl (.last hcontent rfl)) (by decide)

/-! ### Security -/

lemma requirement_ofJson {r : SecurityRequirement} (h : r.keys.Nodup) :
    Read.securityRequirement (.ofJson r.toJson) = .ok r :=
  map_ofJson_self h fun _ _ => list_string_ofJson _

lemma written_security {requirements : List SecurityRequirement}
    (h : ∀ r ∈ requirements, r.keys.Nodup) :
    Written (list Read.securityRequirement) "security" [] requirements
      (listField "security" (requirements.map SecurityRequirement.toJson)) :=
  written_listField_self "security" fun r hr => requirement_ofJson (h r hr)

/-- The fields of a scheme other than its type are kept for later. -/
lemma splitScheme_ofFields {type : Read.SchemeType} {fields : List (String × Json)}
    {others : List (Label × Tree)} (h : ∀ e ∈ fields, e.1 ≠ "type") :
    Read.splitScheme (some type) others (Tree.ofFields fields) =
      .ok (some type, others.reverse ++ Tree.ofFields fields) := by
  induction fields generalizing others with
  | nil => rw [Tree.ofFields, Read.splitScheme, List.append_nil]
  | cons e fields ih =>
    obtain ⟨hname, hfields⟩ := List.forall_mem_cons.mp h
    obtain ⟨json', hjson'⟩ := Tree.exists_toJson_ofJson e.2
    rw [Tree.ofFields, Read.splitScheme, if_neg hname, json, hjson']
    exact (ih hfields).trans (by simp)

lemma securityScheme_ofFields {type : Read.SchemeType} {name : String}
    {fields : List (String × Json)} {scheme : SecurityScheme}
    (htype : Read.SchemeType.ofName? name = some type) (hfields : ∀ e ∈ fields, e.1 ≠ "type")
    (h : Read.schemeOfType type (.ofJson (.object ⟨fields⟩)) = .ok scheme) :
    Read.securityScheme (.ofJson (.object ⟨("type", .string name) :: fields⟩)) = .ok scheme := by
  have hread : Read.schemeType (.ofJson (.string name)) = .ok type := by
    have hname : Reader.string (.ofJson (.string name)) = .ok name := rfl
    rw [Read.schemeType, hname]
    simp only [bind, Except.bind, htype]
  have hsplit : Read.splitScheme none [] (Tree.ofFields (("type", .string name) :: fields)) =
      .ok (some type, Tree.ofFields fields) := by
    rw [Tree.ofFields, Read.splitScheme, if_pos rfl, hread]
    exact splitScheme_ofFields hfields
  rw [Tree.ofJson, Read.securityScheme, hsplit]
  exact h

lemma schemeOfType_apiKey {json : Json} {k : Read.ApiKeyFields}
    (h : Read.apiKeyFields (.ofJson json) = .ok k) :
    Read.schemeOfType .apiKey (.ofJson json) = .ok (.apiKey k.description k.name k.location) := by
  rw [Read.schemeOfType]
  exact kept_ofJson (by rw [h]; rfl)

lemma schemeOfType_http {json : Json} {k : Read.HttpFields}
    (h : Read.httpFields (.ofJson json) = .ok k) :
    Read.schemeOfType .http (.ofJson json) = .ok (.http k.description k.scheme k.bearerFormat) := by
  rw [Read.schemeOfType]
  exact kept_ofJson (by rw [h]; rfl)

lemma forall_mem_textField {name : String} (hname : name ≠ "type") (text : String) :
    ∀ e ∈ textField name text, e.1 ≠ "type" := by
  unfold textField
  split_ifs
  · exact List.forall_mem_nil _
  · exact List.forall_mem_singleton.mpr hname

lemma securityScheme_ofJson (scheme : SecurityScheme) :
    Read.securityScheme (.ofJson scheme.toJson) = .ok scheme := by
  cases scheme with
  | apiKey description name location =>
    have hlocation : oneOf true ApiKeyLocation.ofName? (.ofJson (.string location.name)) =
        .ok location := by
      cases location <;> rfl
    have hread : Read.apiKeyFields (.ofJson (.object ⟨textField "description" description ++
        [("name", .string name), ("in", .string location.name)]⟩)) =
          .ok { description, name, location } := by
      refine record_ofJson (.written (written_textField _ _) rfl ?_) (by decide)
      exact .field true rfl (.field true hlocation (.nil _))
    rw [SecurityScheme.toJson, List.cons_append]
    refine securityScheme_ofFields rfl ?_ (schemeOfType_apiKey hread)
    exact List.forall_mem_append.mpr ⟨forall_mem_textField (by decide) _, by simp⟩
  | http description scheme bearerFormat =>
    have hformat : Written (nullable string) "bearerFormat" none bearerFormat
        (optionField "bearerFormat" (bearerFormat.map .string)) := by
      cases bearerFormat with
      | none => exact .omitted rfl
      | some format => exact .field rfl
    have hread : Read.httpFields (.ofJson (.object ⟨textField "description" description ++
        ("scheme", .string scheme) :: optionField "bearerFormat" (bearerFormat.map .string)⟩)) =
          .ok { description, scheme, bearerFormat } := by
      refine record_ofJson (.written (written_textField _ _) rfl ?_) (by decide)
      exact .field true rfl (.last hformat rfl)
    rw [SecurityScheme.toJson, List.cons_append]
    refine securityScheme_ofFields rfl ?_ (schemeOfType_http hread)
    refine List.forall_mem_append.mpr ⟨forall_mem_textField (by decide) _, ?_⟩
    cases bearerFormat <;> simp [optionField]

/-! ### Operations -/

section Operations

variable {n : Nat}

/-- Every slot of a path is taken back. -/
lemma pathItem_ofJson {read : Reader Operation} {item : PathItem Operation}
    (h : ∀ method o, item.operation? method = some o → read (.ofJson o.toJson) = .ok o.linked) :
    Read.pathItem read (.ofJson (item.toJson Operation.toJson)) =
      .ok (item.map Operation.linked) := by
  have hslot : ∀ method, Written (nullable read) method.key none
      ((item.operation? method).map Operation.linked)
      (optionField method.key ((item.operation? method).map Operation.toJson)) := by
    intro method
    refine written_optionField method.key (fun o _ hnull => ?_) (h method)
    rw [Operation.toJson_eq] at hnull
    cases hnull
  have hnames : (Method.all.map Method.key).Nodup := by decide
  refine record_ofJson ?_ (by rwa [List.map_map])
  refine .written (hslot .get) rfl (.written (hslot .put) rfl (.written (hslot .post) rfl ?_))
  refine .written (hslot .delete) rfl (.written (hslot .options) rfl ?_)
  refine .written (hslot .head) rfl (.written (hslot .patch) rfl (.written (hslot .trace) rfl ?_))
  exact .nil _

lemma depth_lt_of_field (name : String) {value : Json} {fields : List (String × Json)}
    (h : (name, value) ∈ fields) : value.depth < (Json.object ⟨fields⟩).depth :=
  depth_lt_of_mem_fields h

/-- An operation stands two containers deep in a table of paths. -/
lemma depth_lt_of_operation? {paths : Paths} {e : String × PathItem Operation} {method : Method}
    {o : Operation} (he : e ∈ paths.entries) (ho : e.2.operation? method = some o) :
    o.toJson.depth + 1 < (Paths.toJson paths).depth := by
  have hfield : (method.key, o.toJson) ∈ e.2.fields Operation.toJson := by
    refine List.mem_flatMap.mpr ⟨method, by cases method <;> decide, ?_⟩
    rw [ho]
    exact List.mem_singleton.mpr rfl
  have hentry : (e.1, e.2.toJson Operation.toJson) ∈
      mapEntries (PathItem.toJson Operation.toJson) paths := List.mem_map.mpr ⟨e, he, rfl⟩
  rw [Paths.toJson_eq]
  exact Nat.lt_of_le_of_lt (depth_lt_of_field method.key hfield) (depth_lt_of_field e.1 hentry)

/-- What is required of the reader of the operations in callbacks. -/
def TakesBack (read : Reader Operation) (n : Nat) : Prop :=
  ∀ o : Operation, o.Regular → o.toJson.depth ≤ n → read (.ofJson o.toJson) = .ok o.linked

lemma paths_ofJson {read : Reader Operation} (hread : TakesBack read n) {paths : Paths}
    (h : Paths.Regular paths) (hdepth : (Paths.toJson paths).depth ≤ n + 2) :
    map (Read.pathItem read) (.ofJson (Paths.toJson paths)) = .ok (Paths.linked paths) := by
  rw [Paths.toJson_eq, Paths.linked_eq]
  refine map_ofJson h.nodup fun e he => pathItem_ofJson fun method o ho => ?_
  have := depth_lt_of_operation? he ho
  exact hread o ((h.values e he).operation ho) (by omega)

/-- The body of a callback is no reference, even if its only path is called like one. -/
lemma plain_paths (paths : Paths) : Plain (Paths.toJson paths) where
  ne_object r hr := by
    rw [Paths.toJson_eq] at hr
    obtain ⟨_ | ⟨⟨path, item⟩, entries⟩⟩ := paths <;> cases hr
  ne_list s hs := by
    rw [Paths.toJson_eq] at hs
    cases hs

lemma mem_mapField {α : Type} (name : String) (write : α → Json) {m : OrderedMap α}
    {e : String × α} (he : e ∈ m.entries) :
    (name, .object ⟨mapEntries write m⟩) ∈ mapField name (mapEntries write m) := by
  obtain ⟨_ | ⟨e', entries⟩⟩ := m
  · cases he
  · exact List.mem_singleton.mpr rfl

/-- A value of a map that is a field of an object. -/
lemma depth_lt_of_mem_map {α : Type} (name : String) (write : α → Json) {m : OrderedMap α}
    {e : String × α} {fields : List (String × Json)} (he : e ∈ m.entries)
    (h : mapField name (mapEntries write m) ⊆ fields) :
    (write e.2).depth < (Json.object ⟨fields⟩).depth := by
  have hentry : (e.1, write e.2) ∈ mapEntries write m := List.mem_map.mpr ⟨e, he, rfl⟩
  exact Nat.lt_trans (depth_lt_of_field e.1 hentry)
    (depth_lt_of_field name (h (mem_mapField name write he)))

lemma parameters_ofJson {r : RefOr Parameter} (h : r.Each Parameter.Regular) :
    Read.refOr Read.parameter (.ofJson (r.toJson Parameter.toJson)) =
      .ok (r.mapItem Parameter.linked) := by
  refine refOr_ofJson (fun p _ => plain_of_mem List.mem_cons_self (by decide)) ?_
  rintro p rfl
  cases h with
  | item h => exact parameter_ofJson h

lemma requestBodies_ofJson {r : RefOr RequestBody} (h : r.Each RequestBody.Regular) :
    Read.refOr Read.requestBody (.ofJson (r.toJson RequestBody.toJson)) =
      .ok (r.mapItem RequestBody.linked) := by
  refine refOr_ofJson (fun b _ => ?_) ?_
  · have hcontent : ("content", mapJson MediaType.toJson b.content) ∈
        textField "description" b.description ++
          [("content", mapJson MediaType.toJson b.content)] ++ flagField "required" b.required := by
      simp
    exact plain_of_mem hcontent (by decide)
  · rintro b rfl
    cases h with
    | item h => exact requestBody_ofJson h

lemma responses_ofJson {r : RefOr Response} (h : r.Each Response.Regular) :
    Read.refOr Read.response (.ofJson (r.toJson Response.toJson)) =
      .ok (r.mapItem Response.linked) := by
  refine refOr_ofJson (fun r _ => plain_of_mem List.mem_cons_self (by decide)) ?_
  rintro r rfl
  cases h with
  | item h => exact response_ofJson h

lemma nodup_operationFields (callback : Reader Paths) :
    ((Read.operationFields callback).map (·.name)).Nodup := by
  have hnames : ["tags", "summary", "description", "operationId", "parameters", "requestBody",
    "responses", "callbacks", "security"].Nodup := by decide
  exact hnames

lemma written_texts (name : String) (texts : List String) :
    Written (list string) name [] texts (listField name (textList texts)) :=
  written_listField_self name fun _ _ => rfl

/-- Operations nest less deep than containers, so the bound on their depth is never met. -/
lemma takesBack_operation (n : Nat) : TakesBack (Read.operation n) n := by
  induction n with
  | zero =>
    intro o _ hdepth
    rw [Operation.toJson_eq, depth] at hdepth
    omega
  | succ n ih =>
    intro o h hdepth
    rw [Operation.toJson_eq] at hdepth ⊢
    have hcallbacks : ∀ e ∈ o.callbacks.entries,
        Read.refOr (map (Read.pathItem (Read.operation n))) (.ofJson (e.2.toJson Paths.toJson)) =
          .ok (e.2.mapItem Paths.linked) := by
      intro e he
      refine refOr_ofJson (fun paths _ => plain_paths paths) fun paths hpaths => ?_
      have hregular := h.callbacks.values e he
      have hlt := Nat.lt_of_lt_of_le (depth_lt_of_mem_map "callbacks" (RefOr.toJson Paths.toJson) he
        fun field hfield => by simp [hfield]) hdepth
      rw [hpaths] at hregular hlt
      cases hregular with
      | item hregular => exact paths_ofJson ih hregular (by simp only [RefOr.toJson] at hlt; omega)
    have hparameters := written_listField "parameters" fun p hp =>
      parameters_ofJson (h.parameters p hp)
    have hbody : Written (nullable (Read.refOr Read.requestBody)) "requestBody" none
        (o.requestBody.map (RefOr.mapItem RequestBody.linked))
        (optionField "requestBody" (o.requestBody.map (RefOr.toJson RequestBody.toJson))) :=
      written_optionField _ (fun b _ => refOr_toJson_ne_null fun _ h => by cases h)
        fun b hb => requestBodies_ofJson (h.requestBody b hb)
    have hresponses := map_ofJson h.responses.nodup fun e he =>
      responses_ofJson (h.responses.values e he)
    rw [Operation.linked_eq]
    simp only [List.append_assoc, List.cons_append, List.nil_append]
    refine record_ofJson (.written (written_texts _ _) rfl ?_) (nodup_operationFields _)
    refine .written (written_textField _ _) rfl (.written (written_textField _ _) rfl ?_)
    refine .written (written_textField _ _) rfl (.written hparameters rfl (.written hbody rfl ?_))
    refine .field false hresponses ?_
    exact .written (written_mapField _ h.callbacks.nodup hcallbacks) rfl
      (.last (written_security h.security) rfl)

end Operations

/-! ### Documents -/

lemma serverVariable_ofJson (v : ServerVariable) :
    Read.serverVariable (.ofJson v.toJson) = .ok v := by
  refine record_ofJson (.written (written_texts _ _) rfl (.field true rfl ?_)) (by decide)
  exact .last (written_textField _ _) rfl

lemma server_ofJson {s : Server} (h : s.placeholders.keys.Nodup) :
    Read.server (.ofJson s.toJson) = .ok s := by
  have hvariables := written_mapField_self "variables" h fun e _ => serverVariable_ofJson e.2
  refine record_ofJson (.field true rfl ?_) (by decide)
  exact .written (written_textField _ _) rfl (.last hvariables rfl)

lemma tag_ofJson (t : Tag) : Read.tag (.ofJson t.toJson) = .ok t :=
  record_ofJson (.field true rfl (.last (written_textField _ _) rfl)) (by decide)

lemma info_ofJson (i : Info) : Read.info (.ofJson i.toJson) = .ok i := by
  refine record_ofJson (.field false rfl ?_) (by decide)
  exact .written (written_textField _ _) rfl (.last (written_textField _ _) rfl)

/-- Every table of paths in the document is nested in it. -/
lemma callback_depth_le {c : Components} {e : String × Paths} (he : e ∈ c.callbacks.entries) :
    (Paths.toJson e.2).depth ≤ c.toJson.depth :=
  Nat.le_of_lt <| depth_lt_of_mem_map "callbacks" Paths.toJson he fun field hfield => by
    simp [hfield]

lemma components_ofJson {c : Components} (h : c.Regular)
    (hdepth : c.toJson.depth ≤ nestingLimit) :
    Read.components (.ofJson c.toJson) = .ok c.linked := by
  have hschemas : Written (map json) "schemas" {} c.schemas
      (mapField "schemas" (mapEntries id c.schemas)) :=
    written_mapField_self _ h.schemas.nodup fun e he => json_ofJson (h.schemas.values e he)
  have hparameters := written_mapField "parameters" h.parameters.nodup
    fun e he => parameter_ofJson (h.parameters.values e he)
  have hbodies := written_mapField "requestBodies" h.requestBodies.nodup
    fun e he => requestBody_ofJson (h.requestBodies.values e he)
  have hresponses := written_mapField "responses" h.responses.nodup
    fun e he => response_ofJson (h.responses.values e he)
  have hschemes := written_mapField_self "securitySchemes" h.securitySchemes
    fun e _ => securityScheme_ofJson e.2
  have hcallbacks : Written (map Read.paths) "callbacks" {}
      (c.callbacks.mapValues Paths.linked)
      (mapField "callbacks" (mapEntries Paths.toJson c.callbacks)) := by
    refine written_mapField "callbacks" h.callbacks.nodup fun e he => ?_
    have := callback_depth_le he
    exact paths_ofJson (takesBack_operation nestingLimit) (h.callbacks.values e he) (by omega)
  simp only [Components.toJson, List.append_assoc]
  refine record_ofJson (.written hschemas rfl (.written hparameters rfl ?_)) (by decide)
  refine .written hbodies rfl (.written hresponses rfl (.written hschemes rfl ?_))
  exact .last hcallbacks rfl

lemma Components.linked_eq_empty {c : Components} (h : c.isEmpty) : c.linked = {} := by
  obtain ⟨⟨schemas⟩, ⟨parameters⟩, ⟨requestBodies⟩, ⟨responses⟩, ⟨securitySchemes⟩,
    ⟨callbacks⟩⟩ := c
  simp only [isEmpty, OrderedMap.isEmpty, Bool.and_eq_true, List.isEmpty_iff] at h
  obtain ⟨⟨⟨⟨⟨rfl, rfl⟩, rfl⟩, rfl⟩, rfl⟩, rfl⟩ := h
  rfl

/-- The reader takes a regular document back as its linked form. -/
lemma document_ofJson {doc : Document} (h : doc.Regular)
    (hdepth : doc.toJson.depth ≤ nestingLimit) :
    Read.document (.ofJson doc.toJson) = .ok doc.linked := by
  have hservers := written_listField_self "servers" fun s hs => server_ofJson (h.servers s hs)
  have hpaths : Read.paths (.ofJson (Paths.toJson doc.paths)) = .ok (Paths.linked doc.paths) := by
    have hlt : (Paths.toJson doc.paths).depth < doc.toJson.depth :=
      depth_lt_of_field "paths" (by simp)
    exact paths_ofJson (takesBack_operation nestingLimit) h.paths (by omega)
  have hcomponents : Written Read.components "components" {} doc.components.linked
      (if doc.components.isEmpty then [] else [("components", doc.components.toJson)]) := by
    split_ifs with hempty
    · exact .omitted (Components.linked_eq_empty hempty)
    · have hlt : doc.components.toJson.depth < doc.toJson.depth :=
        depth_lt_of_field "components" (by simp [hempty])
      exact .field (components_ofJson h.components (by omega))
  simp only [Document.toJson, List.append_assoc, List.cons_append, List.nil_append]
  refine record_ofJson (.field true rfl (.field true (info_ofJson _) ?_)) (by decide)
  refine .written hservers rfl (.field false hpaths (.written hcomponents rfl ?_))
  refine .written (written_security h.security) rfl (.last ?_ rfl)
  exact written_listField_self _ fun t _ => tag_ofJson t

/-- Writing and reading a regular document gives its linked form. -/
lemma Document.parse_compact {doc : Document} (h : doc.Regular) (hnumbers : doc.toJson.Integral)
    (hdepth : doc.toJson.depth ≤ nestingLimit) :
    Document.parse doc.toJson.compact = .ok doc.linked := by
  rw [Document.parse, Reader.ofText, ofText_compact hnumbers hdepth]
  exact congrArg (· >>= endOf none) (document_ofJson h hdepth)

/-- So it does with text over several lines. -/
lemma Document.parse_pretty {doc : Document} (h : doc.Regular) (hnumbers : doc.toJson.Integral)
    (hdepth : doc.toJson.depth ≤ nestingLimit) :
    Document.parse doc.toJson.pretty = .ok doc.linked := by
  rw [Document.parse, Reader.ofText, ofText_pretty hnumbers hdepth]
  exact congrArg (· >>= endOf none) (document_ofJson h hdepth)

end ApiScribe.OpenApi
