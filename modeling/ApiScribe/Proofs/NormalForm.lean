import ApiScribe.Proofs.RoundTrip

/-!
# Normal form of documents

Whatever a text says, the document that is read from it is regular: maps lose repeated keys, and a
schema is kept as a value only if it is neither `null` nor the list that stands for a reference. So
the text that is written from it is read and written again without change.
-/

namespace ApiScribe.OpenApi

open Json Json.Reader

/-! ### Schemas and references -/

/-- A value that is no container is read off one tree only. -/
lemma eq_ofJson_of_toJson {tree : Tree} {json : Json} (hjson : json.depth = 0)
    (h : tree.toJson = .ok json) : tree = .ofJson json := by
  cases tree with
  | null | bool | number | string => cases h; rfl
  | array trees stop =>
    rw [Tree.toJson] at h
    obtain ⟨items, -, h⟩ := exists_of_bind_eq_ok h
    cases stop with
    | none => cases h; rw [depth] at hjson; omega
    | some fault => cases h
  | object fields stop =>
    rw [Tree.toJson] at h
    obtain ⟨values, -, h⟩ := exists_of_bind_eq_ok h
    cases stop with
    | none => cases h; rw [depth] at hjson; omega
    | some fault => cases h
  | broken | guarded => cases h

/-- The list that stands for a reference is always read as one. -/
lemma reference_of_toJson {tree : Tree} {s : String}
    (h : tree.toJson = .ok (.array [.string s])) : Read.reference tree = .ok { target := s } := by
  cases tree with
  | array trees stop =>
    rw [Tree.toJson] at h
    obtain ⟨items, hitems, h⟩ := exists_of_bind_eq_ok h
    cases stop with
    | some fault => cases h
    | none =>
      cases h
      match trees, hitems with
      | [tree], hitems =>
        obtain ⟨item, hitem, hitems⟩ := exists_of_bind_eq_ok hitems
        cases hitems
        rw [eq_ofJson_of_toJson rfl hitem]
        rfl
      | tree :: tree' :: trees, hitems =>
        obtain ⟨item, -, hitems⟩ := exists_of_bind_eq_ok hitems
        obtain ⟨items, hrest, hitems⟩ := exists_of_bind_eq_ok hitems
        obtain ⟨item', -, hrest⟩ := exists_of_bind_eq_ok hrest
        obtain ⟨items', -, hrest⟩ := exists_of_bind_eq_ok hrest
        cases hrest
        cases hitems
  | object fields stop =>
    rw [Tree.toJson] at h
    obtain ⟨values, -, h⟩ := exists_of_bind_eq_ok h
    cases stop <;> cases h
  | _ => cases h

/-- What is not read as a reference is read as the object itself. -/
lemma refOr_eq_ok {α : Type} {read : Reader α} {tree : Tree} {value : RefOr α}
    (h : Read.refOr read tree = .ok value) :
    (∃ r, value = .ref r) ∨
      ∃ v error, value = .item v ∧ read tree = .ok v ∧ Read.reference tree = .error error := by
  obtain ⟨-, -, h⟩ := exists_of_bind_eq_ok h
  cases hreference : Read.reference tree with
  | ok r =>
    simp only [orElse, hreference, Except.map] at h
    cases h
    exact .inl ⟨r, rfl⟩
  | error error =>
    cases hread : read tree with
    | ok v =>
      simp only [orElse, hreference, hread, Except.map] at h
      cases h
      exact .inr ⟨v, error, rfl, rfl, rfl⟩
    | error error' =>
      simp only [orElse, hreference, hread, Except.map] at h
      cases h

lemma yields_refOr {α : Type} {P : α → Prop} {read : Reader α} (h : Yields P read) :
    Yields (RefOr.Each P) (Read.refOr read) := by
  intro tree value hvalue
  obtain ⟨r, rfl⟩ | ⟨v, error, rfl, hread, -⟩ := refOr_eq_ok hvalue
  · exact .ref r
  · exact .item (h tree v hread)

/-- In a schema slot `null` means that there is no schema. -/
lemma yields_slot :
    Yields (fun schema : Option Schema => ∀ s ∈ schema, s.Each RegularSchema)
      (nullable Read.schema) := by
  intro tree value hvalue
  unfold nullable at hvalue
  split at hvalue
  next =>
    cases hvalue
    rintro _ ⟨⟩
  next hnull =>
    obtain ⟨schema, hschema, rfl⟩ := exists_of_map_eq_ok hvalue
    rintro _ ⟨⟩
    obtain ⟨r, rfl⟩ | ⟨value, error, rfl, hread, hreference⟩ := refOr_eq_ok hschema
    · exact .ref r
    · have hvalue := toJson_of_json hread
      refine .item ⟨yields_json tree value hread, ?_, ?_⟩
      · rintro rfl
        exact hnull (eq_ofJson_of_toJson rfl hvalue)
      · rintro s rfl
        rw [reference_of_toJson hvalue] at hreference
        cases hreference

/-! ### Parts -/

lemma yields_sample : Yields Example.Regular Read.sample := by
  refine yields_record false .null ?_
  simp only [List.forall_mem_cons]
  exact ⟨keeps_any fun _ _ h => h, keeps_any fun _ _ h => h,
    keeps_field yields_json fun _ _ hv _ => hv, List.forall_mem_nil _⟩

lemma yields_parameter : Yields Parameter.Regular Read.parameter := by
  refine yields_record false ⟨fun _ h => (by cases h), .empty⟩ ?_
  simp only [List.forall_mem_cons]
  exact ⟨keeps_any fun _ _ h => ⟨h.schema, h.examples⟩,
    keeps_any fun _ _ h => ⟨h.schema, h.examples⟩, keeps_any fun _ _ h => ⟨h.schema, h.examples⟩,
    keeps_any fun _ _ h => ⟨h.schema, h.examples⟩,
    keeps_field yields_slot fun _ _ hv h => ⟨hv, h.examples⟩,
    keeps_field (yields_map yields_sample) fun _ _ hv h => ⟨h.schema, hv⟩, List.forall_mem_nil _⟩

lemma yields_mediaType : Yields MediaType.Regular Read.mediaType := by
  refine yields_record false ⟨fun _ h => (by cases h), .empty⟩ ?_
  simp only [List.forall_mem_cons]
  exact ⟨keeps_field yields_slot fun _ _ hv h => ⟨hv, h.examples⟩,
    keeps_field (yields_map yields_sample) fun _ _ hv h => ⟨h.schema, hv⟩, List.forall_mem_nil _⟩

lemma yields_requestBody : Yields RequestBody.Regular Read.requestBody := by
  refine yields_record false .empty ?_
  simp only [List.forall_mem_cons]
  exact ⟨keeps_any fun _ _ h => h, keeps_field (yields_map yields_mediaType) fun _ _ hv _ => hv,
    keeps_any fun _ _ h => h, List.forall_mem_nil _⟩

lemma yields_response : Yields Response.Regular Read.response := by
  refine yields_record false .empty ?_
  simp only [List.forall_mem_cons]
  exact ⟨keeps_any fun _ _ h => h, keeps_field (yields_map yields_mediaType) fun _ _ hv _ => hv,
    List.forall_mem_nil _⟩

lemma yields_keys {α : Type} (read : Reader α) :
    Yields (fun m : OrderedMap α => m.keys.Nodup) (map read) :=
  fun tree m hm => (yields_map (yields_any read) tree m hm).nodup

/-! ### Operations -/

lemma yields_pathItem {read : Reader Operation} (h : Yields Operation.Regular read) :
    Yields (PathItem.Each Operation.Regular) (Read.pathItem read) := by
  refine yields_record false .empty (List.forall_mem_map.mpr fun method _ => ?_)
  exact keeps_field (yields_nullable h) fun _ _ hslot hitem => hitem.setSlot hslot method

lemma yields_operation (n : Nat) : Yields Operation.Regular (Read.operation n) := by
  induction n with
  | zero => exact fun _ _ h => by cases h
  | succ n ih =>
    have hcallbacks := yields_map (yields_refOr (yields_map (yields_pathItem ih)))
    refine yields_record false (.of_summary "" "") ?_
    simp only [Read.operationFields, List.forall_mem_cons]
    refine ⟨?_, ?_, ?_, ?_, ?_, ?_, ?_, ?_, ?_, List.forall_mem_nil _⟩
    · exact keeps_any fun _ _ h => h.withTexts _ _ _ _
    · exact keeps_any fun _ _ h => h.withTexts _ _ _ _
    · exact keeps_any fun _ _ h => h.withTexts _ _ _ _
    · exact keeps_any fun _ _ h => h.withTexts _ _ _ _
    · exact keeps_field (yields_list (yields_refOr yields_parameter)) fun _ _ hv h =>
        h.withParameters hv
    · exact keeps_field (yields_nullable (yields_refOr yields_requestBody)) fun _ _ hv h =>
        h.withRequestBody hv
    · exact keeps_field (yields_map (yields_refOr yields_response)) fun _ _ hv h =>
        h.withResponses hv
    · exact keeps_field hcallbacks fun _ _ hv h => h.withCallbacks hv
    · exact keeps_field (yields_list (yields_keys _)) fun _ _ hv h => h.withSecurity hv

lemma yields_paths : Yields Paths.Regular Read.paths :=
  yields_map (yields_pathItem (yields_operation nestingLimit))

/-! ### Documents -/

lemma yields_server : Yields (fun s : Server => s.placeholders.keys.Nodup) Read.server := by
  refine yields_record false List.nodup_nil ?_
  simp only [List.forall_mem_cons]
  exact ⟨keeps_any fun _ _ h => h, keeps_any fun _ _ h => h,
    keeps_field (yields_keys _) fun _ _ hv _ => hv, List.forall_mem_nil _⟩

lemma yields_components : Yields Components.Regular Read.components := by
  refine yields_record false .empty ?_
  simp only [List.forall_mem_cons]
  refine ⟨?_, ?_, ?_, ?_, ?_, ?_, List.forall_mem_nil _⟩
  · exact keeps_field (yields_map yields_json) fun _ _ hv h => { h with schemas := hv }
  · exact keeps_field (yields_map yields_parameter) fun _ _ hv h => { h with parameters := hv }
  · exact keeps_field (yields_map yields_requestBody) fun _ _ hv h => { h with requestBodies := hv }
  · exact keeps_field (yields_map yields_response) fun _ _ hv h => { h with responses := hv }
  · exact keeps_field (yields_keys _) fun _ _ hv h => { h with securitySchemes := hv }
  · exact keeps_field (yields_map yields_paths) fun _ _ hv h => { h with callbacks := hv }

lemma yields_document : Yields Document.Regular Read.document := by
  refine yields_record false { Document.Regular.empty with } ?_
  simp only [List.forall_mem_cons]
  refine ⟨?_, ?_, ?_, ?_, ?_, ?_, ?_, List.forall_mem_nil _⟩
  · exact keeps_any fun _ _ h => { h with }
  · exact keeps_any fun _ _ h => { h with }
  · exact keeps_field (yields_list yields_server) fun _ _ hv h => { h with servers := hv }
  · exact keeps_field yields_paths fun _ _ hv h => { h with paths := hv }
  · exact keeps_field yields_components fun _ _ hv h => { h with components := hv }
  · exact keeps_field (yields_list (yields_keys _)) fun _ _ hv h => { h with security := hv }
  · exact keeps_any fun _ _ h => { h with }

lemma Document.regular_of_parse {text : String} {doc : Document}
    (h : Document.parse text = .ok doc) : doc.Regular := by
  obtain ⟨doc', hread, h⟩ := exists_of_bind_eq_ok h
  obtain rfl := endOf_eq_ok h
  exact yields_document _ _ hread

/-- The text that is written from a document that has been read is a normal form: it is read again,
and what is read from it is written as the same text. Numbers stand in schemas and examples only. -/
theorem parse_compact_of_parse {text : String} {doc : Document}
    (h : Document.parse text = .ok doc) (hnumbers : doc.toJson.Integral)
    (hdepth : doc.toJson.depth ≤ nestingLimit) :
    ∃ doc', Document.parse doc.toJson.compact = .ok doc' ∧
      doc'.toJson.compact = doc.toJson.compact := by
  refine ⟨doc.linked, Document.parse_compact (Document.regular_of_parse h) hnumbers hdepth, ?_⟩
  rw [Document.toJson_linked]

/-- Lists for objects and for a reference, an unknown field, no operation in a slot, and a schema
that names its only field twice. -/
def untidy : String :=
  "[\"3.0.0\", \x7b\"title\": \"T\", \"x\": 1.5\x7d, [], \x7b\"/a\": [null, [[], \"s\", \"\", \"\",
    [[\"#/p\"], [\"q\", \"query\", \"\", false, \x7b\"$ref\": \"y\", \"$ref\": \"z\"\x7d]]]]\x7d]"

/-- The text with lists for objects is read, and what is written of it stays as it is. -/
theorem parse_compact_of_parse_untidy :
    ∃ doc, Document.parse untidy = .ok doc ∧ doc.toJson.Integral ∧
      doc.toJson.depth ≤ nestingLimit ∧
      ∃ doc', Document.parse doc.toJson.compact = .ok doc' ∧
        doc'.toJson.compact = doc.toJson.compact := by
  have hread : (match Document.parse untidy with
    | .ok doc => decide (doc.toJson.Integral ∧ doc.toJson.depth ≤ nestingLimit)
    | .error _ => false) = true := by
    decide +kernel
  split at hread
  next doc hdoc =>
    obtain ⟨hnumbers, hdepth⟩ := of_decide_eq_true hread
    exact ⟨doc, hdoc, hnumbers, hdepth, parse_compact_of_parse hdoc hnumbers hdepth⟩
  next => cases hread

end ApiScribe.OpenApi
