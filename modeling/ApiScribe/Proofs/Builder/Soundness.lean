import ApiScribe.Builder.Declaration
import ApiScribe.Proofs.Builder.Arguments
import ApiScribe.Proofs.Builder.Rules
import ApiScribe.Proofs.Builder.Steps
import ApiScribe.Proofs.Soundness

/-!
# Soundness of what annotations describe

No annotation makes a sound document unsound, so every document that is built from declarations is
sound.
-/

namespace ApiScribe.Builder

open OpenApi Text

variable {value : Option String} {s s' : State} {a : Annotation} {outcome : Outcome}

/-! ### Parts -/

lemma sound_readSchema {argument body : String} {schema : Schema} {id? : Option String}
    (h : readSchema value argument body = .ok (schema, id?)) :
    schema.Sound .schemas SoundSchema := by
  unfold readSchema at h
  split at h
  next id href =>
    cases h
    exact RefOr.sound_component _ (Argument.bare_of_reference? href)
  next =>
    dsimp only at h
    split_ifs at h
    obtain ⟨⟨fields, id⟩, hdecode, h⟩ := exists_of_bind_eq_ok h
    cases h
    unfold decodeSchema at hdecode
    split at hdecode
    · cases hdecode
    · obtain ⟨id', -, hdecode⟩ := exists_of_bind_eq_ok hdecode
      cases hdecode
      exact .item ⟨_, rfl, OrderedMap.notMem_keys_erase _ _⟩

lemma not_isUpper_toLower (c : Char) : ¬c.toLower.isUpper := by
  delta Char.toLower Char.isUpper
  simp only [decide_eq_true_eq, not_and, ge_iff_le]
  split_ifs with h
  · intro _
    obtain ⟨hlow, hhigh⟩ := h
    simp only [UInt32.le_iff_toNat_le, UInt32.toNat_add, Char.reduceVal, UInt32.reduceToNat,
      UInt32.reduceSub] at hlow hhigh ⊢
    omega
  · exact fun hlow hhigh => h ⟨hlow, hhigh⟩

lemma sound_httpScheme (description : String) {scheme : String} {rest : List String}
    {format : Option String}
    (h : bearerFormat (.ofList (scheme.toList.map Char.toLower)) rest = .ok format) :
    (SecurityScheme.http description (.ofList (scheme.toList.map Char.toLower)) format).Sound := by
  refine ⟨?_, isSome_of_bearerFormat h⟩
  intro c hc
  rw [String.toList_ofList] at hc
  obtain ⟨d, -, rfl⟩ := List.mem_map.mp hc
  exact not_isUpper_toLower d

lemma sound_requirement (name : String) (scopes : List String) :
    SecurityRequirement.Sound ⟨[(name, scopes)]⟩ :=
  ⟨name, rfl⟩

lemma sound_requestBody (description : String) : RequestBody.Sound { description } :=
  fun _ h => by cases h

lemma sound_response (description : String) : Response.Sound { description } :=
  fun _ h => by cases h

/-! ### Annotations -/

lemma Amendment.sound {place : OperationPlace} {f : Operation → Operation} {pass : Pass}
    (h : Amendment s a place f pass outcome) : ∀ o : Operation, o.Sound → (f o).Sound := by
  intro o ho
  cases h with
  | tag => exact ho.withTags _
  | security => exact ho.addSecurity (sound_requirement _ _)
  | parameterReference _ href =>
    exact ho.addParameter (RefOr.sound_component _ (Argument.bare_of_reference? href))
  | parameter => exact ho.addParameter (.item (Parameter.sound_declare _ _ _))
  | requestBodyReference _ href =>
    exact ho.setRequestBody (RefOr.sound_component _ (Argument.bare_of_reference? href))
  | requestBody => exact ho.setRequestBody (.item (sound_requestBody _))
  | responseReference _ hkeyed =>
    obtain ⟨hstatus, hid⟩ := bare_of_keyed hkeyed
    exact ho.insertResponse hstatus (RefOr.sound_component _ (hid _ rfl))
  | response _ hkeyed =>
    exact ho.insertResponse (bare_of_keyed hkeyed).1 (.item (sound_response _))
  | callbackReference _ hkeyed =>
    exact ho.insertCallback _ (RefOr.sound_component _ ((bare_of_keyed hkeyed).2 _ rfl))
  | callback => exact ho.insertCallback _ (.item .empty)

lemma sound_registerParameter {doc : Document} (h : doc.Sound) {id : String} (hid : id ≠ "")
    {parameter : Parameter} (hp : parameter.Sound) : (registerParameter doc id parameter).Sound :=
  { h with parameters := OrderedMap.forall_entries_insert h.parameters ⟨hid, hp⟩ }

lemma Rule.sound (h : Rule value s a s' outcome) (hs : s.doc.Sound) : s'.doc.Sound := by
  cases h with
  | id | api | version | server | serverVariable | tag | failed | keyless => exact { hs with }
  | @security name scopes =>
    have hsecurity := List.forall_mem_append.mpr
      ⟨hs.security, List.forall_mem_singleton.mpr (sound_requirement name scopes)⟩
    exact { hs with security := hsecurity }
  | @apiKeyScheme name field location _ hheader =>
    have hscheme : (SecurityScheme.apiKey a.bodyText field location).Sound := trivial
    have hschemes := OrderedMap.forall_entries_insert hs.securitySchemes
      ⟨ne_empty_of_apiKeyHeader hheader, hscheme⟩
    exact { hs with securitySchemes := hschemes }
  | @httpScheme name scheme rest format _ hwords hformat =>
    have hname : name ∈ words a.argument := by rw [hwords]; exact List.mem_cons_self
    have hschemes := OrderedMap.forall_entries_insert hs.securitySchemes
      ⟨(bare_of_mem_words hname).ne_empty, sound_httpScheme a.bodyText hformat⟩
    exact { hs with securitySchemes := hschemes }
  | operation _ hheader =>
    exact hs.modifyPaths _ fun _ hpaths =>
      hpaths.setOperation (bare_of_operationHeader hheader) (.of_summary _ _)
  | amend _ _ h => exact hs.modifyOperation _ h.sound
  | @namedParameter name location id place? _ _ hheader =>
    have hid := bare_of_parameterHeader hheader
    have hregistered := sound_registerParameter hs hid.ne_empty
      (Parameter.sound_declare name location a.bodyText)
    cases place? with
    | none => exact hregistered
    | some place =>
      exact hregistered.modifyOperation place fun _ ho =>
        ho.addParameter (RefOr.sound_component _ hid)
  | parameter _ _ _ _ hid =>
    exact sound_registerParameter hs (Pass.ne_empty_of_takeId hid) (Parameter.sound_declare _ _ _)
  | requestBody _ _ _ hid =>
    have hbodies := OrderedMap.forall_entries_insert hs.requestBodies
      ⟨Pass.ne_empty_of_takeId hid, sound_requestBody a.bodyText⟩
    exact { hs with requestBodies := hbodies }
  | response _ _ hid =>
    have hresponses := OrderedMap.forall_entries_insert hs.responses
      ⟨Pass.ne_empty_of_takeId hid, sound_response a.bodyText⟩
    exact { hs with responses := hresponses }
  | callback _ _ hid =>
    have hcallbacks := OrderedMap.forall_entries_insert hs.callbacks
      ⟨Pass.ne_empty_of_takeId hid, .empty⟩
    exact { hs with callbacks := hcallbacks }
  | attachSchema _ hread => exact hs.setSchema (sound_readSchema hread) _
  | schema _ hread _ hid =>
    cases sound_readSchema hread with
    | item hschema =>
      have hschemas := OrderedMap.forall_entries_insert hs.schemas ⟨hid, hschema⟩
      exact { hs with schemas := hschemas }
  | jsonExample => exact hs.setExample _ _ _
  | unreferred _ _ hheader =>
    exact sound_registerParameter hs (bare_of_parameterHeader hheader).ne_empty
      (Parameter.sound_declare _ _ _)

/-! ### Declarations -/

lemma addTo_sound {doc : Document} (d : Declaration) (h : doc.Sound) : (d.addTo doc).1.Sound := by
  have hstart : (State.start doc d.name).doc.Sound := h
  rw [Declaration.addTo]
  exact runPass_preserves Rule.sound hstart

lemma addAll_sound {doc : Document} (declarations : List Declaration) (h : doc.Sound) :
    (addAll doc declarations).1.Sound := by
  induction declarations generalizing doc with
  | nil => exact h
  | cons d rest ih =>
    rw [addAll]
    exact ih (addTo_sound d h)

/-- Every document that is built from declarations is sound. -/
theorem build_sound (declarations : List Declaration) : (build declarations).1.Sound :=
  addAll_sound declarations .empty

end ApiScribe.Builder
