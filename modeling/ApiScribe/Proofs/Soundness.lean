import ApiScribe.Proofs.Builder.Places
import ApiScribe.Proofs.Text.Words

/-!
# Sound documents

What can be relied on in a document that annotations describe, for the document as a whole and for
every object in it, however deep in callbacks.
-/

namespace ApiScribe.OpenApi

open Text

/-! ### References and schemas -/

/-- The reference is one to a component of the kind. -/
def Reference.PointsTo (kind : ComponentKind) (r : Reference) : Prop :=
  ∃ id, Bare id ∧ r.target = "#/components/" ++ kind.name ++ "/" ++ id

/-- An object written in place is as it should be, and a reference points to an object of the kind.
-/
inductive RefOr.Sound {α : Type} (kind : ComponentKind) (P : α → Prop) : RefOr α → Prop
  | ref {r : Reference} (h : r.PointsTo kind) : Sound kind P (.ref r)
  | item {v : α} (h : P v) : Sound kind P (.item v)

/-- A schema written in place is an object, and its ID is not part of it. -/
def SoundSchema (json : Json) : Prop := ∃ fields, json = .object fields ∧ "$id" ∉ fields.keys

/-! ### Parameters and bodies -/

structure Parameter.Sound (p : Parameter) : Prop where
  required : p.required = true ↔ p.location = .path
  schema : ∀ s ∈ p.schema, s.Sound .schemas SoundSchema

structure MediaType.Sound (m : MediaType) : Prop where
  described : m.schema.isSome ∨ m.examples.entries ≠ []
  schema : ∀ s ∈ m.schema, s.Sound .schemas SoundSchema

/-- Bodies are described as JSON only. -/
def Content.Sound (content : Content) : Prop :=
  ∀ e ∈ content.entries, e.1 = "application/json" ∧ e.2.Sound

def RequestBody.Sound (b : RequestBody) : Prop := b.content.Sound

def Response.Sound (r : Response) : Prop := r.content.Sound

/-! ### Security -/

/-- A requirement names exactly one scheme. -/
def SecurityRequirement.Sound (r : SecurityRequirement) : Prop := ∃ name, r.keys = [name]

def SecurityScheme.Sound : SecurityScheme → Prop
  | .apiKey _ _ _ => True
  | .http _ scheme bearerFormat =>
    (∀ c ∈ scheme.toList, ¬c.isUpper) ∧ (bearerFormat.isSome ↔ scheme = "bearer")

/-! ### Operations -/

/-- No path is without operations, and all operations are as they should be. -/
inductive PathTable.Sound {ω : Type} (P : ω → Prop) : PathTable ω → Prop
  | intro {entries : List (String × PathItem ω)} (keys : ∀ e ∈ entries, Bare e.1)
    (nonempty : ∀ e ∈ entries, ∃ method, (e.2.operation? method).isSome)
    (operations : ∀ e ∈ entries, ∀ method o, e.2.operation? method = some o → P o) :
    Sound P ⟨entries⟩

/-- An operation is sound together with the operations in its callbacks. -/
inductive Operation.Sound : Operation → Prop
  | intro {o : Operation}
    (parameters : ∀ p ∈ o.parameters, p.Sound .parameters Parameter.Sound)
    (requestBody : ∀ b ∈ o.requestBody, b.Sound .requestBodies RequestBody.Sound)
    (statuses : ∀ e ∈ o.responses.entries, Bare e.1)
    (responses : ∀ e ∈ o.responses.entries, e.2.Sound .responses Response.Sound)
    (callbacks : ∀ e ∈ o.callbacks.entries,
      RefOr.Sound .callbacks (PathTable.Sound Operation.Sound) e.2)
    (security : ∀ r ∈ o.security, r.Sound) : Sound o

/-! ### Documents -/

structure Document.Sound (doc : Document) : Prop where
  paths : doc.paths.Sound Operation.Sound
  schemas : ∀ e ∈ doc.components.schemas.entries, e.1 ≠ "" ∧ SoundSchema e.2
  parameters : ∀ e ∈ doc.components.parameters.entries, e.1 ≠ "" ∧ e.2.Sound
  requestBodies : ∀ e ∈ doc.components.requestBodies.entries, e.1 ≠ "" ∧ e.2.Sound
  responses : ∀ e ∈ doc.components.responses.entries, e.1 ≠ "" ∧ e.2.Sound
  securitySchemes : ∀ e ∈ doc.components.securitySchemes.entries, e.1 ≠ "" ∧ e.2.Sound
  callbacks : ∀ e ∈ doc.components.callbacks.entries,
    e.1 ≠ "" ∧ PathTable.Sound Operation.Sound e.2
  security : ∀ r ∈ doc.security, r.Sound

/-! ### Changes of bodies -/

lemma RefOr.sound_component {α : Type} {P : α → Prop} {id : String} (kind : ComponentKind)
    (h : Bare id) : (RefOr.ref (.component kind id)).Sound kind P :=
  .ref ⟨id, h, rfl⟩

lemma RefOr.Sound.mapItem {α : Type} {kind : ComponentKind} {P : α → Prop} {r : RefOr α}
    {f : α → α} (h : r.Sound kind P) (hf : ∀ v, P v → P (f v)) : (r.mapItem f).Sound kind P := by
  cases h with
  | ref h => exact .ref h
  | item h => exact .item (hf _ h)

lemma Parameter.sound_declare (name : String) (location : ParameterLocation)
    (description : String) : (declare name location description).Sound where
  required := decide_eq_true_iff
  schema _ h := by cases h

/-- The JSON media type may be new, so it need not have been described before. -/
lemma Content.Sound.modifyJson {content : Content} {f : MediaType → MediaType}
    (h : content.Sound) (hf : ∀ m : MediaType, (∀ s ∈ m.schema, s.Sound .schemas SoundSchema) →
      (f m).Sound) : (content.modifyJson f).Sound := by
  refine OrderedMap.forall_entries_insert h ⟨rfl, hf _ ?_⟩
  cases hjson : OrderedMap.get? content jsonMediaType with
  | none => exact fun _ h => by cases h
  | some m => exact (h _ (OrderedMap.mem_entries_of_get? hjson)).2.schema

lemma MediaType.sound_setSchema {m : MediaType} {schema : Schema}
    (h : schema.Sound .schemas SoundSchema) :
    { m with schema := some schema : MediaType }.Sound where
  described := .inl rfl
  schema s hs := by cases hs; exact h

lemma MediaType.sound_setExample {m : MediaType} (name : String) (sample : Example)
    (h : ∀ s ∈ m.schema, s.Sound .schemas SoundSchema) :
    { m with examples := m.examples.insert name sample : MediaType }.Sound where
  described := .inr fun hnil => by
    have hmem := OrderedMap.mem_entries_of_get? (m.examples.get?_insert_self name sample)
    rw [hnil] at hmem
    cases hmem
  schema := h

/-! ### Changes of path tables -/

namespace PathTable

variable {ω : Type} {P : ω → Prop} {paths : PathTable ω} {path : String} {method : Method}

lemma sound_iff : paths.Sound P ↔ ∀ e ∈ paths.entries, Bare e.1 ∧
    (∃ method, (e.2.operation? method).isSome) ∧
      ∀ method o, e.2.operation? method = some o → P o := by
  constructor
  · rintro ⟨keys, nonempty, operations⟩ e he
    exact ⟨keys e he, nonempty e he, operations e he⟩
  · intro h
    exact .intro (fun e he => (h e he).1) (fun e he => (h e he).2.1) fun e he => (h e he).2.2

lemma Sound.empty : Sound P {} := sound_iff.mpr fun _ h => by cases h

lemma Sound.operation {o : ω} (h : paths.Sound P) (ho : paths.operation? path method = some o) :
    P o := by
  obtain ⟨item, hitem, ho⟩ := Option.bind_eq_some_iff.mp ho
  exact (sound_iff.mp h _ (OrderedMap.mem_entries_of_get? hitem)).2.2 method o ho

lemma Sound.setOperation {o : ω} (h : paths.Sound P) (hpath : Bare path) (ho : P o) :
    (paths.setOperation path method o).Sound P := by
  refine sound_iff.mpr (OrderedMap.forall_entries_insert (sound_iff.mp h) ⟨hpath, ?_, ?_⟩)
  · exact ⟨method, by simp [PathItem.operation?_setOperation]⟩
  · intro method' o' ho'
    rw [PathItem.operation?_setOperation] at ho'
    split_ifs at ho'
    · cases ho'
      exact ho
    · cases hitem : OrderedMap.get? paths path with
      | none => simp [hitem] at ho'
      | some item =>
        have hsame : paths.operation? path method' = some o' := by
          rw [operation?, hitem]
          simpa [hitem] using ho'
        exact h.operation hsame

lemma Sound.modifyOperation {f : ω → ω} (h : paths.Sound P) (hf : ∀ o, P o → P (f o)) :
    (paths.modifyOperation path method f).Sound P := by
  refine sound_iff.mpr (OrderedMap.forall_entries_modify (sound_iff.mp h) ?_)
  rintro item ⟨hkey, ⟨method', hsome⟩, hall⟩
  refine ⟨hkey, ⟨method', ?_⟩, ?_⟩
  · rw [PathItem.operation?_modifyOperation]
    split_ifs
    · rwa [Option.isSome_map]
    · exact hsome
  · intro method'' o ho
    rw [PathItem.operation?_modifyOperation] at ho
    split_ifs at ho
    · obtain ⟨o', ho', rfl⟩ := Option.map_eq_some_iff.mp ho
      exact hf o' (hall _ o' ho')
    · exact hall _ o ho

end PathTable

/-! ### Changes of operations -/

namespace Operation.Sound

variable {o : Operation}

lemma of_summary (summary description : String) : Sound { summary, description } :=
  .intro (fun _ h => by cases h) (fun _ h => by cases h) (fun _ h => by cases h)
    (fun _ h => by cases h) (fun _ h => by cases h) (fun _ h => by cases h)

lemma withTags (h : o.Sound) (tags : List String) : Sound { o with tags } := by
  cases h with
  | intro parameters requestBody statuses responses callbacks security =>
    exact .intro parameters requestBody statuses responses callbacks security

lemma addSecurity (h : o.Sound) {requirement : SecurityRequirement} (hr : requirement.Sound) :
    Sound { o with security := o.security ++ [requirement] } := by
  cases h with
  | intro parameters requestBody statuses responses callbacks security =>
    refine .intro parameters requestBody statuses responses callbacks ?_
    exact List.forall_mem_append.mpr ⟨security, List.forall_mem_singleton.mpr hr⟩

lemma addParameter (h : o.Sound) {parameter : RefOr Parameter}
    (hp : parameter.Sound .parameters Parameter.Sound) :
    Sound { o with parameters := o.parameters ++ [parameter] } := by
  cases h with
  | intro parameters requestBody statuses responses callbacks security =>
    refine .intro ?_ requestBody statuses responses callbacks security
    exact List.forall_mem_append.mpr ⟨parameters, List.forall_mem_singleton.mpr hp⟩

lemma setRequestBody (h : o.Sound) {body : RefOr RequestBody}
    (hb : body.Sound .requestBodies RequestBody.Sound) :
    Sound { o with requestBody := some body } := by
  cases h with
  | intro parameters requestBody statuses responses callbacks security =>
    refine .intro parameters ?_ statuses responses callbacks security
    rintro _ ⟨⟩
    exact hb

lemma insertResponse (h : o.Sound) {status : String} {response : RefOr Response}
    (hstatus : Bare status) (hr : response.Sound .responses Response.Sound) :
    Sound { o with responses := o.responses.insert status response } := by
  cases h with
  | intro parameters requestBody statuses responses callbacks security =>
    exact .intro parameters requestBody (OrderedMap.forall_entries_insert statuses hstatus)
      (OrderedMap.forall_entries_insert responses hr) callbacks security

lemma insertCallback (h : o.Sound) (key : String) {callback : RefOr Paths}
    (hc : callback.Sound .callbacks (PathTable.Sound Operation.Sound)) :
    Sound { o with callbacks := o.callbacks.insert key callback } := by
  cases h with
  | intro parameters requestBody statuses responses callbacks security =>
    exact .intro parameters requestBody statuses responses
      (OrderedMap.forall_entries_insert callbacks hc) security

lemma modifyParameter (h : o.Sound) (index : Nat) {f : Parameter → Parameter}
    (hf : ∀ p : Parameter, p.Sound → (f p).Sound) :
    Sound { o with parameters := o.parameters.modify index (RefOr.mapItem f) } := by
  cases h with
  | intro parameters requestBody statuses responses callbacks security =>
    refine .intro ?_ requestBody statuses responses callbacks security
    intro p hp
    obtain ⟨i, hi, rfl⟩ := List.mem_iff_getElem.mp hp
    rw [List.getElem_modify]
    split_ifs
    · exact (parameters _ (List.getElem_mem _)).mapItem hf
    · exact parameters _ (List.getElem_mem _)

lemma modifyRequestBody (h : o.Sound) {f : RequestBody → RequestBody}
    (hf : ∀ b : RequestBody, b.Sound → (f b).Sound) :
    Sound { o with requestBody := o.requestBody.map (RefOr.mapItem f) } := by
  cases h with
  | intro parameters requestBody statuses responses callbacks security =>
    refine .intro parameters ?_ statuses responses callbacks security
    intro b hb
    obtain ⟨body, hbody, rfl⟩ := Option.map_eq_some_iff.mp hb
    exact (requestBody body hbody).mapItem hf

lemma modifyResponse (h : o.Sound) (status : String) {f : Response → Response}
    (hf : ∀ r : Response, r.Sound → (f r).Sound) :
    Sound { o with responses := o.responses.modify status (RefOr.mapItem f) } := by
  cases h with
  | intro parameters requestBody statuses responses callbacks security =>
    exact .intro parameters requestBody
      (OrderedMap.forall_entries_modify statuses fun _ hkey => hkey)
      (OrderedMap.forall_entries_modify responses fun _ hr => hr.mapItem hf) callbacks security

lemma modifyCallback (h : o.Sound) (key : String) {f : Paths → Paths}
    (hf : ∀ paths : Paths, paths.Sound Operation.Sound → (f paths).Sound Operation.Sound) :
    Sound { o with callbacks := o.callbacks.modify key (RefOr.mapItem f) } := by
  cases h with
  | intro parameters requestBody statuses responses callbacks security =>
    exact .intro parameters requestBody statuses responses
      (OrderedMap.forall_entries_modify callbacks fun _ hc => hc.mapItem hf) security

end Operation.Sound

/-! ### Changes of documents -/

namespace Document.Sound

open Builder

variable {doc : Document}

lemma empty : Sound {} where
  paths := .empty
  schemas _ h := by cases h
  parameters _ h := by cases h
  requestBodies _ h := by cases h
  responses _ h := by cases h
  securitySchemes _ h := by cases h
  callbacks _ h := by cases h
  security _ h := by cases h

lemma modifyPaths (h : doc.Sound) (c : Container) {f : Paths → Paths}
    (hf : ∀ paths : Paths, paths.Sound Operation.Sound → (f paths).Sound Operation.Sound) :
    (doc.modifyPaths c f).Sound := by
  induction c generalizing f with
  | document => exact { h with paths := hf _ h.paths }
  | component id =>
    have hcallbacks := OrderedMap.forall_entries_modify h.callbacks (k := id) (f := f)
      fun paths hpaths => ⟨hpaths.1, hf paths hpaths.2⟩
    exact { h with callbacks := hcallbacks }
  | inline container path method key ih =>
    exact ih fun paths hpaths => hpaths.modifyOperation fun o ho => ho.modifyCallback key hf

lemma modifyOperation (h : doc.Sound) (place : OperationPlace) {f : Operation → Operation}
    (hf : ∀ o : Operation, o.Sound → (f o).Sound) : (doc.modifyOperation place f).Sound :=
  h.modifyPaths place.container fun _ hpaths => hpaths.modifyOperation hf

lemma modifyParameter (h : doc.Sound) {f : Parameter → Parameter}
    (hf : ∀ p : Parameter, p.Sound → (f p).Sound) (place : ParameterPlace) :
    (doc.modifyParameter f place).Sound := by
  cases place with
  | component id =>
    have hparameters := OrderedMap.forall_entries_modify h.parameters (k := id) (f := f)
      fun p hp => ⟨hp.1, hf p hp.2⟩
    exact { h with parameters := hparameters }
  | inline place index => exact h.modifyOperation place fun _ ho => ho.modifyParameter index hf

lemma modifyRequestBody (h : doc.Sound) {f : RequestBody → RequestBody}
    (hf : ∀ b : RequestBody, b.Sound → (f b).Sound) (place : RequestBodyPlace) :
    (doc.modifyRequestBody f place).Sound := by
  cases place with
  | component id =>
    have hbodies := OrderedMap.forall_entries_modify h.requestBodies (k := id) (f := f)
      fun b hb => ⟨hb.1, hf b hb.2⟩
    exact { h with requestBodies := hbodies }
  | inline place => exact h.modifyOperation place fun _ ho => ho.modifyRequestBody hf

lemma modifyResponse (h : doc.Sound) {f : Response → Response}
    (hf : ∀ r : Response, r.Sound → (f r).Sound) (place : ResponsePlace) :
    (doc.modifyResponse f place).Sound := by
  cases place with
  | component id =>
    have hresponses := OrderedMap.forall_entries_modify h.responses (k := id) (f := f)
      fun r hr => ⟨hr.1, hf r hr.2⟩
    exact { h with responses := hresponses }
  | inline place status => exact h.modifyOperation place fun _ ho => ho.modifyResponse status hf

lemma setSchema (h : doc.Sound) {schema : Schema} (hschema : schema.Sound .schemas SoundSchema)
    (place : ContentPlace) : (doc.setSchema schema place).Sound := by
  have hcontent {content : Content} (hsound : content.Sound) :=
    hsound.modifyJson fun m _ => MediaType.sound_setSchema (m := m) hschema
  cases place with
  | parameter place =>
    apply h.modifyParameter
    intro p hp
    refine ⟨hp.required, ?_⟩
    rintro _ ⟨⟩
    exact hschema
  | requestBody place =>
    apply h.modifyRequestBody
    exact fun _ hb => hcontent hb
  | response place =>
    apply h.modifyResponse
    exact fun _ hr => hcontent hr

lemma setExample (h : doc.Sound) (name : String) (sample : Example) (place : ContentPlace) :
    (doc.setExample name sample place).Sound := by
  have hcontent {content : Content} (hsound : content.Sound) :=
    hsound.modifyJson fun _ => MediaType.sound_setExample name sample
  cases place with
  | parameter place =>
    apply h.modifyParameter
    exact fun _ hp => ⟨hp.required, hp.schema⟩
  | requestBody place =>
    apply h.modifyRequestBody
    exact fun _ hb => hcontent hb
  | response place =>
    apply h.modifyResponse
    exact fun _ hr => hcontent hr

end Document.Sound

end ApiScribe.OpenApi
