import ApiScribe.Proofs.Builder.Places
import ApiScribe.Proofs.Json.Value

/-!
# Regular documents

In a regular document no map has a key twice, however deep it stands, and every schema written in
place can be told from none and from a list that stands for a reference. These are the documents
whose text says all about them.
-/

namespace ApiScribe.OpenApi

/-! ### Parts -/

/-- An object written in place has the property. -/
inductive RefOr.Each {α : Type} (P : α → Prop) : RefOr α → Prop
  | ref (r : Reference) : Each P (.ref r)
  | item {v : α} (h : P v) : Each P (.item v)

/-- All operations of the path have the property. -/
inductive PathItem.Each {ω : Type} (P : ω → Prop) : PathItem ω → Prop
  | intro {get put post delete options head patch trace : Option ω}
    (h : ∀ method o, (PathItem.mk get put post delete options head patch trace).operation? method =
      some o → P o) : Each P ⟨get, put, post, delete, options, head, patch, trace⟩

/-- A schema written in place is not mistaken for another one. -/
structure RegularSchema (json : Json) : Prop where
  distinct : json.Distinct
  ne_null : json ≠ .null
  ne_list : ∀ s, json ≠ .array [.string s]

def Example.Regular (e : Example) : Prop := e.value.Distinct

structure Parameter.Regular (p : Parameter) : Prop where
  schema : ∀ s ∈ p.schema, s.Each RegularSchema
  examples : p.examples.Each Example.Regular

structure MediaType.Regular (m : MediaType) : Prop where
  schema : ∀ s ∈ m.schema, s.Each RegularSchema
  examples : m.examples.Each Example.Regular

def RequestBody.Regular (b : RequestBody) : Prop := OrderedMap.Each MediaType.Regular b.content

def Response.Regular (r : Response) : Prop := OrderedMap.Each MediaType.Regular r.content

/-- An operation is regular together with the operations in its callbacks. -/
inductive Operation.Regular : Operation → Prop
  | intro {o : Operation} (parameters : ∀ p ∈ o.parameters, p.Each Parameter.Regular)
    (requestBody : ∀ b ∈ o.requestBody, b.Each RequestBody.Regular)
    (responses : o.responses.Each (RefOr.Each Response.Regular))
    (callbacks :
      o.callbacks.Each (RefOr.Each (OrderedMap.Each (PathItem.Each Operation.Regular))))
    (security : ∀ r ∈ o.security, r.keys.Nodup) : Regular o

def Paths.Regular (paths : Paths) : Prop :=
  OrderedMap.Each (PathItem.Each Operation.Regular) paths

structure Components.Regular (c : Components) : Prop where
  schemas : c.schemas.Each Json.Distinct
  parameters : c.parameters.Each Parameter.Regular
  requestBodies : c.requestBodies.Each RequestBody.Regular
  responses : c.responses.Each Response.Regular
  securitySchemes : c.securitySchemes.keys.Nodup
  callbacks : c.callbacks.Each Paths.Regular

structure Document.Regular (doc : Document) : Prop where
  servers : ∀ s ∈ doc.servers, s.placeholders.keys.Nodup
  paths : Paths.Regular doc.paths
  components : doc.components.Regular
  security : ∀ r ∈ doc.security, r.keys.Nodup

/-! ### Changes of parts -/

lemma forall_mem_modify {α : Type} {P : α → Prop} {f : α → α} {items : List α}
    (h : ∀ item ∈ items, P item) (index : Nat) (hf : ∀ item, P item → P (f item)) :
    ∀ item ∈ items.modify index f, P item := by
  intro item hitem
  obtain ⟨i, hi, rfl⟩ := List.mem_iff_getElem.mp hitem
  rw [List.getElem_modify]
  split_ifs
  · exact hf _ (h _ (List.getElem_mem _))
  · exact h _ (List.getElem_mem _)

lemma RefOr.Each.mapItem {α : Type} {P : α → Prop} {r : RefOr α} {f : α → α} (h : r.Each P)
    (hf : ∀ v, P v → P (f v)) : (r.mapItem f).Each P := by
  cases h with
  | ref r => exact .ref r
  | item h => exact .item (hf _ h)

lemma Content.regular_modifyJson {content : Content} {f : MediaType → MediaType}
    (h : OrderedMap.Each MediaType.Regular content)
    (hf : ∀ m : MediaType, m.Regular → (f m).Regular) :
    OrderedMap.Each MediaType.Regular (content.modifyJson f) := by
  refine h.insert jsonMediaType (hf _ ?_)
  cases hjson : OrderedMap.get? content jsonMediaType with
  | none => exact ⟨fun _ h => (by cases h), .empty⟩
  | some m => exact h.get? hjson

namespace PathItem.Each

variable {ω : Type} {P : ω → Prop} {item : PathItem ω}

lemma operation (h : item.Each P) {method : Method} {o : ω}
    (ho : item.operation? method = some o) : P o := by
  cases h with
  | intro h => exact h method o ho

lemma of_forall (h : ∀ method o, item.operation? method = some o → P o) : item.Each P := by
  cases item
  exact .intro h

lemma empty : PathItem.Each P {} := of_forall fun method o ho => by simp at ho

lemma setSlot (h : item.Each P) {slot : Option ω} (hslot : ∀ o ∈ slot, P o) (method : Method) :
    (item.setSlot slot method).Each P := by
  refine of_forall fun method' o ho => ?_
  rw [operation?_setSlot] at ho
  split_ifs at ho
  · exact hslot o ho
  · exact h.operation ho

end PathItem.Each

namespace Paths.Regular

variable {paths : Paths} {path : String} {method : Method}

lemma setOperation (h : Regular paths) {o : Operation} (ho : o.Regular) :
    Regular (paths.setOperation path method o) := by
  refine h.insert path (.setSlot ?_ (by rintro _ ⟨⟩; exact ho) method)
  cases hitem : OrderedMap.get? paths path with
  | none => exact .empty
  | some item => exact h.get? hitem

lemma modifyOperation (h : Regular paths) {f : Operation → Operation}
    (hf : ∀ o : Operation, o.Regular → (f o).Regular) :
    Regular (paths.modifyOperation path method f) := by
  refine OrderedMap.Each.modify h path fun item hitem => hitem.setSlot ?_ method
  intro o ho
  obtain ⟨o', ho', rfl⟩ := Option.map_eq_some_iff.mp ho
  exact hf o' (hitem.operation ho')

end Paths.Regular

/-! ### Changes of operations -/

namespace Operation.Regular

variable {o : Operation}

lemma parameters (h : o.Regular) : ∀ p ∈ o.parameters, p.Each Parameter.Regular := by
  cases h with
  | intro parameters requestBody responses callbacks security => exact parameters

lemma requestBody (h : o.Regular) : ∀ b ∈ o.requestBody, b.Each RequestBody.Regular := by
  cases h with
  | intro parameters requestBody responses callbacks security => exact requestBody

lemma responses (h : o.Regular) : o.responses.Each (RefOr.Each Response.Regular) := by
  cases h with
  | intro parameters requestBody responses callbacks security => exact responses

lemma callbacks (h : o.Regular) : o.callbacks.Each (RefOr.Each Paths.Regular) := by
  cases h with
  | intro parameters requestBody responses callbacks security => exact callbacks

lemma security (h : o.Regular) : ∀ r ∈ o.security, r.keys.Nodup := by
  cases h with
  | intro parameters requestBody responses callbacks security => exact security

lemma of_summary (summary description : String) : Regular { summary, description } :=
  .intro (List.forall_mem_nil _) (fun _ h => by cases h) .empty .empty (List.forall_mem_nil _)

lemma withTexts (h : o.Regular) (tags : List String) (summary description operationId : String) :
    Regular { o with tags, summary, description, operationId } :=
  .intro h.parameters h.requestBody h.responses h.callbacks h.security

lemma withParameters (h : o.Regular) {parameters : List (RefOr Parameter)}
    (hp : ∀ p ∈ parameters, p.Each Parameter.Regular) : Regular { o with parameters } :=
  .intro hp h.requestBody h.responses h.callbacks h.security

lemma withRequestBody (h : o.Regular) {body : Option (RefOr RequestBody)}
    (hb : ∀ b ∈ body, b.Each RequestBody.Regular) : Regular { o with requestBody := body } :=
  .intro h.parameters hb h.responses h.callbacks h.security

lemma withResponses (h : o.Regular) {responses : OrderedMap (RefOr Response)}
    (hr : responses.Each (RefOr.Each Response.Regular)) : Regular { o with responses } :=
  .intro h.parameters h.requestBody hr h.callbacks h.security

lemma withCallbacks (h : o.Regular) {callbacks : OrderedMap (RefOr Paths)}
    (hc : callbacks.Each (RefOr.Each Paths.Regular)) : Regular { o with callbacks } :=
  .intro h.parameters h.requestBody h.responses hc h.security

lemma withSecurity (h : o.Regular) {security : List SecurityRequirement}
    (hs : ∀ r ∈ security, r.keys.Nodup) : Regular { o with security } :=
  .intro h.parameters h.requestBody h.responses h.callbacks hs

lemma modifyParameter (h : o.Regular) (index : Nat) {f : Parameter → Parameter}
    (hf : ∀ p : Parameter, p.Regular → (f p).Regular) :
    Regular { o with parameters := o.parameters.modify index (RefOr.mapItem f) } :=
  h.withParameters (forall_mem_modify h.parameters index fun _ hp => hp.mapItem hf)

end Operation.Regular

/-! ### Changes of documents -/

lemma Components.Regular.empty : Components.Regular {} where
  schemas := .empty
  parameters := .empty
  requestBodies := .empty
  responses := .empty
  securitySchemes := List.nodup_nil
  callbacks := .empty

namespace Document.Regular

open Builder

variable {doc : Document}

lemma empty : Regular {} where
  servers := List.forall_mem_nil _
  paths := .empty
  components := .empty
  security := List.forall_mem_nil _

lemma modifyPaths (h : doc.Regular) (c : Container) {f : Paths → Paths}
    (hf : ∀ paths : Paths, Paths.Regular paths → Paths.Regular (f paths)) :
    (doc.modifyPaths c f).Regular := by
  induction c generalizing f with
  | document => exact { h with paths := hf _ h.paths }
  | component id =>
    have hc := h.components
    exact { h with components := { hc with callbacks := hc.callbacks.modify id hf } }
  | inline container path method key ih =>
    refine ih fun paths hpaths => hpaths.modifyOperation fun o ho => ?_
    exact ho.withCallbacks (ho.callbacks.modify key fun _ hc => hc.mapItem hf)

lemma modifyOperation (h : doc.Regular) (place : OperationPlace) {f : Operation → Operation}
    (hf : ∀ o : Operation, o.Regular → (f o).Regular) : (doc.modifyOperation place f).Regular :=
  h.modifyPaths place.container fun _ hpaths => hpaths.modifyOperation hf

lemma modifyParameter (h : doc.Regular) {f : Parameter → Parameter}
    (hf : ∀ p : Parameter, p.Regular → (f p).Regular) (place : ParameterPlace) :
    (doc.modifyParameter f place).Regular := by
  cases place with
  | component id =>
    have hc := h.components
    exact { h with components := { hc with parameters := hc.parameters.modify id hf } }
  | inline place index => exact h.modifyOperation place fun _ ho => ho.modifyParameter index hf

lemma modifyRequestBody (h : doc.Regular) {f : RequestBody → RequestBody}
    (hf : ∀ b : RequestBody, b.Regular → (f b).Regular) (place : RequestBodyPlace) :
    (doc.modifyRequestBody f place).Regular := by
  cases place with
  | component id =>
    have hc := h.components
    exact { h with components := { hc with requestBodies := hc.requestBodies.modify id hf } }
  | inline place =>
    refine h.modifyOperation place fun o ho => ho.withRequestBody fun b hb => ?_
    obtain ⟨b', hb', rfl⟩ := Option.map_eq_some_iff.mp hb
    exact (ho.requestBody b' hb').mapItem hf

lemma modifyResponse (h : doc.Regular) {f : Response → Response}
    (hf : ∀ r : Response, r.Regular → (f r).Regular) (place : ResponsePlace) :
    (doc.modifyResponse f place).Regular := by
  cases place with
  | component id =>
    have hc := h.components
    exact { h with components := { hc with responses := hc.responses.modify id hf } }
  | inline place status =>
    refine h.modifyOperation place fun o ho => ho.withResponses ?_
    exact ho.responses.modify status fun _ hr => hr.mapItem hf

lemma setSchema (h : doc.Regular) {schema : Schema} (hschema : schema.Each RegularSchema)
    (place : ContentPlace) : (doc.setSchema schema place).Regular := by
  have hsome : ∀ s ∈ some schema, s.Each RegularSchema := by
    rintro _ ⟨⟩
    exact hschema
  have hmedia : ∀ m : MediaType, m.Regular → { m with schema := some schema : MediaType }.Regular :=
    fun m hm => ⟨hsome, hm.examples⟩
  cases place with
  | parameter place =>
    refine h.modifyParameter ?_ place
    exact fun p hp => ⟨hsome, hp.examples⟩
  | requestBody place =>
    refine h.modifyRequestBody ?_ place
    exact fun b hb => Content.regular_modifyJson hb hmedia
  | response place =>
    refine h.modifyResponse ?_ place
    exact fun r hr => Content.regular_modifyJson hr hmedia

lemma setExample (h : doc.Regular) (name : String) {sample : Example} (hsample : sample.Regular)
    (place : ContentPlace) : (doc.setExample name sample place).Regular := by
  have hmedia : ∀ m : MediaType, m.Regular →
      { m with examples := m.examples.insert name sample : MediaType }.Regular :=
    fun m hm => ⟨hm.schema, hm.examples.insert name hsample⟩
  cases place with
  | parameter place =>
    refine h.modifyParameter ?_ place
    exact fun p hp => ⟨hp.schema, hp.examples.insert name hsample⟩
  | requestBody place =>
    refine h.modifyRequestBody ?_ place
    exact fun b hb => Content.regular_modifyJson hb hmedia
  | response place =>
    refine h.modifyResponse ?_ place
    exact fun r hr => Content.regular_modifyJson hr hmedia

end Document.Regular

end ApiScribe.OpenApi
