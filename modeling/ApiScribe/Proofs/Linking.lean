import ApiScribe.OpenApi.Write
import ApiScribe.Proofs.Paths

/-!
# Linked documents

A schema that is written in place but reads as a reference is one in JSON. Linking makes it a
reference, in every schema slot of a document however deep in callbacks, and does not change what is
written.
-/

namespace ApiScribe.OpenApi

/-! ### Operations in callbacks -/

/-- The operation `o'` stands in a callback that is written in place in `o`. -/
def Operation.Holds (o o' : Operation) : Prop :=
  ∃ key paths path item method, (key, .item paths) ∈ o.callbacks.entries ∧
    (path, item) ∈ paths.entries ∧ item.operation? method = some o'

lemma PathItem.sizeOf_lt {item : PathItem Operation} {method : Method} {o : Operation}
    (h : item.operation? method = some o) : sizeOf o < sizeOf item := by
  obtain ⟨get, put, post, delete, options, head, patch, trace⟩ := item
  cases method <;> (cases h; simp; omega)

lemma Operation.Holds.sizeOf_lt {o o' : Operation} (h : o.Holds o') : sizeOf o' < sizeOf o := by
  obtain ⟨key, ⟨paths⟩, path, item, method, hcallback, hpath, ho'⟩ := h
  obtain ⟨tags, summary, description, operationId, parameters, requestBody, responses, ⟨callbacks⟩,
    security⟩ := o
  have h₁ := PathItem.sizeOf_lt ho'
  have h₂ := List.sizeOf_lt_of_mem hpath
  have h₃ := List.sizeOf_lt_of_mem hcallback
  simp at h₁ h₂ h₃ ⊢
  omega

/-- Induction over an operation: it has a property if all the operations in its callbacks have it.
-/
@[elab_as_elim]
theorem Operation.induction {P : Operation → Prop}
    (step : ∀ o, (∀ o', o.Holds o' → P o') → P o) (o : Operation) : P o :=
  step o fun o' _ => induction step o'
termination_by sizeOf o
decreasing_by exact Operation.Holds.sizeOf_lt ‹_›

/-! ### Linking -/

/-- A schema that reads as a reference is one. -/
def Schema.linked : Schema → Schema
  | .item (.object ⟨[("$ref", .string target)]⟩) => .ref { target }
  | schema => schema

def Parameter.linked (p : Parameter) : Parameter := { p with schema := p.schema.map Schema.linked }

def MediaType.linked (m : MediaType) : MediaType := { m with schema := m.schema.map Schema.linked }

def RequestBody.linked (b : RequestBody) : RequestBody :=
  { b with content := OrderedMap.mapValues MediaType.linked b.content }

def Response.linked (r : Response) : Response :=
  { r with content := OrderedMap.mapValues MediaType.linked r.content }

mutual
def Operation.linked : Operation → Operation
  | { tags, summary, description, operationId, parameters, requestBody, responses,
      callbacks := ⟨callbacks⟩, security } =>
    { tags, summary, description, operationId
      parameters := parameters.map (RefOr.mapItem Parameter.linked)
      requestBody := requestBody.map (RefOr.mapItem RequestBody.linked)
      responses := responses.mapValues (RefOr.mapItem Response.linked)
      callbacks := ⟨linkedCallbacks callbacks⟩
      security }

def linkedCallbacks : List (String × RefOr (OrderedMap (PathItem Operation))) →
    List (String × RefOr (OrderedMap (PathItem Operation)))
  | [] => []
  | (key, .ref reference) :: rest => (key, .ref reference) :: linkedCallbacks rest
  | (key, .item ⟨paths⟩) :: rest => (key, .item ⟨linkedPaths paths⟩) :: linkedCallbacks rest

def linkedPaths : List (String × PathItem Operation) → List (String × PathItem Operation)
  | [] => []
  | (path, { get, put, post, delete, options, head, patch, trace }) :: rest =>
    (path,
      { get := linkedSlot get, put := linkedSlot put, post := linkedSlot post
        delete := linkedSlot delete, options := linkedSlot options, head := linkedSlot head
        patch := linkedSlot patch, trace := linkedSlot trace }) :: linkedPaths rest

def linkedSlot : Option Operation → Option Operation
  | none => none
  | some operation => some operation.linked
end

def Paths.linked (paths : Paths) : Paths := ⟨linkedPaths paths.entries⟩

def Components.linked (c : Components) : Components :=
  { c with
    parameters := c.parameters.mapValues Parameter.linked
    requestBodies := c.requestBodies.mapValues RequestBody.linked
    responses := c.responses.mapValues Response.linked
    callbacks := c.callbacks.mapValues Paths.linked }

/-- The document with all schemas linked that read as references. Schema components are no slots:
they are as they were. -/
def Document.linked (doc : Document) : Document :=
  { doc with paths := Paths.linked doc.paths, components := doc.components.linked }

/-! ### Tables of paths, slot by slot -/

/-- Change every operation of a path. -/
def PathItem.map {ω : Type} (f : ω → ω) (item : PathItem ω) : PathItem ω :=
  { get := item.get.map f, put := item.put.map f, post := item.post.map f
    delete := item.delete.map f, options := item.options.map f, head := item.head.map f
    patch := item.patch.map f, trace := item.trace.map f }

/-- The fields of a path, one for each operation. -/
def PathItem.fields {ω : Type} (write : ω → Json) (item : PathItem ω) : List (String × Json) :=
  Method.all.flatMap fun method => optionField method.key ((item.operation? method).map write)

def PathItem.toJson {ω : Type} (write : ω → Json) (item : PathItem ω) : Json :=
  .object ⟨item.fields write⟩

lemma PathItem.operation?_map {ω : Type} (f : ω → ω) (item : PathItem ω) (method : Method) :
    (item.map f).operation? method = (item.operation? method).map f := by
  cases method <;> rfl

lemma linkedSlot_eq (slot : Option Operation) : linkedSlot slot = slot.map Operation.linked := by
  cases slot with
  | none => rw [linkedSlot, Option.map_none]
  | some o => rw [linkedSlot, Option.map_some]

lemma Paths.linked_eq (paths : Paths) :
    Paths.linked paths = OrderedMap.mapValues (PathItem.map Operation.linked) paths := by
  obtain ⟨entries⟩ := paths
  have hentries : linkedPaths entries =
      entries.map fun e => (e.1, PathItem.map Operation.linked e.2) := by
    induction entries with
    | nil => rw [linkedPaths, List.map_nil]
    | cons e rest ih =>
      obtain ⟨path, item⟩ := e
      simp only [linkedPaths, linkedSlot_eq, ih, List.map_cons]
      rfl
  exact congrArg OrderedMap.mk hentries

lemma Operation.linked_eq (o : Operation) :
    o.linked =
      { o with
        parameters := o.parameters.map (RefOr.mapItem Parameter.linked)
        requestBody := o.requestBody.map (RefOr.mapItem RequestBody.linked)
        responses := o.responses.mapValues (RefOr.mapItem Response.linked)
        callbacks := o.callbacks.mapValues (RefOr.mapItem Paths.linked) } := by
  obtain ⟨tags, summary, description, operationId, parameters, requestBody, responses, ⟨callbacks⟩,
    security⟩ := o
  have hcallbacks : linkedCallbacks callbacks =
      callbacks.map fun e => (e.1, RefOr.mapItem Paths.linked e.2) := by
    induction callbacks with
    | nil => rw [linkedCallbacks, List.map_nil]
    | cons e rest ih =>
      obtain ⟨key, reference | ⟨paths⟩⟩ := e
      · rw [linkedCallbacks, ih]; rfl
      · rw [linkedCallbacks, ih]; rfl
  rw [linked, hcallbacks]
  rfl

/-! ### What is written of tables -/

lemma slotField_eq (method : Method) (slot : Option Operation) :
    slotField method slot = optionField method.key (slot.map Operation.toJson) := by
  cases slot with
  | none => rw [slotField]; rfl
  | some o => rw [slotField]; rfl

lemma Paths.toJson_eq (paths : Paths) :
    Paths.toJson paths = mapJson (PathItem.toJson Operation.toJson) paths := by
  obtain ⟨entries⟩ := paths
  have hentries : pathEntries entries =
      mapEntries (PathItem.toJson Operation.toJson) ⟨entries⟩ := by
    induction entries with
    | nil => rw [pathEntries]; rfl
    | cons e rest ih =>
      obtain ⟨path, item⟩ := e
      simp [pathEntries, slotField_eq, ih, PathItem.toJson, PathItem.fields, Method.all,
        PathItem.operation?, mapEntries]
  exact congrArg (fun fields => Json.object ⟨fields⟩) hentries

lemma callbackEntries_eq (callbacks : OrderedMap (RefOr Paths)) :
    callbackEntries callbacks.entries = mapEntries (RefOr.toJson Paths.toJson) callbacks := by
  obtain ⟨callbacks⟩ := callbacks
  induction callbacks with
  | nil => rw [callbackEntries]; rfl
  | cons e rest ih =>
    obtain ⟨key, reference | ⟨paths⟩⟩ := e
    · simp only [callbackEntries, ih]; rfl
    · simp only [callbackEntries, ih]; rfl

/-- What is written of an operation, without opening its callbacks. -/
lemma Operation.toJson_eq (o : Operation) :
    o.toJson =
      .object ⟨listField "tags" (textList o.tags) ++ textField "summary" o.summary ++
        textField "description" o.description ++ textField "operationId" o.operationId ++
        listField "parameters" (o.parameters.map (RefOr.toJson Parameter.toJson)) ++
        optionField "requestBody" (o.requestBody.map (RefOr.toJson RequestBody.toJson)) ++
        [("responses", mapJson (RefOr.toJson Response.toJson) o.responses)] ++
        mapField "callbacks" (mapEntries (RefOr.toJson Paths.toJson) o.callbacks) ++
        listField "security" (o.security.map SecurityRequirement.toJson)⟩ := by
  rw [← callbackEntries_eq]
  obtain ⟨tags, summary, description, operationId, parameters, requestBody, responses, ⟨callbacks⟩,
    security⟩ := o
  rw [toJson]

/-! ### Linking does not change what is written -/

section MapEntries

variable {α : Type} {write : α → Json} {f : α → α}

lemma mapEntries_mapValues {m : OrderedMap α} (h : ∀ e ∈ m.entries, write (f e.2) = write e.2) :
    mapEntries write (m.mapValues f) = mapEntries write m := by
  simp only [mapEntries, OrderedMap.mapValues, List.map_map]
  exact List.map_congr_left fun e he => congrArg (Prod.mk e.1) (h e he)

lemma RefOr.toJson_mapItem {r : RefOr α} (h : ∀ v, r = .item v → write (f v) = write v) :
    (r.mapItem f).toJson write = r.toJson write := by
  cases r with
  | ref r => rfl
  | item v => exact h v rfl

end MapEntries

lemma Schema.toJson_linked (schema : Schema) : schema.linked.toJson = schema.toJson := by
  unfold linked
  split <;> rfl

lemma Parameter.toJson_linked (p : Parameter) : p.linked.toJson = p.toJson := by
  have hschema : (p.schema.map Schema.linked).map Schema.toJson = p.schema.map Schema.toJson := by
    cases p.schema <;> simp [Schema.toJson_linked]
  simp only [toJson, linked, hschema]

lemma MediaType.toJson_linked (m : MediaType) : m.linked.toJson = m.toJson := by
  have hschema : (m.schema.map Schema.linked).map Schema.toJson = m.schema.map Schema.toJson := by
    cases m.schema <;> simp [Schema.toJson_linked]
  simp only [toJson, linked, hschema]

lemma RequestBody.toJson_linked (b : RequestBody) : b.linked.toJson = b.toJson := by
  have hcontent := mapEntries_mapValues (m := b.content) fun e _ => MediaType.toJson_linked e.2
  simp only [toJson, linked, mapJson, hcontent]

lemma Response.toJson_linked (r : Response) : r.linked.toJson = r.toJson := by
  have hcontent := mapEntries_mapValues (m := r.content) fun e _ => MediaType.toJson_linked e.2
  simp only [toJson, linked, hcontent]

lemma PathItem.toJson_map {ω : Type} {item : PathItem ω} {write : ω → Json} {f : ω → ω}
    (h : ∀ method o, item.operation? method = some o → write (f o) = write o) :
    (item.map f).toJson write = item.toJson write := by
  have hslot : ∀ method, ((item.operation? method).map f).map write =
      (item.operation? method).map write := by
    intro method
    rw [Option.map_map]
    exact Option.map_congr (h method)
  simp only [toJson, fields, operation?_map, hslot]

lemma Paths.toJson_linked_of {paths : Paths}
    (h : ∀ e ∈ paths.entries, ∀ method o, e.2.operation? method = some o →
      o.linked.toJson = o.toJson) : Paths.toJson (Paths.linked paths) = Paths.toJson paths := by
  have hentries := mapEntries_mapValues fun e he => PathItem.toJson_map (h e he)
  rw [linked_eq, toJson_eq, toJson_eq, mapJson, mapJson, hentries]

lemma Operation.toJson_linked (o : Operation) : o.linked.toJson = o.toJson := by
  induction o using Operation.induction with
  | step o ih =>
    have hcallbacks : mapEntries (RefOr.toJson Paths.toJson)
        (o.callbacks.mapValues (RefOr.mapItem Paths.linked)) =
          mapEntries (RefOr.toJson Paths.toJson) o.callbacks := by
      refine mapEntries_mapValues fun e he => RefOr.toJson_mapItem fun paths hpaths => ?_
      refine Paths.toJson_linked_of fun e' he' method o' ho' => ih o' ?_
      exact ⟨e.1, paths, e'.1, e'.2, method, hpaths ▸ he, he', ho'⟩
    have hparameters : (o.parameters.map (RefOr.mapItem Parameter.linked)).map
        (RefOr.toJson Parameter.toJson) = o.parameters.map (RefOr.toJson Parameter.toJson) := by
      rw [List.map_map]
      exact List.map_congr_left fun p _ => RefOr.toJson_mapItem fun v _ => v.toJson_linked
    have hbody : (o.requestBody.map (RefOr.mapItem RequestBody.linked)).map
        (RefOr.toJson RequestBody.toJson) =
          o.requestBody.map (RefOr.toJson RequestBody.toJson) := by
      rw [Option.map_map]
      exact Option.map_congr fun b _ => RefOr.toJson_mapItem fun v _ => v.toJson_linked
    have hresponses : mapEntries (RefOr.toJson Response.toJson)
        (o.responses.mapValues (RefOr.mapItem Response.linked)) =
          mapEntries (RefOr.toJson Response.toJson) o.responses :=
      mapEntries_mapValues fun e _ => RefOr.toJson_mapItem fun v _ => v.toJson_linked
    rw [linked_eq, toJson_eq, toJson_eq]
    simp only [mapJson, hparameters, hbody, hresponses, hcallbacks]

lemma Paths.toJson_linked (paths : Paths) :
    Paths.toJson (Paths.linked paths) = Paths.toJson paths :=
  toJson_linked_of fun _ _ _ o _ => o.toJson_linked

lemma Components.toJson_linked (c : Components) : c.linked.toJson = c.toJson := by
  have hparameters := mapEntries_mapValues (m := c.parameters) fun e _ => e.2.toJson_linked
  have hbodies := mapEntries_mapValues (m := c.requestBodies) fun e _ => e.2.toJson_linked
  have hresponses := mapEntries_mapValues (m := c.responses) fun e _ => e.2.toJson_linked
  have hcallbacks := mapEntries_mapValues (m := c.callbacks) fun e _ => Paths.toJson_linked e.2
  simp only [toJson, linked, hparameters, hbodies, hresponses, hcallbacks]

lemma Components.isEmpty_linked (c : Components) : c.linked.isEmpty = c.isEmpty := by
  simp [isEmpty, linked, OrderedMap.isEmpty, OrderedMap.mapValues]

/-- A document is written as its linked form is. -/
lemma Document.toJson_linked (doc : Document) : doc.linked.toJson = doc.toJson := by
  simp only [toJson, linked, Components.isEmpty_linked, Components.toJson_linked,
    Paths.toJson_linked]

end ApiScribe.OpenApi
