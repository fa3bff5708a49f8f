import ApiScribe.Proofs.Builder.Places

/-!
# One document laid over another

The upper document adds to the lists of the lower one, and its named parts and operations replace
those of the same name, or the same path and method. What the upper document has is found in the
result, and can be changed before or after it is laid over the lower one.
-/

namespace ApiScribe.OpenApi

variable {ω : Type}

/-! ### Path tables -/

/-- The operations of both items. Where both have one, it is that of `item'`. -/
def PathItem.overlay (item item' : PathItem ω) : PathItem ω where
  get := item'.get.or item.get
  put := item'.put.or item.put
  post := item'.post.or item.post
  delete := item'.delete.or item.delete
  options := item'.options.or item.options
  head := item'.head.or item.head
  patch := item'.patch.or item.patch
  trace := item'.trace.or item.trace

@[simp] lemma PathItem.operation?_overlay (item item' : PathItem ω) (method : Method) :
    (item.overlay item').operation? method =
      (item'.operation? method).or (item.operation? method) := by
  cases method <;> rfl

lemma PathItem.overlay_setOperation (item item' : PathItem ω) (method : Method) (operation : ω) :
    item.overlay (item'.setOperation method operation) =
      (item.overlay item').setOperation method operation := by
  apply ext_operation?
  intro method'
  simp only [operation?_overlay, operation?_setOperation]
  split_ifs <;> rfl

lemma PathItem.overlay_modifyOperation {item' : PathItem ω} {method : Method}
    (h : (item'.operation? method).isSome) (item : PathItem ω) (f : ω → ω) :
    item.overlay (item'.modifyOperation method f) =
      (item.overlay item').modifyOperation method f := by
  obtain ⟨operation, hoperation⟩ := Option.isSome_iff_exists.mp h
  apply ext_operation?
  intro method'
  simp only [operation?_overlay, operation?_modifyOperation]
  split_ifs with hmethod
  · subst hmethod
    rw [hoperation]
    rfl
  · rfl

namespace PathTable

/-- Lay the items of `paths'` over those of `paths`, in their order. A path that is new comes last.
-/
def overlay (paths paths' : PathTable ω) : PathTable ω :=
  OrderedMap.mergeWith (fun item? item' => (item?.getD {}).overlay item') paths paths'

variable {paths paths' : PathTable ω} {path : String} {method : Method}

lemma get?_overlay (h : paths'.keys.Nodup) (paths : PathTable ω) (path : String) :
    (paths.overlay paths').get? path =
      ((paths'.get? path).map ((paths.get? path).getD {}).overlay).or (paths.get? path) :=
  OrderedMap.get?_mergeWith h path

lemma operation?_overlay (h : paths'.keys.Nodup) (paths : PathTable ω) (path : String)
    (method : Method) :
    (paths.overlay paths').operation? path method =
      (paths'.operation? path method).or (paths.operation? path method) := by
  rw [operation?, operation?, operation?, get?_overlay h]
  cases paths'.get? path with
  | none => rfl
  | some item' =>
    cases paths.get? path with
    | none => simp
    | some item => simp

lemma overlay_setOperation (h : paths'.keys.Nodup) (paths : PathTable ω) (path : String)
    (method : Method) (operation : ω) :
    paths.overlay (paths'.setOperation path method operation) =
      (paths.overlay paths').setOperation path method operation := by
  rw [setOperation, setOperation, overlay, OrderedMap.mergeWith_insert h, ← overlay,
    get?_overlay h, PathItem.overlay_setOperation]
  congr 2
  cases paths'.get? path with
  | none =>
    apply PathItem.ext_operation?
    intro method'
    simp
  | some item' => rfl

lemma overlay_modifyOperation (h : paths'.keys.Nodup)
    (hoperation : (paths'.operation? path method).isSome) (paths : PathTable ω) (f : ω → ω) :
    paths.overlay (paths'.modifyOperation path method f) =
      (paths.overlay paths').modifyOperation path method f := by
  cases hitem : paths'.get? path with
  | none =>
    rw [operation?, hitem] at hoperation
    cases hoperation
  | some item' =>
    rw [operation?, hitem] at hoperation
    exact OrderedMap.mergeWith_modify h hitem (PathItem.overlay_modifyOperation hoperation _ f)

end PathTable

/-! ### Documents -/

def Components.overlay (c c' : Components) : Components where
  schemas := c.schemas.overlay c'.schemas
  parameters := c.parameters.overlay c'.parameters
  requestBodies := c.requestBodies.overlay c'.requestBodies
  responses := c.responses.overlay c'.responses
  securitySchemes := c.securitySchemes.overlay c'.securitySchemes
  callbacks := OrderedMap.overlay c.callbacks c'.callbacks

namespace Document

open Builder

/-- Lay `doc'` over `doc`. Title and description are those of `doc'` if it has been given some, and
so is the version. -/
def overlay (titled versioned : Bool) (doc doc' : Document) : Document where
  openapi := doc.openapi
  info := {
    title := if titled then doc'.info.title else doc.info.title
    description := if titled then doc'.info.description else doc.info.description
    version := if versioned then doc'.info.version else doc.info.version }
  servers := doc.servers ++ doc'.servers
  paths := doc.paths.overlay doc'.paths
  components := doc.components.overlay doc'.components
  security := doc.security ++ doc'.security
  tags := doc.tags ++ doc'.tags

lemma overlay_empty (doc : Document) : doc.overlay false false {} = doc := by
  simp only [overlay, List.append_nil]
  rfl

/-- No table of a document has a key twice. -/
structure UniqueKeys (doc : Document) : Prop where
  paths : doc.paths.keys.Nodup
  schemas : doc.components.schemas.keys.Nodup
  parameters : doc.components.parameters.keys.Nodup
  requestBodies : doc.components.requestBodies.keys.Nodup
  responses : doc.components.responses.keys.Nodup
  securitySchemes : doc.components.securitySchemes.keys.Nodup
  callbacks : doc.components.callbacks.keys.Nodup

lemma UniqueKeys.empty : UniqueKeys {} := by
  constructor <;> exact List.nodup_nil

/-! ### Places -/

variable {titled versioned : Bool} {doc doc' : Document}

lemma operation?_overlay_of_paths? (h : doc'.UniqueKeys) {place : OperationPlace}
    (hoperation : (doc'.operation? place).isSome)
    (hpaths : place.container ≠ .document →
      (doc.overlay titled versioned doc').paths? place.container = doc'.paths? place.container) :
    (doc.overlay titled versioned doc').operation? place = doc'.operation? place := by
  by_cases hc : place.container = .document
  · obtain ⟨c, path, method⟩ := place
    subst hc
    obtain ⟨operation, ho⟩ := Option.isSome_iff_exists.mp hoperation
    change (doc.paths.overlay doc'.paths).operation? path method = doc'.paths.operation? path method
    rw [PathTable.operation?_overlay h.paths, show doc'.paths.operation? path method = _ from ho]
    rfl
  · rw [operation?, operation?, hpaths hc]

/-- The table of a callback that the upper document has stands at its place in the result. -/
lemma paths?_overlay (h : doc'.UniqueKeys) {c : Container} (hc : c ≠ .document)
    (hpaths : (doc'.paths? c).isSome) :
    (doc.overlay titled versioned doc').paths? c = doc'.paths? c := by
  induction c with
  | document => exact absurd rfl hc
  | component id => exact OrderedMap.get?_overlay_of_isSome h.callbacks hpaths
  | inline container path method key ih =>
    let owner : OperationPlace := ⟨container, path, method⟩
    have howner : (doc'.operation? owner).isSome := isSome_operation?_of_paths? hpaths
    change paths? _ (owner.callback key) = doc'.paths? (owner.callback key)
    rw [paths?_inline, paths?_inline, operation?_overlay_of_paths? h howner fun hcontainer =>
      ih hcontainer (isSome_paths?_of_operation? howner)]

/-- So does an operation that the upper document has. -/
lemma operation?_overlay (h : doc'.UniqueKeys) {place : OperationPlace}
    (hoperation : (doc'.operation? place).isSome) :
    (doc.overlay titled versioned doc').operation? place = doc'.operation? place :=
  operation?_overlay_of_paths? h hoperation fun hc =>
    paths?_overlay h hc (isSome_paths?_of_operation? hoperation)

/-! ### Changes -/

lemma overlay_modifyOperation_of_modifyPaths (h : doc'.UniqueKeys) {place : OperationPlace}
    (hoperation : (doc'.operation? place).isSome) (f : Operation → Operation)
    (hpaths : place.container ≠ .document → ∀ g : Paths → Paths,
      doc.overlay titled versioned (doc'.modifyPaths place.container g) =
        (doc.overlay titled versioned doc').modifyPaths place.container g) :
    doc.overlay titled versioned (doc'.modifyOperation place f) =
      (doc.overlay titled versioned doc').modifyOperation place f := by
  by_cases hc : place.container = .document
  · obtain ⟨c, path, method⟩ := place
    subst hc
    have htable := PathTable.overlay_modifyOperation h.paths hoperation doc.paths f
    simp only [modifyOperation, modifyPaths, overlay, htable]
  · exact hpaths hc _

/-- A callback of the upper document can be changed before or after. -/
lemma overlay_modifyPaths (h : doc'.UniqueKeys) {c : Container} (hc : c ≠ .document)
    (hpaths : (doc'.paths? c).isSome) (f : Paths → Paths) :
    doc.overlay titled versioned (doc'.modifyPaths c f) =
      (doc.overlay titled versioned doc').modifyPaths c f := by
  induction c generalizing f with
  | document => exact absurd rfl hc
  | component id =>
    have hcallbacks := OrderedMap.overlay_modify h.callbacks hpaths f
      (m := doc.components.callbacks)
    simp only [modifyPaths, modifyComponents, overlay, Components.overlay, hcallbacks]
  | inline container path method key ih =>
    -- a change in a callback is one of the operation that has it
    let owner : OperationPlace := ⟨container, path, method⟩
    have howner : (doc'.operation? owner).isSome := isSome_operation?_of_paths? hpaths
    exact overlay_modifyOperation_of_modifyPaths h howner _ fun hcontainer g =>
      ih hcontainer (isSome_paths?_of_operation? howner) g

/-- So can an operation. -/
lemma overlay_modifyOperation (h : doc'.UniqueKeys) {place : OperationPlace}
    (hoperation : (doc'.operation? place).isSome) (f : Operation → Operation) :
    doc.overlay titled versioned (doc'.modifyOperation place f) =
      (doc.overlay titled versioned doc').modifyOperation place f :=
  overlay_modifyOperation_of_modifyPaths h hoperation f fun hc g =>
    overlay_modifyPaths h hc (isSome_paths?_of_operation? hoperation) g

lemma overlay_setOperation (h : doc'.UniqueKeys) {c : Container} (hpaths : (doc'.paths? c).isSome)
    (path : String) (method : Method) (operation : Operation) :
    doc.overlay titled versioned
        (doc'.modifyPaths c fun paths => paths.setOperation path method operation) =
      (doc.overlay titled versioned doc').modifyPaths c fun paths =>
        paths.setOperation path method operation := by
  by_cases hc : c = .document
  · subst hc
    have htable := PathTable.overlay_setOperation h.paths doc.paths path method operation
    simp only [modifyPaths, overlay, htable]
  · exact overlay_modifyPaths h hc hpaths _

lemma overlay_modifyParameter (h : doc'.UniqueKeys) {place : ParameterPlace}
    (hplace : (doc'.parameter? place).isSome) (f : Parameter → Parameter) :
    doc.overlay titled versioned (doc'.modifyParameter f place) =
      (doc.overlay titled versioned doc').modifyParameter f place := by
  cases place with
  | component id =>
    have hmap := OrderedMap.overlay_modify h.parameters hplace f (m := doc.components.parameters)
    simp only [modifyParameter, modifyComponents, overlay, Components.overlay, hmap]
  | inline place index => exact overlay_modifyOperation h (Option.isSome_of_isSome_bind hplace) _

lemma overlay_modifyRequestBody (h : doc'.UniqueKeys) {place : RequestBodyPlace}
    (hplace : (doc'.requestBody? place).isSome) (f : RequestBody → RequestBody) :
    doc.overlay titled versioned (doc'.modifyRequestBody f place) =
      (doc.overlay titled versioned doc').modifyRequestBody f place := by
  cases place with
  | component id =>
    have hmap := OrderedMap.overlay_modify h.requestBodies hplace f
      (m := doc.components.requestBodies)
    simp only [modifyRequestBody, modifyComponents, overlay, Components.overlay, hmap]
  | inline place => exact overlay_modifyOperation h (Option.isSome_of_isSome_bind hplace) _

lemma overlay_modifyResponse (h : doc'.UniqueKeys) {place : ResponsePlace}
    (hplace : (doc'.response? place).isSome) (f : Response → Response) :
    doc.overlay titled versioned (doc'.modifyResponse f place) =
      (doc.overlay titled versioned doc').modifyResponse f place := by
  cases place with
  | component id =>
    have hmap := OrderedMap.overlay_modify h.responses hplace f (m := doc.components.responses)
    simp only [modifyResponse, modifyComponents, overlay, Components.overlay, hmap]
  | inline place status => exact overlay_modifyOperation h (Option.isSome_of_isSome_bind hplace) _

end Document

end ApiScribe.OpenApi
