import ApiScribe.Builder.Declaration
import ApiScribe.Proofs.Builder.Steps
import ApiScribe.Proofs.Builder.Transport
import ApiScribe.Proofs.Overlay

/-!
# What a declaration contributes

A declaration adds the same to every document: what it makes of an empty document, laid over the
document at hand. Its errors do not depend on the document either.
-/

namespace ApiScribe

namespace OpenApi.Document.UniqueKeys

open Builder

variable {doc : Document}

/-! ### Keys -/

lemma modifyPaths (h : doc.UniqueKeys) (c : Container) {f : Paths → Paths}
    (hf : ∀ paths : Paths, paths.keys.Nodup → (f paths).keys.Nodup) :
    (doc.modifyPaths c f).UniqueKeys := by
  induction c generalizing f with
  | document => exact { h with paths := hf _ h.paths }
  | component id =>
    exact { h with callbacks := OrderedMap.nodup_keys_modify h.callbacks id f }
  | inline container path method key ih =>
    exact ih fun _ hpaths => OrderedMap.nodup_keys_modify hpaths _ _

lemma modifyOperation (h : doc.UniqueKeys) (place : OperationPlace) (f : Operation → Operation) :
    (doc.modifyOperation place f).UniqueKeys :=
  h.modifyPaths place.container fun _ hpaths => OrderedMap.nodup_keys_modify hpaths _ _

lemma setOperation (h : doc.UniqueKeys) (c : Container) (path : String) (method : Method)
    (operation : Operation) :
    (doc.modifyPaths c fun paths => paths.setOperation path method operation).UniqueKeys :=
  h.modifyPaths c fun _ hpaths => OrderedMap.nodup_keys_insert hpaths _ _

lemma modifyParameter (h : doc.UniqueKeys) (f : Parameter → Parameter) (place : ParameterPlace) :
    (doc.modifyParameter f place).UniqueKeys := by
  cases place with
  | component id =>
    exact { h with parameters := OrderedMap.nodup_keys_modify h.parameters id f }
  | inline place index => exact h.modifyOperation place _

lemma modifyRequestBody (h : doc.UniqueKeys) (f : RequestBody → RequestBody)
    (place : RequestBodyPlace) : (doc.modifyRequestBody f place).UniqueKeys := by
  cases place with
  | component id =>
    exact { h with requestBodies := OrderedMap.nodup_keys_modify h.requestBodies id f }
  | inline place => exact h.modifyOperation place _

lemma modifyResponse (h : doc.UniqueKeys) (f : Response → Response) (place : ResponsePlace) :
    (doc.modifyResponse f place).UniqueKeys := by
  cases place with
  | component id =>
    exact { h with responses := OrderedMap.nodup_keys_modify h.responses id f }
  | inline place status => exact h.modifyOperation place _

lemma setSchema (h : doc.UniqueKeys) (schema : Schema) (place : ContentPlace) :
    (doc.setSchema schema place).UniqueKeys := by
  cases place with
  | parameter place => exact h.modifyParameter _ place
  | requestBody place => exact h.modifyRequestBody _ place
  | response place => exact h.modifyResponse _ place

lemma setExample (h : doc.UniqueKeys) (name : String) (sample : Example) (place : ContentPlace) :
    (doc.setExample name sample place).UniqueKeys := by
  cases place with
  | parameter place => exact h.modifyParameter _ place
  | requestBody place => exact h.modifyRequestBody _ place
  | response place => exact h.modifyResponse _ place

lemma registerParameter (h : doc.UniqueKeys) (id : String) (parameter : Parameter) :
    (registerParameter doc id parameter).UniqueKeys :=
  { h with parameters := OrderedMap.nodup_keys_insert h.parameters _ _ }

end OpenApi.Document.UniqueKeys

namespace Builder

open OpenApi

variable {value : Option String} {s s' : State} {a : Annotation} {outcome : Outcome}

lemma Rule.uniqueKeys (h : Rule value s a s' outcome) (hs : s.doc.UniqueKeys) :
    s'.doc.UniqueKeys := by
  cases h with
  | apiKeyScheme | httpScheme =>
    exact { hs with securitySchemes := OrderedMap.nodup_keys_insert hs.securitySchemes _ _ }
  | operation => exact hs.setOperation _ _ _ _
  | amend => exact hs.modifyOperation _ _
  | @namedParameter name location id place? =>
    cases place? with
    | none => exact hs.registerParameter _ _
    | some place => exact (hs.registerParameter _ _).modifyOperation _ _
  | parameter | unreferred => exact hs.registerParameter _ _
  | requestBody =>
    exact { hs with requestBodies := OrderedMap.nodup_keys_insert hs.requestBodies _ _ }
  | response => exact { hs with responses := OrderedMap.nodup_keys_insert hs.responses _ _ }
  | callback => exact { hs with callbacks := OrderedMap.nodup_keys_insert hs.callbacks _ _ }
  | attachSchema => exact hs.setSchema _ _
  | schema => exact { hs with schemas := OrderedMap.nodup_keys_insert hs.schemas _ _ }
  | jsonExample => exact hs.setExample _ _ _
  | id | api | version | server | serverVariable | tag | security | failed | keyless =>
    exact { hs with }

/-! ### The lower document goes unnoticed -/

section Overlay

variable {titled versioned : Bool} {doc delta : Document} {pass : Pass}

lemma isSome_paths?_overlay (h : delta.UniqueKeys) {c : Container}
    (hc : delta.ContainerPresent c) :
    ((doc.overlay titled versioned delta).paths? c).isSome = (delta.paths? c).isSome := by
  match c with
  | .document => rfl
  | .component id =>
    have hne : Container.component id ≠ .document := fun h => by cases h
    rw [Document.paths?_overlay h hne (show (delta.paths? (.component id)).isSome from hc)]
  | .inline container path method key =>
    let owner : OperationPlace := ⟨container, path, method⟩
    obtain ⟨operation, howner, -⟩ := hc
    have hsame : (doc.overlay titled versioned delta).operation? owner = delta.operation? owner :=
      Document.operation?_overlay h (by rw [howner]; rfl)
    change (Document.paths? _ (owner.callback key)).isSome =
      (delta.paths? (owner.callback key)).isSome
    rw [Document.paths?_inline, Document.paths?_inline, hsame]

lemma hasContent_overlay (h : delta.UniqueKeys) {operation? : Option OperationPlace}
    {place : ContentPlace} (hplace : delta.ContentPresent operation? place) :
    (doc.overlay titled versioned delta).hasContent place = delta.hasContent place := by
  have hoperation {place : OperationPlace} {o : Operation} (ho : delta.operation? place = some o) :
      (doc.overlay titled versioned delta).operation? place = delta.operation? place :=
    Document.operation?_overlay h (by rw [ho]; rfl)
  match place with
  | .parameter (.component id) =>
    exact congrArg Option.isSome (OrderedMap.get?_overlay_of_isSome h.parameters hplace)
  | .requestBody (.component id) =>
    exact congrArg Option.isSome (OrderedMap.get?_overlay_of_isSome h.requestBodies hplace)
  | .response (.component id) =>
    exact congrArg Option.isSome (OrderedMap.get?_overlay_of_isSome h.responses hplace)
  | .parameter (.inline place index) =>
    obtain ⟨-, o, ho, -⟩ := hplace
    simp only [Document.hasContent, Document.parameter?, hoperation ho]
  | .requestBody (.inline place) =>
    obtain ⟨-, o, ho, -⟩ := hplace
    simp only [Document.hasContent, Document.requestBody?, hoperation ho]
  | .response (.inline place status) =>
    obtain ⟨-, o, ho, -⟩ := hplace
    simp only [Document.hasContent, Document.response?, hoperation ho]

lemma modify_append {α : Type} (front back : List α) (index : Nat) (f : α → α) :
    (front ++ back).modify (front.length + index) f = front ++ back.modify index f := by
  induction front with
  | nil => rw [List.length_nil, Nat.zero_add]; rfl
  | cons x front ih =>
    rw [List.cons_append, List.length_cons, Nat.succ_add, List.modify_succ_cons, ih]
    rfl

lemma overlay_registerParameter (h : delta.UniqueKeys) (id : String) (parameter : Parameter) :
    doc.overlay titled versioned (registerParameter delta id parameter) =
      registerParameter (doc.overlay titled versioned delta) id parameter := by
  simp only [registerParameter, Document.modifyComponents, Document.overlay, Components.overlay,
    OrderedMap.overlay_insert h.parameters]

lemma unnoticed_overlay (hkeys : delta.UniqueKeys) (hcoherent : Coherent delta pass)
    (hapi : a.kind ≠ .api) (hversion : a.kind ≠ .version) :
    Unnoticed doc.servers.length (doc.overlay titled versioned) delta pass a where
  length_servers := List.length_append
  operation? place hplace := Document.operation?_overlay hkeys (hcoherent.operation place hplace)
  paths? := isSome_paths?_overlay hkeys hcoherent.container
  hasContent place hplace := hasContent_overlay hkeys (hcoherent.content place hplace)
  info _ hkind := hkind.elim (absurd · hapi) (absurd · hversion)
  server server := by simp only [Document.overlay, List.append_assoc]
  setVariable index name entry _ := by
    simp only [setVariable, Document.overlay]
    rw [modify_append]
  tag tag _ _ := by simp only [Document.overlay, List.append_assoc]
  security requirement := by simp only [Document.overlay, List.append_assoc]
  scheme name scheme _ := by
    simp only [registerScheme, Document.modifyComponents, Document.overlay, Components.overlay,
      OrderedMap.overlay_insert hkeys.securitySchemes]
  schema id json := by
    simp only [Document.modifyComponents, Document.overlay, Components.overlay,
      OrderedMap.overlay_insert hkeys.schemas]
  parameter := overlay_registerParameter hkeys
  requestBody id body := by
    simp only [registerRequestBody, Document.modifyComponents, Document.overlay, Components.overlay,
      OrderedMap.overlay_insert hkeys.requestBodies]
  response id response := by
    simp only [registerResponse, Document.modifyComponents, Document.overlay, Components.overlay,
      OrderedMap.overlay_insert hkeys.responses]
  callback id := by
    simp only [registerCallback, Document.modifyComponents, Document.overlay, Components.overlay,
      OrderedMap.overlay_insert hkeys.callbacks]
  operation path method o hpaths := Document.overlay_setOperation hkeys hpaths path method o
  amend place f _ hoperation := Document.overlay_modifyOperation hkeys hoperation f
  namedParameter place id parameter reference _ hoperation := by
    rw [← overlay_registerParameter hkeys]
    refine Document.overlay_modifyOperation (hkeys.registerParameter id parameter) ?_ _
    rw [operation?_registerParameter]
    exact hoperation
  setSchema place schema _ hcontent := by
    cases place with
    | parameter place => exact Document.overlay_modifyParameter hkeys hcontent _
    | requestBody place => exact Document.overlay_modifyRequestBody hkeys hcontent _
    | response place => exact Document.overlay_modifyResponse hkeys hcontent _
  setExample place name sample _ hcontent := by
    cases place with
    | parameter place => exact Document.overlay_modifyParameter hkeys hcontent _
    | requestBody place => exact Document.overlay_modifyRequestBody hkeys hcontent _
    | response place => exact Document.overlay_modifyResponse hkeys hcontent _

/-- An annotation that gives a title or a version makes it that of the upper document. -/
lemma attempt_overlay (hkeys : s.doc.UniqueKeys) (hcoherent : Coherent s.doc s.pass)
    (h : s.Transported doc.servers.length (doc.overlay titled versioned) s') :
    (attempt value s' a).2 = (attempt value s a).2 ∧
      (attempt value s a).1.Transported doc.servers.length
        (doc.overlay (titled || a.kind = .api) (versioned || a.kind = .version))
        (attempt value s' a).1 := by
  by_cases hapi : a.kind = .api
  · simp only [attempt, apply, hapi, applyApi, Effect.state, h.doc]
    refine ⟨trivial, ?_, h.pass⟩
    simp [Document.overlay]
  by_cases hversion : a.kind = .version
  · simp only [attempt, apply, hversion, applyVersion, Effect.state, h.doc]
    refine ⟨trivial, ?_, h.pass⟩
    simp [Document.overlay]
  · simp only [hapi, hversion, decide_false, Bool.or_false]
    exact attempt_transport h (unnoticed_overlay hkeys hcoherent hapi hversion)

lemma runPass_overlay (value : Option String) (annotations : List Annotation)
    (hkeys : s.doc.UniqueKeys) (hcoherent : Coherent s.doc s.pass)
    (h : s.Transported doc.servers.length (doc.overlay titled versioned) s') :
    (runPass value s' annotations).2 = (runPass value s annotations).2 ∧
      (runPass value s' annotations).1.doc =
        doc.overlay (titled || annotations.any (·.kind = .api))
          (versioned || annotations.any (·.kind = .version))
          (runPass value s annotations).1.doc := by
  induction annotations generalizing s s' titled versioned with
  | nil =>
    simp only [List.any_nil, Bool.or_false]
    exact ⟨rfl, h.doc⟩
  | cons a rest ih =>
    obtain ⟨houtcome, hnext⟩ := attempt_overlay hkeys hcoherent h
    obtain ⟨hfailures, hstep⟩ := step_transport houtcome hnext
    obtain ⟨hrest, hdoc⟩ :=
      ih (step_preserves Rule.uniqueKeys hkeys) (step_coherent hcoherent) hstep
    rw [runPass_cons_failures, runPass_cons_failures, runPass_cons_doc, runPass_cons_doc, hfailures,
      hrest, hdoc, List.any_cons, List.any_cons, Bool.or_assoc, Bool.or_assoc]
    exact ⟨rfl, rfl⟩

end Overlay

/-! ### Declarations -/

/-- Whether a declaration has an annotation of some kind. -/
def Declaration.mentions (d : Declaration) (kind : Annotation.Kind) : Bool :=
  d.annotations.any (·.kind = kind)

/-- What a declaration makes of an empty document is what it adds to any document, and its errors
are the same for all documents. -/
theorem addTo_eq_overlay (d : Declaration) (doc : Document) :
    d.addTo doc =
      (doc.overlay (d.mentions .api) (d.mentions .version) (d.addTo {}).1, (d.addTo {}).2) := by
  have hstart : (State.start {} d.name).Transported doc.servers.length (doc.overlay false false)
      (.start doc d.name) := ⟨doc.overlay_empty.symm, rfl, rfl, rfl⟩
  obtain ⟨hfailures, hdoc⟩ :=
    runPass_overlay d.value d.annotations .empty (.start {} d.name) hstart
  simp only [Bool.false_or] at hdoc
  simp only [Declaration.addTo, Declaration.mentions, hfailures, hdoc]

end Builder

end ApiScribe
