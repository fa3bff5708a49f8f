import ApiScribe.Proofs.Builder.Rules

/-!
# Coherence of passes

What a pass remembers by its place is still in the document: the server, the operation and the
content in scope, and the callback whose body the pass reads. Inside a callback, annotations act on
the operation that has it or on those of its own table, and both kinds of change leave the other
objects of the pass where they are. Content and callbacks of an operation may meanwhile have become
references.
-/

namespace ApiScribe

namespace Builder

/-- The places that surely survive a change in a table: the operation that has the callback, and the
top level if the table is not that of the document. -/
def Container.Spares (c : Container) (place : OperationPlace) : Prop :=
  c.owner? = some place ∨ c ≠ .document ∧ place.container = .document

/-- The places that survive a change of an operation: its own, that of the operation around its
table, and the top level. -/
def OperationPlace.Spares (place place' : OperationPlace) : Prop :=
  place' = place ∨ place.container.owner? = some place' ∨ place'.container = .document

end Builder

namespace OpenApi

open Builder

/-- What a change of an operation must leave: its parameters in place, and whatever stands under a
key, possibly replaced. -/
structure Operation.Keeps (o o' : Operation) : Prop where
  parameter (index : Nat) : ((o.parameters[index]?).bind RefOr.item?).isSome →
    ((o'.parameters[index]?).bind RefOr.item?).isSome
  requestBody : o.requestBody.isSome → o'.requestBody.isSome
  response (status : String) : (o.responses.get? status).isSome → (o'.responses.get? status).isSome
  callback (key : String) : (o.callbacks.get? key).isSome → (o'.callbacks.get? key).isSome

namespace Operation.Keeps

lemma refl (o : Operation) : o.Keeps o :=
  ⟨fun _ h => h, fun h => h, fun _ h => h, fun _ h => h⟩

lemma trans {o o' o'' : Operation} (h : o.Keeps o') (h' : o'.Keeps o'') : o.Keeps o'' where
  parameter index hindex := h'.parameter index (h.parameter index hindex)
  requestBody hbody := h'.requestBody (h.requestBody hbody)
  response status hstatus := h'.response status (h.response status hstatus)
  callback key hkey := h'.callback key (h.callback key hkey)

lemma addParameter (o : Operation) (p : RefOr Parameter) :
    o.Keeps { o with parameters := o.parameters ++ [p] } := by
  refine { refl o with parameter := fun index h => ?_ }
  have hindex : index < o.parameters.length := by
    by_contra hge
    rw [List.getElem?_eq_none (Nat.le_of_not_lt hge)] at h
    cases h
  rwa [List.getElem?_append_left hindex]

lemma modifyParameter (o : Operation) (index : Nat) (f : Parameter → Parameter) :
    o.Keeps { o with parameters := o.parameters.modify index (RefOr.mapItem f) } := by
  refine { refl o with parameter := fun index' h => ?_ }
  rw [List.getElem?_modify]
  cases hp : o.parameters[index']? with
  | none => rw [hp] at h; cases h
  | some p =>
    rw [hp] at h
    split_ifs
    · simpa using h
    · exact h

lemma withRequestBody (o : Operation) {body : Option (RefOr RequestBody)}
    (h : o.requestBody.isSome → body.isSome) : o.Keeps { o with requestBody := body } :=
  { refl o with requestBody := h }

lemma withResponses (o : Operation) {responses : OrderedMap (RefOr Response)}
    (h : ∀ status, (o.responses.get? status).isSome → (responses.get? status).isSome) :
    o.Keeps { o with responses } :=
  { refl o with response := h }

lemma withCallbacks (o : Operation) {callbacks : OrderedMap (RefOr Paths)}
    (h : ∀ key, (o.callbacks.get? key).isSome → (callbacks.get? key).isSome) :
    o.Keeps (o.withCallbacks callbacks) :=
  { refl o with callback := h }

end Operation.Keeps

namespace Document

/-- The operation at a place is still there. -/
def KeepsAt (doc doc' : Document) (place : OperationPlace) : Prop :=
  ∀ o, doc.operation? place = some o → ∃ o', doc'.operation? place = some o' ∧ o.Keeps o'

/-- No server and no component is lost, and no operation at the places in question. -/
structure Retains (P : OperationPlace → Prop) (doc doc' : Document) : Prop where
  servers : doc.servers.length ≤ doc'.servers.length
  parameters (id : String) : (doc.components.parameters.get? id).isSome →
    (doc'.components.parameters.get? id).isSome
  requestBodies (id : String) : (doc.components.requestBodies.get? id).isSome →
    (doc'.components.requestBodies.get? id).isSome
  responses (id : String) : (doc.components.responses.get? id).isSome →
    (doc'.components.responses.get? id).isSome
  callbacks (id : String) : (doc.components.callbacks.get? id).isSome →
    (doc'.components.callbacks.get? id).isSome
  operations (place : OperationPlace) : P place → doc.KeepsAt doc' place

lemma KeepsAt.of_eq {doc doc' : Document} {place : OperationPlace}
    (h : doc'.operation? place = doc.operation? place) : doc.KeepsAt doc' place :=
  fun o ho => ⟨o, h.trans ho, .refl o⟩

lemma KeepsAt.of_map {doc doc' : Document} {place : OperationPlace} {f : Operation → Operation}
    (h : doc'.operation? place = (doc.operation? place).map f)
    (hf : ∀ o : Operation, o.Keeps (f o)) : doc.KeepsAt doc' place :=
  fun o ho => ⟨f o, by rw [h, ho]; rfl, hf o⟩

namespace Retains

variable {P Q : OperationPlace → Prop} {doc doc' doc'' : Document}

lemma refl (P : OperationPlace → Prop) (doc : Document) : Retains P doc doc :=
  ⟨Nat.le_refl _, fun _ h => h, fun _ h => h, fun _ h => h, fun _ h => h,
    fun _ _ => .of_eq rfl⟩

lemma trans (h : Retains P doc doc') (h' : Retains P doc' doc'') : Retains P doc doc'' where
  servers := Nat.le_trans h.servers h'.servers
  parameters id hid := h'.parameters id (h.parameters id hid)
  requestBodies id hid := h'.requestBodies id (h.requestBodies id hid)
  responses id hid := h'.responses id (h.responses id hid)
  callbacks id hid := h'.callbacks id (h.callbacks id hid)
  operations place hplace o ho := by
    obtain ⟨o', ho', hkeeps⟩ := h.operations place hplace o ho
    obtain ⟨o'', ho'', hkeeps'⟩ := h'.operations place hplace o' ho'
    exact ⟨o'', ho'', hkeeps.trans hkeeps'⟩

lemma mono (h : Retains P doc doc') (hQ : ∀ place, Q place → P place) : Retains Q doc doc' :=
  { h with operations := fun place hplace => h.operations place (hQ place hplace) }

end Retains

/-! ### Changes of the document -/

lemma isSome_callbacks_modifyPaths (doc : Document) (c : Container) (f : Paths → Paths)
    (id : String) :
    ((doc.modifyPaths c f).components.callbacks.get? id).isSome =
      (doc.components.callbacks.get? id).isSome := by
  induction c generalizing f with
  | document => rfl
  | component id' => exact OrderedMap.isSome_get?_modify _ _ _ _
  | inline container path method key ih => exact ih _

lemma keepsAt_modifyPaths (doc : Document) {c : Container} (f : Paths → Paths)
    {place : OperationPlace} (h : c.Spares place) :
    doc.KeepsAt (doc.modifyPaths c f) place := by
  rcases h with howner | ⟨hc, htop⟩
  · cases c with
    | document => cases howner
    | component id => cases howner
    | inline container path method key =>
      cases howner
      refine .of_map (operation?_modifyPaths_callback doc ⟨container, path, method⟩ key f) ?_
      exact fun o => .withCallbacks o fun _ h => by simpa using h
  · obtain ⟨container, path, method⟩ := place
    cases htop
    obtain ⟨g, hg, hmap⟩ := operation?_modifyPaths_top hc doc f path method
    exact .of_map hmap fun o => .withCallbacks o fun key h => (hg o key).trans h

lemma retains_modifyPaths (doc : Document) (c : Container) (f : Paths → Paths) :
    Retains c.Spares doc (doc.modifyPaths c f) := by
  refine ⟨?_, ?_, ?_, ?_, ?_, fun place h => keepsAt_modifyPaths doc f h⟩
  · exact Nat.le_of_eq (congrArg (·.servers.length) (modifyPaths_frame doc c f)).symm
  · intro id h; rw [modifyPaths_frame]; exact h
  · intro id h; rw [modifyPaths_frame]; exact h
  · intro id h; rw [modifyPaths_frame]; exact h
  · intro id h; rwa [isSome_callbacks_modifyPaths]

lemma keepsAt_modifyOperation (doc : Document) {place place' : OperationPlace}
    {f : Operation → Operation} (hf : ∀ o : Operation, o.Keeps (f o))
    (h : place.Spares place') : doc.KeepsAt (doc.modifyOperation place f) place' := by
  by_cases hself : place' = place
  · subst hself
    exact .of_map (operation?_modifyOperation_self doc place' f) hf
  rcases h with hself' | howner | htop
  · exact absurd hself' hself
  · exact keepsAt_modifyPaths doc _ (.inl howner)
  · by_cases hc : place.container = .document
    · -- another operation of the document's own table
      exact .of_eq (operation?_modifyOperation_of_ne (hc.trans htop.symm) (Ne.symm hself) f)
    · exact keepsAt_modifyPaths doc _ (.inr ⟨hc, htop⟩)

lemma retains_modifyOperation (doc : Document) (place : OperationPlace)
    {f : Operation → Operation} (hf : ∀ o : Operation, o.Keeps (f o)) :
    Retains place.Spares doc (doc.modifyOperation place f) :=
  { retains_modifyPaths doc place.container _ with
    operations := fun _ h => keepsAt_modifyOperation doc hf h }

/-- A change that touches neither paths nor callbacks. -/
lemma Retains.of_paths_eq {P : OperationPlace → Prop} {doc doc' : Document}
    (hpaths : doc'.paths = doc.paths)
    (hcallbacks : doc'.components.callbacks = doc.components.callbacks)
    (hservers : doc.servers.length ≤ doc'.servers.length)
    (hparameters : ∀ id, (doc.components.parameters.get? id).isSome →
      (doc'.components.parameters.get? id).isSome)
    (hbodies : ∀ id, (doc.components.requestBodies.get? id).isSome →
      (doc'.components.requestBodies.get? id).isSome)
    (hresponses : ∀ id, (doc.components.responses.get? id).isSome →
      (doc'.components.responses.get? id).isSome) : Retains P doc doc' where
  servers := hservers
  parameters := hparameters
  requestBodies := hbodies
  responses := hresponses
  callbacks id h := by rwa [hcallbacks]
  operations place _ := .of_eq (operation?_congr hpaths hcallbacks place)

/-! ### Objects that may have been replaced -/

/-- The content at a place is there, though the body or the response of an operation may have become
a reference; content of an operation is content of the given one. -/
def ContentPresent (doc : Document) (operation? : Option OperationPlace) : ContentPlace → Prop
  | .parameter (.component id) => (doc.components.parameters.get? id).isSome
  | .parameter (.inline place index) => operation? = some place ∧
    ∃ o, doc.operation? place = some o ∧ ((o.parameters[index]?).bind RefOr.item?).isSome
  | .requestBody (.component id) => (doc.components.requestBodies.get? id).isSome
  | .requestBody (.inline place) => operation? = some place ∧
    ∃ o, doc.operation? place = some o ∧ o.requestBody.isSome
  | .response (.component id) => (doc.components.responses.get? id).isSome
  | .response (.inline place status) => operation? = some place ∧
    ∃ o, doc.operation? place = some o ∧ (o.responses.get? status).isSome

/-- The callback is there, though that of an operation may have become a reference. -/
def ContainerPresent (doc : Document) : Container → Prop
  | .document => True
  | .component id => (doc.components.callbacks.get? id).isSome
  | .inline container path method key =>
    ∃ o, doc.operation? ⟨container, path, method⟩ = some o ∧ (o.callbacks.get? key).isSome

namespace Retains

variable {P : OperationPlace → Prop} {doc doc' : Document}

lemma isSome_operation? (h : Retains P doc doc') {place : OperationPlace} (hplace : P place)
    (ho : (doc.operation? place).isSome) : (doc'.operation? place).isSome := by
  obtain ⟨o, ho⟩ := Option.isSome_iff_exists.mp ho
  obtain ⟨o', ho', -⟩ := h.operations place hplace o ho
  rw [ho']
  rfl

lemma contentPresent (h : Retains P doc doc') {operation? : Option OperationPlace}
    (hP : ∀ place, operation? = some place → P place) {content : ContentPlace}
    (hcontent : doc.ContentPresent operation? content) :
    doc'.ContentPresent operation? content := by
  match content with
  | .parameter (.component id) => exact h.parameters id hcontent
  | .requestBody (.component id) => exact h.requestBodies id hcontent
  | .response (.component id) => exact h.responses id hcontent
  | .parameter (.inline place index) =>
    obtain ⟨hplace, o, ho, hindex⟩ := hcontent
    obtain ⟨o', ho', hkeeps⟩ := h.operations place (hP place hplace) o ho
    exact ⟨hplace, o', ho', hkeeps.parameter index hindex⟩
  | .requestBody (.inline place) =>
    obtain ⟨hplace, o, ho, hbody⟩ := hcontent
    obtain ⟨o', ho', hkeeps⟩ := h.operations place (hP place hplace) o ho
    exact ⟨hplace, o', ho', hkeeps.requestBody hbody⟩
  | .response (.inline place status) =>
    obtain ⟨hplace, o, ho, hstatus⟩ := hcontent
    obtain ⟨o', ho', hkeeps⟩ := h.operations place (hP place hplace) o ho
    exact ⟨hplace, o', ho', hkeeps.response status hstatus⟩

lemma containerPresent (h : Retains P doc doc') {c : Container}
    (hP : ∀ place, c.owner? = some place → P place) (hc : doc.ContainerPresent c) :
    doc'.ContainerPresent c := by
  match c with
  | .document => trivial
  | .component id => exact h.callbacks id hc
  | .inline container path method key =>
    obtain ⟨o, ho, hkey⟩ := hc
    obtain ⟨o', ho', hkeeps⟩ := h.operations ⟨container, path, method⟩ (hP _ rfl) o ho
    exact ⟨o', ho', hkeeps.callback key hkey⟩

end Retains

end Document

end OpenApi

namespace Builder

open OpenApi

/-! ### Coherent passes -/

/-- What a pass remembers is in the document, and the operation in scope is one of the table of the
pass or the one that has it as a callback. -/
structure Coherent (doc : Document) (pass : Pass) : Prop where
  server (index : Nat) : pass.scope.server? = some index → index < doc.servers.length
  operation (place : OperationPlace) : pass.scope.operation? = some place →
    (doc.operation? place).isSome
  content (place : ContentPlace) : pass.scope.content? = some place →
    doc.ContentPresent pass.scope.operation? place
  container : doc.ContainerPresent pass.container
  near (place : OperationPlace) : pass.scope.operation? = some place →
    place.container = pass.container ∨ pass.container.owner? = some place

/-- The operations that a pass can reach. -/
def Pass.Uses (pass : Pass) (place : OperationPlace) : Prop :=
  pass.scope.operation? = some place ∨ pass.container.owner? = some place

namespace Coherent

variable {doc doc' : Document} {pass pass' : Pass}

lemma start (doc : Document) (name : String) : Coherent doc (.start name) where
  server _ h := by cases h
  operation _ h := by cases h
  content _ h := by cases h
  container := trivial
  near _ h := by cases h

lemma retain (h : Coherent doc pass) (hdoc : doc.Retains pass.Uses doc') : Coherent doc' pass where
  server index hindex := Nat.lt_of_lt_of_le (h.server index hindex) hdoc.servers
  operation place hplace := hdoc.isSome_operation? (.inl hplace) (h.operation place hplace)
  content place hplace := hdoc.contentPresent (fun _ => .inl) (h.content place hplace)
  container := hdoc.containerPresent (fun _ => .inr) h.container
  near := h.near

/-- The key for the next component does not matter. -/
lemma of_scope_eq (h : Coherent doc pass) (hscope : pass'.scope = pass.scope)
    (hcontainer : pass'.container = pass.container) : Coherent doc pass' where
  server := hscope ▸ h.server
  operation := hscope ▸ h.operation
  content := hscope ▸ h.content
  container := hcontainer ▸ h.container
  near := hscope ▸ hcontainer ▸ h.near

lemma dropId (h : Coherent doc pass) : Coherent doc pass.dropId := h.of_scope_eq rfl rfl

lemma enterServer {index : Nat} (h : Coherent doc pass) (hindex : index < doc.servers.length) :
    Coherent doc (pass.enterServer index) where
  server _ hserver := by cases hserver; exact hindex
  operation _ hplace := by cases hplace
  content _ hplace := by cases hplace
  container := h.container
  near _ hplace := by cases hplace

lemma enterOperation {path : String} {method : Method}
    (hcontainer : doc.ContainerPresent pass.container)
    (hoperation : (doc.operation? ⟨pass.container, path, method⟩).isSome) :
    Coherent doc (pass.enterOperation ⟨pass.container, path, method⟩) where
  server _ hserver := by cases hserver
  operation _ hplace := by cases hplace; exact hoperation
  content _ hplace := by cases hplace
  container := hcontainer
  near _ hplace := by cases hplace; exact .inl rfl

lemma enterContent {place : ContentPlace} (h : Coherent doc pass)
    (hcontent : doc.ContentPresent pass.scope.operation? place) :
    Coherent doc (pass.enterContent place) where
  server _ hserver := by cases hserver
  operation := h.operation
  content _ hplace := by cases hplace; exact hcontent
  container := h.container
  near := h.near

lemma inside {c : Container} (h : doc.ContainerPresent c) : Coherent doc (.inside c) where
  server index hserver := by cases c <;> cases hserver
  operation place hplace := by
    cases c with
    | document => cases hplace
    | component id => cases hplace
    | inline container path method key =>
      cases hplace
      obtain ⟨o, ho, -⟩ := h
      exact Option.isSome_iff_exists.mpr ⟨o, ho⟩
  content place hplace := by cases c <;> cases hplace
  container := h
  near place hplace := by
    cases c with
    | document => cases hplace
    | component id => cases hplace
    | inline container path method key => exact .inr hplace

/-- An operation in scope spares everything that the pass can reach. -/
lemma spares (h : Coherent doc pass) {place place' : OperationPlace}
    (hscope : pass.scope.operation? = some place) (huses : pass.Uses place') :
    place.Spares place' := by
  rcases huses with hscope' | howner
  · rw [hscope] at hscope'
    cases hscope'
    exact .inl rfl
  · rcases h.near place hscope with hcontainer | howner'
    · exact .inr (.inl (hcontainer ▸ howner))
    · rw [howner'] at howner
      cases howner
      exact .inl rfl

end Coherent

/-! ### Preservation -/

variable {value : Option String} {s s' : State} {a : Annotation} {outcome : Outcome}

lemma Amendment.keeps {place : OperationPlace} {f : Operation → Operation} {pass : Pass}
    (h : Amendment s a place f pass outcome) (o : Operation) : o.Keeps (f o) := by
  cases h with
  | tag => exact { Operation.Keeps.refl o with }
  | security => exact { Operation.Keeps.refl o with }
  | parameterReference => exact .addParameter o _
  | parameter => exact .addParameter o _
  | requestBodyReference => exact .withRequestBody o fun _ => rfl
  | requestBody => exact .withRequestBody o fun _ => rfl
  | responseReference => exact .withResponses o fun _ h => OrderedMap.isSome_get?_insert _ h
  | response => exact .withResponses o fun _ h => OrderedMap.isSome_get?_insert _ h
  | callbackReference => exact .withCallbacks o fun _ h => OrderedMap.isSome_get?_insert _ h
  | callback => exact .withCallbacks o fun _ h => OrderedMap.isSome_get?_insert _ h

/-- Content that an amendment enters has just been put there. -/
lemma Amendment.coherent {place : OperationPlace} {f : Operation → Operation} {pass : Pass}
    (h : Amendment s a place f pass outcome) (hs : Coherent s.doc s.pass)
    (hscope : s.pass.scope.operation? = some place) :
    Coherent (s.doc.modifyOperation place f) pass := by
  have hretains := Document.retains_modifyOperation s.doc place h.keeps
  have hsame : Coherent (s.doc.modifyOperation place f) s.pass :=
    hs.retain (hretains.mono fun place' => hs.spares hscope)
  obtain ⟨o, ho⟩ := Option.isSome_iff_exists.mp (hs.operation place hscope)
  have ho' := Document.operation?_modifyOperation_self s.doc place f
  rw [ho] at ho'
  cases h with
  | tag => exact hsame
  | security => exact hsame
  | parameterReference => exact hsame
  | parameter hkind href hheader hoperation =>
    rw [ho] at hoperation
    cases hoperation
    refine hsame.enterContent ⟨hscope, _, ho', ?_⟩
    simp [RefOr.item?]
  | requestBodyReference => exact hsame
  | requestBody => exact hsame.enterContent ⟨hscope, _, ho', rfl⟩
  | responseReference => exact hsame
  | response => exact hsame.enterContent ⟨hscope, _, ho', by simp⟩
  | callbackReference => exact hsame
  | callback => exact hsame

lemma Amendment.containerPresent {place : OperationPlace} {f : Operation → Operation} {pass : Pass}
    {c : Container} (h : Amendment s a place f pass (.entered c))
    (hoperation : (s.doc.operation? place).isSome) :
    (s.doc.modifyOperation place f).ContainerPresent c := by
  obtain ⟨o, ho⟩ := Option.isSome_iff_exists.mp hoperation
  have ho' := Document.operation?_modifyOperation_self s.doc place f
  rw [ho] at ho'
  cases h with
  | callback => exact ⟨_, ho', by simp⟩

/-! ### Registration -/

section Registration

variable (P : OperationPlace → Prop) (doc : Document) (id : String)

lemma retains_registerScheme (scheme : SecurityScheme) :
    doc.Retains P (registerScheme doc id scheme) :=
  .of_paths_eq rfl rfl (Nat.le_refl _) (fun _ h => h) (fun _ h => h) (fun _ h => h)

lemma retains_registerParameter (parameter : Parameter) :
    doc.Retains P (registerParameter doc id parameter) :=
  .of_paths_eq rfl rfl (Nat.le_refl _) (fun _ h => OrderedMap.isSome_get?_insert _ h)
    (fun _ h => h) (fun _ h => h)

lemma retains_registerRequestBody (body : RequestBody) :
    doc.Retains P (registerRequestBody doc id body) :=
  .of_paths_eq rfl rfl (Nat.le_refl _) (fun _ h => h)
    (fun _ h => OrderedMap.isSome_get?_insert _ h) (fun _ h => h)

lemma retains_registerResponse (response : Response) :
    doc.Retains P (registerResponse doc id response) :=
  .of_paths_eq rfl rfl (Nat.le_refl _) (fun _ h => h) (fun _ h => h)
    (fun _ h => OrderedMap.isSome_get?_insert _ h)

/-- A callback component that is registered again loses its operations, the top level does not. -/
lemma retains_registerCallback :
    doc.Retains (fun place => place.container = .document) (registerCallback doc id) where
  servers := Nat.le_refl _
  parameters _ h := h
  requestBodies _ h := h
  responses _ h := h
  callbacks _ h := OrderedMap.isSome_get?_insert _ h
  operations place hplace := by
    obtain ⟨container, path, method⟩ := place
    cases hplace
    exact .of_eq rfl

end Registration

/-! ### Schemas and examples -/

/-- The operation that content belongs to. -/
def ContentPlace.operation? : ContentPlace → Option OperationPlace
  | .parameter (.inline place _) => some place
  | .requestBody (.inline place) => some place
  | .response (.inline place _) => some place
  | _ => none

section Content

variable {P : OperationPlace → Prop} (doc : Document)

lemma retains_modifyParameter (f : Parameter → Parameter) {place : ParameterPlace}
    (hP : ∀ operation, (ContentPlace.parameter place).operation? = some operation →
      ∀ place', P place' → operation.Spares place') :
    doc.Retains P (doc.modifyParameter f place) := by
  cases place with
  | component id =>
    exact .of_paths_eq rfl rfl (Nat.le_refl _) (fun _ h => by simpa [Document.modifyParameter,
      Document.modifyComponents] using h) (fun _ h => h) (fun _ h => h)
  | inline operation index =>
    exact (doc.retains_modifyOperation operation fun o => .modifyParameter o index f).mono
      (hP operation rfl)

lemma retains_modifyRequestBody (f : RequestBody → RequestBody) {place : RequestBodyPlace}
    (hP : ∀ operation, (ContentPlace.requestBody place).operation? = some operation →
      ∀ place', P place' → operation.Spares place') :
    doc.Retains P (doc.modifyRequestBody f place) := by
  cases place with
  | component id =>
    exact .of_paths_eq rfl rfl (Nat.le_refl _) (fun _ h => h) (fun _ h => by simpa
      [Document.modifyRequestBody, Document.modifyComponents] using h) (fun _ h => h)
  | inline operation =>
    have hkeeps (o : Operation) :
        o.Keeps { o with requestBody := o.requestBody.map (RefOr.mapItem f) } :=
      .withRequestBody o fun h => by simpa using h
    exact (doc.retains_modifyOperation operation hkeeps).mono (hP operation rfl)

lemma retains_modifyResponse (f : Response → Response) {place : ResponsePlace}
    (hP : ∀ operation, (ContentPlace.response place).operation? = some operation →
      ∀ place', P place' → operation.Spares place') :
    doc.Retains P (doc.modifyResponse f place) := by
  cases place with
  | component id =>
    exact .of_paths_eq rfl rfl (Nat.le_refl _) (fun _ h => h) (fun _ h => h) (fun _ h => by simpa
      [Document.modifyResponse, Document.modifyComponents] using h)
  | inline operation status =>
    have hkeeps (o : Operation) :
        o.Keeps { o with responses := o.responses.modify status (RefOr.mapItem f) } :=
      .withResponses o fun _ h => by simpa using h
    exact (doc.retains_modifyOperation operation hkeeps).mono (hP operation rfl)

lemma retains_setSchema (schema : Schema) {place : ContentPlace}
    (hP : ∀ operation, place.operation? = some operation →
      ∀ place', P place' → operation.Spares place') :
    doc.Retains P (doc.setSchema schema place) := by
  cases place with
  | parameter place => exact retains_modifyParameter doc _ hP
  | requestBody place => exact retains_modifyRequestBody doc _ hP
  | response place => exact retains_modifyResponse doc _ hP

lemma retains_setExample (name : String) (sample : Example) {place : ContentPlace}
    (hP : ∀ operation, place.operation? = some operation →
      ∀ place', P place' → operation.Spares place') :
    doc.Retains P (doc.setExample name sample place) := by
  cases place with
  | parameter place => exact retains_modifyParameter doc _ hP
  | requestBody place => exact retains_modifyRequestBody doc _ hP
  | response place => exact retains_modifyResponse doc _ hP

end Content

/-- Content of an operation is content of the operation in scope. -/
lemma Coherent.operation?_content {doc : Document} {pass : Pass} (h : Coherent doc pass)
    {place : ContentPlace} (hplace : pass.scope.content? = some place) {operation : OperationPlace}
    (hoperation : place.operation? = some operation) :
    pass.scope.operation? = some operation := by
  have hcontent := h.content place hplace
  match place with
  | .parameter (.inline _ _) => cases hoperation; exact hcontent.1
  | .requestBody (.inline _) => cases hoperation; exact hcontent.1
  | .response (.inline _ _) => cases hoperation; exact hcontent.1
  | .parameter (.component _) => cases hoperation
  | .requestBody (.component _) => cases hoperation
  | .response (.component _) => cases hoperation

/-! ### Steps -/

/-- What an annotation leaves: all places that neither the operation in scope, nor a new operation
of the table, nor a new callback component can touch. -/
lemma Rule.retains {P : OperationPlace → Prop} (h : Rule value s a s' outcome)
    (hs : Coherent s.doc s.pass)
    (hscope : ∀ place, s.pass.scope.operation? = some place → ∀ p, P p → place.Spares p)
    (hcontainer : a.kind = .operation → ∀ p, P p → s.pass.container.Spares p)
    (hcallback : a.kind = .callback → s.pass.scope.operation? = none →
      ∀ p, P p → p.container = .document) :
    s.doc.Retains P s'.doc := by
  have hcontent {place : ContentPlace} (hplace : s.pass.scope.content? = some place)
      (operation : OperationPlace) (hoperation : place.operation? = some operation) :=
    hscope operation (hs.operation?_content hplace hoperation)
  cases h with
  | id | failed | keyless => exact .refl P s.doc
  | api | version | tag | security | schema =>
    exact .of_paths_eq rfl rfl (Nat.le_refl _) (fun _ h => h) (fun _ h => h) (fun _ h => h)
  | server | serverVariable =>
    refine .of_paths_eq rfl rfl ?_ (fun _ h => h) (fun _ h => h) (fun _ h => h)
    simp [setVariable]
  | apiKeyScheme | httpScheme => exact retains_registerScheme P s.doc _ _
  | operation hkind => exact (s.doc.retains_modifyPaths s.pass.container _).mono (hcontainer hkind)
  | @amend place f pass outcome hplace hoperation h =>
    exact (s.doc.retains_modifyOperation place h.keeps).mono (hscope place hplace)
  | @namedParameter name location id place? hkind href hheader hplace =>
    refine (retains_registerParameter P s.doc id (.declare name location a.bodyText)).trans ?_
    cases place? with
    | none => exact .refl P _
    | some place =>
      have hkeeps (o : Operation) := Operation.Keeps.addParameter o (parameterReference id)
      exact (Document.retains_modifyOperation _ place hkeeps).mono (hscope place hplace)
  | parameter | unreferred => exact retains_registerParameter P s.doc _ _
  | requestBody => exact retains_registerRequestBody P s.doc _ _
  | response => exact retains_registerResponse P s.doc _ _
  | callback hkind hplace => exact (retains_registerCallback s.doc _).mono (hcallback hkind hplace)
  | attachSchema hkind hread hplace => exact retains_setSchema s.doc _ (hcontent hplace)
  | jsonExample hkind hread hplace => exact retains_setExample s.doc _ _ (hcontent hplace)

/-- An annotation that stays in its pass leaves it coherent. -/
lemma Rule.coherent (h : Rule value s a s' outcome) (hs : Coherent s.doc s.pass)
    (hstay : ∀ c, outcome ≠ .entered c) : Coherent s'.doc s'.pass := by
  have hsame (hoperation : a.kind ≠ .operation) (hcallback : a.kind ≠ .callback) :
      Coherent s'.doc s.pass :=
    hs.retain (h.retains hs (fun _ hscope _ => hs.spares hscope)
      (fun hkind => absurd hkind hoperation) (fun hkind => absurd hkind hcallback))
  cases h with
  | id => exact hs.of_scope_eq rfl rfl
  | api hkind | version hkind | serverVariable hkind | tag hkind | security hkind
  | apiKeyScheme hkind | httpScheme hkind | attachSchema hkind | schema hkind
  | jsonExample hkind => exact hsame (by simp [hkind]) (by simp [hkind])
  | server hkind => exact (hsame (by simp [hkind]) (by simp [hkind])).enterServer (by simp)
  | operation hkind hheader hpaths =>
    refine .enterOperation ?_ ?_
    · exact (Document.retains_modifyPaths _ _ _).containerPresent (fun _ => .inl) hs.container
    · rw [Document.operation?_setOperation_self hpaths]
      rfl
  | amend hscope hoperation h => exact h.coherent hs hscope
  | @namedParameter name location id place? hkind =>
    refine (hsame (by simp [hkind]) (by simp [hkind])).enterContent ?_
    have hid : ((registerParameter s.doc id (.declare name location
        a.bodyText)).components.parameters.get? id).isSome := by
      simp [registerParameter, Document.modifyComponents]
    cases place? with
    | none => exact hid
    | some place => exact (Document.retains_modifyPaths _ _ _).parameters id hid
  | parameter hkind =>
    refine (hsame (by simp [hkind]) (by simp [hkind])).dropId.enterContent ?_
    simp [Document.ContentPresent, registerParameter, Document.modifyComponents]
  | requestBody hkind =>
    refine (hsame (by simp [hkind]) (by simp [hkind])).dropId.enterContent ?_
    simp [Document.ContentPresent, registerRequestBody, Document.modifyComponents]
  | response hkind =>
    refine (hsame (by simp [hkind]) (by simp [hkind])).dropId.enterContent ?_
    simp [Document.ContentPresent, registerResponse, Document.modifyComponents]
  | callback => exact absurd rfl (hstay _)
  | failed => exact hs
  | keyless => exact hs.dropId
  | unreferred => exact hs.retain (retains_registerParameter _ _ _ _)

/-- The pass of a callback that is entered is coherent. -/
lemma Rule.coherent_inside {c : Container} (h : Rule value s a s' (.entered c)) :
    Coherent s'.doc (.inside c) := by
  cases h with
  | amend hscope hoperation h => exact .inside (h.containerPresent hoperation)
  | callback =>
    refine .inside ?_
    simp [Document.ContainerPresent, registerCallback, Document.modifyComponents]

end Builder

end ApiScribe
