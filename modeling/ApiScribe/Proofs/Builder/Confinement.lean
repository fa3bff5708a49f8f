import ApiScribe.Proofs.Builder.Flattening
import ApiScribe.Proofs.Builder.Scope

/-!
# Bodies of callbacks stay inside

All annotations after a callback that is entered are its body. Whatever they do, and whatever
callbacks they enter in turn, they leave the top level alone but for the operation that has the
callback, of which they leave the summary and the description. Their operations go into the tables
of callbacks.
-/

namespace ApiScribe

namespace Builder

/-! ### Around a callback -/

/-- The top-level operation around a callback, which is none for a callback component and for what
is inside one. -/
def Container.outer? : Container → Option OperationPlace
  | document => none
  | component _ => none
  | inline container path method _ =>
    if container = .document then some ⟨container, path, method⟩ else container.outer?

/-- The top-level operation that an operation is or is inside of. -/
def OperationPlace.outer? (place : OperationPlace) : Option OperationPlace :=
  if place.container = .document then some place else place.container.outer?

lemma OperationPlace.outer?_callback (place : OperationPlace) (key : String) :
    (place.callback key).outer? = place.outer? :=
  rfl

/-- In the body of a callback, the operation in scope is not outside of what is around the callback.
-/
lemma Coherent.outer?_scope {doc : OpenApi.Document} {pass : Pass} (h : Coherent doc pass)
    (hc : pass.container ≠ .document) {place : OperationPlace}
    (hscope : pass.scope.operation? = some place) : place.outer? = pass.container.outer? := by
  rcases h.near place hscope with hcontainer | howner
  · rw [OperationPlace.outer?, hcontainer, if_neg hc]
  · cases hcontainer : pass.container with
    | document => exact absurd hcontainer hc
    | component id =>
      rw [hcontainer] at howner
      cases howner
    | inline container path method key =>
      rw [hcontainer] at howner
      cases howner
      rfl

end Builder

namespace OpenApi.Document

open Builder

/-! ### The top level -/

/-- What is left of the top level when only the operation at the given place may change: the paths
and their methods, all other operations, and the texts that introduce this one. -/
structure KeepsTop (top : Option OperationPlace) (doc doc' : Document) : Prop where
  keys : doc'.paths.keys = doc.paths.keys
  slots (path : String) (method : Method) :
    (doc'.paths.operation? path method).isSome = (doc.paths.operation? path method).isSome
  others (path : String) (method : Method) : top ≠ some ⟨.document, path, method⟩ →
    doc'.paths.operation? path method = doc.paths.operation? path method
  heading (path : String) (method : Method) (o o' : Operation) :
    doc.paths.operation? path method = some o → doc'.paths.operation? path method = some o' →
    o'.summary = o.summary ∧ o'.description = o.description
  untouched : top = none → doc'.paths = doc.paths

namespace KeepsTop

variable {top : Option OperationPlace} {doc doc' doc'' : Document} {f : Operation → Operation}

lemma of_paths_eq (h : doc'.paths = doc.paths) : KeepsTop top doc doc' where
  keys := by rw [h]
  slots path method := by rw [h]
  others path method _ := by rw [h]
  heading path method o o' ho ho' := by
    rw [h, ho] at ho'
    cases ho'
    exact ⟨rfl, rfl⟩
  untouched _ := h

lemma trans (h : KeepsTop top doc doc') (h' : KeepsTop top doc' doc'') :
    KeepsTop top doc doc'' where
  keys := h'.keys.trans h.keys
  slots path method := (h'.slots path method).trans (h.slots path method)
  others path method htop := (h'.others path method htop).trans (h.others path method htop)
  heading path method o o'' ho ho'' := by
    have hsome : (doc'.paths.operation? path method).isSome := by rw [h.slots, ho]; rfl
    obtain ⟨o', ho'⟩ := Option.isSome_iff_exists.mp hsome
    obtain ⟨hsummary, hdescription⟩ := h.heading path method o o' ho ho'
    obtain ⟨hsummary', hdescription'⟩ := h'.heading path method o' o'' ho' ho''
    exact ⟨hsummary'.trans hsummary, hdescription'.trans hdescription⟩
  untouched htop := (h'.untouched htop).trans (h.untouched htop)

lemma of_none (h : KeepsTop none doc doc') : KeepsTop top doc doc' :=
  of_paths_eq (h.untouched rfl)

lemma of_modifyOperation {path : String} {method : Method}
    (h : doc'.paths = doc.paths.modifyOperation path method f)
    (hf : ∀ o, (f o).summary = o.summary ∧ (f o).description = o.description) :
    KeepsTop (some ⟨.document, path, method⟩) doc doc' where
  keys := by
    rw [h]
    exact OrderedMap.keys_modify _ _ _
  slots path' method' := by
    rw [h, PathTable.operation?_modifyOperation]
    split_ifs
    · exact Option.isSome_map
    · rfl
  others path' method' hne := by
    have hother : ¬(path = path' ∧ method = method') := by
      rintro ⟨rfl, rfl⟩
      exact hne rfl
    rw [h, PathTable.operation?_modifyOperation_of_ne hother]
  heading path' method' o o' ho ho' := by
    rw [h, PathTable.operation?_modifyOperation, ho] at ho'
    split_ifs at ho'
    · cases ho'
      exact hf o
    · cases ho'
      exact ⟨rfl, rfl⟩
  untouched htop := by cases htop

/-- A change in a callback's table concerns the top-level operation around it at most. -/
lemma modifyPaths (doc : Document) {c : Container} (hc : c ≠ .document) (f : Paths → Paths) :
    KeepsTop c.outer? doc (doc.modifyPaths c f) := by
  induction c generalizing f with
  | document => exact absurd rfl hc
  | component id => exact of_paths_eq rfl
  | inline container path method key ih =>
    by_cases hcontainer : container = .document
    · subst hcontainer
      exact of_modifyOperation rfl fun _ => ⟨rfl, rfl⟩
    · rw [Container.outer?, if_neg hcontainer]
      exact ih hcontainer _

lemma modifyOperation (doc : Document) (place : OperationPlace)
    (hf : ∀ o, (f o).summary = o.summary ∧ (f o).description = o.description) :
    KeepsTop place.outer? doc (doc.modifyOperation place f) := by
  obtain ⟨container, path, method⟩ := place
  by_cases hcontainer : container = .document
  · subst hcontainer
    exact of_modifyOperation rfl hf
  · rw [OperationPlace.outer?, if_neg hcontainer]
    exact modifyPaths doc hcontainer _

section Content

variable (doc : Document)

lemma modifyParameter (f : Parameter → Parameter) {place : ParameterPlace}
    (h : ∀ operation ∈ (ContentPlace.parameter place).operation?, operation.outer? = top) :
    KeepsTop top doc (doc.modifyParameter f place) := by
  cases place with
  | component id => exact of_paths_eq rfl
  | inline operation index =>
    rw [← h operation rfl]
    exact modifyOperation doc operation fun _ => ⟨rfl, rfl⟩

lemma modifyRequestBody (f : RequestBody → RequestBody) {place : RequestBodyPlace}
    (h : ∀ operation ∈ (ContentPlace.requestBody place).operation?, operation.outer? = top) :
    KeepsTop top doc (doc.modifyRequestBody f place) := by
  cases place with
  | component id => exact of_paths_eq rfl
  | inline operation =>
    rw [← h operation rfl]
    exact modifyOperation doc operation fun _ => ⟨rfl, rfl⟩

lemma modifyResponse (f : Response → Response) {place : ResponsePlace}
    (h : ∀ operation ∈ (ContentPlace.response place).operation?, operation.outer? = top) :
    KeepsTop top doc (doc.modifyResponse f place) := by
  cases place with
  | component id => exact of_paths_eq rfl
  | inline operation status =>
    rw [← h operation rfl]
    exact modifyOperation doc operation fun _ => ⟨rfl, rfl⟩

lemma setSchema (schema : Schema) {place : ContentPlace}
    (h : ∀ operation ∈ place.operation?, operation.outer? = top) :
    KeepsTop top doc (doc.setSchema schema place) := by
  cases place with
  | parameter place => exact modifyParameter doc _ h
  | requestBody place => exact modifyRequestBody doc _ h
  | response place => exact modifyResponse doc _ h

lemma setExample (name : String) (sample : Example) {place : ContentPlace}
    (h : ∀ operation ∈ place.operation?, operation.outer? = top) :
    KeepsTop top doc (doc.setExample name sample place) := by
  cases place with
  | parameter place => exact modifyParameter doc _ h
  | requestBody place => exact modifyRequestBody doc _ h
  | response place => exact modifyResponse doc _ h

end Content

end KeepsTop

end OpenApi.Document

namespace Builder

open OpenApi

variable {value : Option String} {s s' : State} {a c : Annotation} {outcome : Outcome}
  {annotations xs ys : List Annotation} {top : Option OperationPlace}

/-! ### Steps -/

lemma Rule.of_outcome (h : (attempt value s a).2 = outcome) :
    Rule value s a (attempt value s a).1 outcome :=
  Rule.of_attempt (Prod.ext rfl h)

lemma Amendment.heading {place : OperationPlace} {f : Operation → Operation} {pass : Pass}
    (h : Amendment s a place f pass outcome) (o : Operation) :
    (f o).summary = o.summary ∧ (f o).description = o.description := by
  cases h <;> exact ⟨rfl, rfl⟩

/-- An annotation in the body of a callback changes nothing of the top level but what is around the
callback. -/
lemma Rule.keepsTop (h : Rule value s a s' outcome) (hs : Coherent s.doc s.pass)
    (hc : s.pass.container ≠ .document) :
    s.doc.KeepsTop s.pass.container.outer? s'.doc := by
  have hcontent {place : ContentPlace} (hplace : s.pass.scope.content? = some place)
      (operation : OperationPlace) (hoperation : operation ∈ place.operation?) :
      operation.outer? = s.pass.container.outer? :=
    hs.outer?_scope hc (hs.operation?_content hplace hoperation)
  cases h with
  | operation => exact .modifyPaths s.doc hc _
  | amend hscope hoperation h =>
    rw [← hs.outer?_scope hc hscope]
    exact .modifyOperation s.doc _ h.heading
  | @namedParameter name location id place? hkind href hheader hscope =>
    cases place? with
    | none => exact .of_paths_eq rfl
    | some place =>
      rw [← hs.outer?_scope hc hscope]
      have hregister : s.doc.KeepsTop place.outer?
          (registerParameter s.doc id (.declare name location a.bodyText)) := .of_paths_eq rfl
      exact hregister.trans (.modifyOperation _ place fun _ => ⟨rfl, rfl⟩)
  | attachSchema hkind hread hscope => exact .setSchema s.doc _ (hcontent hscope)
  | jsonExample hkind hread hscope => exact .setExample s.doc _ _ (hcontent hscope)
  | _ => exact .of_paths_eq rfl

/-- A callback that is entered in the body of another one is inside the same operation, or a
component. -/
lemma Rule.outer?_entered {callback : Container} (h : Rule value s a s' (.entered callback))
    (hs : Coherent s.doc s.pass) (hc : s.pass.container ≠ .document) :
    callback.outer? = none ∨ callback.outer? = s.pass.container.outer? := by
  cases h with
  | amend hscope hoperation h =>
    cases h
    exact .inr (hs.outer?_scope hc hscope)
  | callback => exact .inl rfl

/-- The pass reads the body of a callback that is inside the given operation or a component. -/
structure Confined (top : Option OperationPlace) (pass : Pass) : Prop where
  container : pass.container ≠ .document
  outer : pass.container.outer? = none ∨ pass.container.outer? = top

lemma Rule.confined (h : Rule value s a s' outcome) (hs : Confined top s.pass) :
    Confined top s'.pass := by
  have hsame := h.container_eq
  exact ⟨hsame ▸ hs.container, hsame ▸ hs.outer⟩

lemma Rule.confined_inside {callback : Container} (h : Rule value s a s' (.entered callback))
    (hs : Coherent s.doc s.pass) (hconfined : Confined top s.pass) :
    Confined top (.inside callback) where
  container := h.entered_ne_document
  outer := by
    rcases h.outer?_entered hs hconfined.container with hnone | hsame
    · exact .inl hnone
    · have houter := hconfined.outer
      rwa [← hsame] at houter

/-- What one annotation in the body of a callback keeps. -/
lemma step_confined (hs : Coherent s.doc s.pass) (hconfined : Confined top s.pass)
    (value : Option String) (a : Annotation) :
    Confined top (step value s a).1.pass ∧ s.doc.KeepsTop top (step value s a).1.doc := by
  have htop {s' : State} {outcome : Outcome} (h : Rule value s a s' outcome) :
      s.doc.KeepsTop top s'.doc := by
    have hkeeps := h.keepsTop hs hconfined.container
    rcases hconfined.outer with hnone | hsame
    · exact (hnone ▸ hkeeps).of_none
    · exact hsame ▸ hkeeps
  rw [step]
  split
  next next hattempt =>
    have hrule := Rule.of_attempt hattempt
    exact ⟨hrule.confined hconfined, htop hrule⟩
  next next error hattempt =>
    have hrule := Rule.of_attempt hattempt
    exact ⟨hrule.confined hconfined, htop hrule⟩
  next next callback hattempt =>
    have hrule := Rule.of_attempt hattempt
    have hkeeps : s.doc.KeepsTop top next.doc := htop hrule
    exact ⟨hrule.confined_inside hs hconfined, hkeeps⟩

/-- What the whole body of a callback keeps, that of callbacks inside it included. -/
lemma run_confined (hs : Coherent s.doc s.pass) (hconfined : Confined top s.pass)
    (value : Option String) (annotations : List Annotation) :
    Confined top (run value s annotations).1.pass ∧
      s.doc.KeepsTop top (run value s annotations).1.doc := by
  induction annotations generalizing s with
  | nil => exact ⟨hconfined, .of_paths_eq rfl⟩
  | cons a rest ih =>
    obtain ⟨hnext, hstep⟩ := step_confined hs hconfined value a
    obtain ⟨hlast, hrest⟩ := ih (step_coherent hs) hnext
    exact ⟨hlast, hstep.trans hrest⟩

lemma run_coherent (hs : Coherent s.doc s.pass) (annotations : List Annotation) :
    Coherent (run value s annotations).1.doc (run value s annotations).1.pass := by
  induction annotations generalizing s with
  | nil => exact hs
  | cons a rest ih => exact ih (step_coherent hs)

/-! ### The first callback -/

/-- An annotation that enters no callback stays in its pass. -/
lemma step_of_stays (h : ∀ callback, (attempt value s a).2 ≠ .entered callback) :
    (step value s a).1 = (attempt value s a).1 := by
  rw [step]
  split
  next hattempt => rw [hattempt]
  next hattempt => rw [hattempt]
  next callback hattempt => exact absurd (by rw [hattempt]) (h callback)

/-- Without a callback that is entered, the pass stays at its table. -/
lemma container_run (h : ∀ entry ∈ trace value s xs, ∀ callback, entry.2 ≠ .entered callback) :
    (run value s xs).1.pass.container = s.pass.container := by
  induction xs generalizing s with
  | nil => rfl
  | cons a rest ih =>
    obtain ⟨ha, hrest⟩ := List.forall_mem_cons.mp h
    have hcontainer : (attempt value s a).1.pass.container = s.pass.container :=
      (Rule.of_outcome rfl).container_eq
    rw [run_cons, ih hrest, step_of_stays ha, hcontainer]

lemma step_of_entered {callback : Container} (h : (attempt value s a).2 = .entered callback) :
    (step value s a).1 = { (attempt value s a).1 with pass := .inside callback } := by
  rw [step]
  split
  next hattempt => rw [hattempt] at h; cases h
  next hattempt => rw [hattempt] at h; cases h
  next hattempt =>
    rw [hattempt] at h
    cases h
    rw [hattempt]

/-- A callback that is entered from the top level belongs to a top-level operation, or is a
component. -/
lemma Rule.owner?_entered {callback : Container} (h : Rule value s a s' (.entered callback))
    (hs : Coherent s.doc s.pass) (hc : s.pass.container = .document) :
    callback.outer? = callback.owner? ∧
      ∀ place ∈ callback.owner?, place.container = .document := by
  cases h with
  | @amend place f pass outcome hscope hoperation h =>
    have htop : place.container = .document := hs.uses_top hc (.inl hscope)
    cases h
    refine ⟨?_, fun place' hplace => ?_⟩
    · rw [OperationPlace.outer?_callback, OperationPlace.outer?, if_pos htop]
      rfl
    · cases hplace
      exact htop
  | callback => exact ⟨rfl, fun _ hplace => by cases hplace⟩

/-- An operation is put into the table of the pass. -/
lemma Rule.paths?_operation (h : Rule value s a s' .done) (hkind : a.kind = .operation) :
    ∃ paths path method summary,
      operationHeader a.argument = .ok (method, path, summary) ∧
      s.doc.paths? s.pass.container = some paths ∧
      s'.doc.paths? s.pass.container =
        some (paths.setOperation path method { summary, description := a.bodyText }) := by
  cases h with
  | @operation method path summary _ hheader hpaths =>
    obtain ⟨paths, hpaths⟩ := Option.isSome_iff_exists.mp hpaths
    refine ⟨paths, path, method, summary, hheader, hpaths, ?_⟩
    rw [Document.paths?_modifyPaths_self, hpaths]
    rfl
  | amend _ _ h =>
    cases h with
    | _ hkind' => rw [hkind] at hkind'; cases hkind'
  | _ hkind' => rw [hkind] at hkind'; cases hkind'

/-- The body of the first callback that a declaration enters leaves all top-level paths with their
methods and all top-level operations as they are, except that it may change the operation that has
the callback, though not its summary and description. The body of a callback component leaves the
top-level paths as a whole. Every operation that the body declares goes into the table of a
callback, however deep. -/
theorem runPass_body_confined (value : Option String) (doc : Document) (name : String)
    {callback : Container}
    (hfirst : ∀ entry ∈ trace value (.start doc name) xs, ∀ k, entry.2 ≠ .entered k)
    (hc : (attempt value (run value (.start doc name) xs).1 c).2 = .entered callback)
    (ys : List Annotation) :
    let start := State.start doc name
    (∀ place ∈ callback.owner?, place.container = .document) ∧
    (runPass value start (xs ++ [c])).1.doc.KeepsTop callback.owner?
      (runPass value start (xs ++ c :: ys)).1.doc ∧
    ∀ us a vs, ys = us ++ a :: vs → a.kind = .operation →
      let s := (run value start (xs ++ c :: us)).1
      (attempt value s a).2 = .done →
        s.pass.container ≠ .document ∧
        ∃ paths path method summary,
          operationHeader a.argument = .ok (method, path, summary) ∧
          s.doc.paths? s.pass.container = some paths ∧
          (attempt value s a).1.doc.paths? s.pass.container =
            some (paths.setOperation path method { summary, description := a.bodyText }) := by
  intro start
  generalize hs : (run value start xs).1 = s at hc
  have hcoherent : Coherent s.doc s.pass := hs ▸ run_coherent (.start doc name) xs
  have htop : s.pass.container = .document := hs ▸ container_run hfirst
  have hrule := Rule.of_outcome hc
  obtain ⟨houter, howner⟩ := hrule.owner?_entered hcoherent htop
  have hconfined : Confined callback.owner? (.inside callback) :=
    ⟨hrule.entered_ne_document, .inr houter⟩
  -- the body is a run from where the callback has been entered
  let entered : State := { (attempt value s c).1 with pass := .inside callback }
  have hbody (zs : List Annotation) :
      (run value start (xs ++ c :: zs)).1 = (run value entered zs).1 := by
    rw [run_append, hs, run_cons, step_of_entered hc]
  have hrun (zs : List Annotation) :=
    @run_confined entered _ hrule.coherent_inside hconfined value zs
  refine ⟨howner, ?_, fun us a vs _ hkind hdone => ⟨?_, ?_⟩⟩
  · rw [runPass_doc, runPass_doc, hbody, hbody]
    exact (hrun ys).2
  · rw [hbody]
    exact (hrun us).1.container
  · exact (Rule.of_outcome hdone).paths?_operation hkind

/-- An operation with a callback. -/
def subscribe : Annotation := { kind := .operation, argument := "POST /subscriptions - Subscribe" }

def onEvent : Annotation := { kind := .callback, argument := "onEvent" }

/-- A body that amends the operation around it, declares one of its own and enters a callback of
that one in turn. -/
def eventBody : List Annotation :=
  [{ kind := .tag, argument := "Events" },
    { kind := .operation, argument := "POST /event - Event" },
    { kind := .callback, argument := "onReply" },
    { kind := .operation, argument := "GET /ok - Ok" }]

/-- The body of the callback changes no operation of the document but the one it belongs to. -/
theorem eventBody_confined :
    let start := State.start {} ""
    (attempt none (run none start [subscribe]).1 onEvent).2 =
      .entered (.inline .document "/subscriptions" .post "onEvent") ∧
    (runPass none start [subscribe, onEvent]).1.doc.KeepsTop
      (some ⟨.document, "/subscriptions", .post⟩)
      (runPass none start (subscribe :: onEvent :: eventBody)).1.doc ∧
    (run none start (subscribe :: onEvent :: eventBody.take 3)).1.pass.container ≠ .document := by
  intro start
  have htrace : trace none start [subscribe] = [(subscribe, .done)] := rfl
  have hfirst : ∀ entry ∈ trace none start [subscribe], ∀ k, entry.2 ≠ .entered k := by
    rw [htrace]
    intro entry hentry k h
    cases List.mem_singleton.mp hentry
    cases h
  have hc : (attempt none (run none start [subscribe]).1 onEvent).2 =
      .entered (.inline .document "/subscriptions" .post "onEvent") := rfl
  obtain ⟨-, hkeeps, hlanding⟩ := runPass_body_confined none {} "" hfirst hc eventBody
  exact ⟨hc, hkeeps, (hlanding (eventBody.take 3) _ [] rfl rfl rfl).1⟩

end Builder

end ApiScribe
