import ApiScribe.Proofs.Builder.Alterations
import ApiScribe.Proofs.Builder.Confinement
import ApiScribe.Proofs.Builder.Schemas
import Mathlib.Data.List.Induction

/-!
# What schemas and examples are attached to

A schema or an example belongs to the last parameter, request body or response that has been
written out before it, until a server, an operation or a callback comes in between. It changes its
own slot of that object and nothing else. Where there is no such object, examples fail and schemas
are components.
-/

namespace ApiScribe

open OpenApi

variable {value : Option String} {s s' : Builder.State} {a q : Annotation}
  {outcome : Builder.Outcome} {place : Builder.ContentPlace} {annotations : List Annotation}

namespace Builder

/-! ### Content that is written out -/

/-- The annotation describes a parameter, a request body or a response and does not refer to one.
Outside of operations, responses never do. -/
inductive WritesOut (s : State) (a : Annotation) : Prop
  | parameter (hkind : a.kind = .parameter) (href : Argument.reference? a.argument = none)
  | requestBody (hkind : a.kind = .requestBody) (href : Argument.reference? a.argument = none)
  | response {status : String} (hkind : a.kind = .response)
    (hkeyed : keyed .response a.argument = .ok (status, none))
  | responseComponent (hkind : a.kind = .response) (hscope : s.pass.scope.operation? = none)

/-- Where an annotation writes out its content: in the operation in scope or, if there is none, in
the component with the current ID. A parameter can have a component ID of its own. -/
inductive WritesAt (s : State) (a : Annotation) : ContentPlace → Prop
  | namedParameter {name : String} {location : ParameterLocation} {id : String}
    (hkind : a.kind = .parameter)
    (hheader : parameterHeader a.argument = .ok (name, location, some id)) :
    WritesAt s a (.parameter (.component id))
  | parameter {name : String} {location : ParameterLocation} {operation : OperationPlace}
    {o : Operation} (hkind : a.kind = .parameter)
    (hheader : parameterHeader a.argument = .ok (name, location, none))
    (hscope : s.pass.scope.operation? = some operation) (ho : s.doc.operation? operation = some o) :
    WritesAt s a (.parameter (.inline operation o.parameters.length))
  | parameterComponent {name : String} {location : ParameterLocation} {id : String}
    (hkind : a.kind = .parameter)
    (hheader : parameterHeader a.argument = .ok (name, location, none))
    (hscope : s.pass.scope.operation? = none) (hid : s.pass.componentId = some id) :
    WritesAt s a (.parameter (.component id))
  | requestBody {operation : OperationPlace} (hkind : a.kind = .requestBody)
    (hscope : s.pass.scope.operation? = some operation) :
    WritesAt s a (.requestBody (.inline operation))
  | requestBodyComponent {id : String} (hkind : a.kind = .requestBody)
    (hscope : s.pass.scope.operation? = none) (hid : s.pass.componentId = some id) :
    WritesAt s a (.requestBody (.component id))
  | response {operation : OperationPlace} {status : String} (hkind : a.kind = .response)
    (hscope : s.pass.scope.operation? = some operation)
    (hkeyed : keyed .response a.argument = .ok (status, none)) :
    WritesAt s a (.response (.inline operation status))
  | responseComponent {id : String} (hkind : a.kind = .response)
    (hscope : s.pass.scope.operation? = none) (hid : s.pass.componentId = some id) :
    WritesAt s a (.response (.component id))

/-- The part of an operation that is content at a place. -/
def ContentPlace.objectOf? (o : Operation) : ContentPlace → Option ContentObject
  | .parameter (.inline _ index) => ((o.parameters[index]?).bind RefOr.item?).map .parameter
  | .requestBody (.inline _) => (o.requestBody.bind RefOr.item?).map .requestBody
  | .response (.inline _ status) => ((o.responses.get? status).bind RefOr.item?).map .response
  | _ => none

end Builder

namespace OpenApi

open Builder

namespace ContentObject

variable {object : ContentObject}

/-- The object as an annotation describes it. -/
inductive DescribedBy (a : Annotation) : ContentObject → Prop
  | parameter {name : String} {location : ParameterLocation} {id? : Option String}
    (hheader : parameterHeader a.argument = .ok (name, location, id?)) :
    DescribedBy a (.parameter (.declare name location a.bodyText))
  | requestBody : DescribedBy a (.requestBody { description := a.bodyText })
  | response : DescribedBy a (.response { description := a.bodyText })

/-- The object without what can be attached to it. -/
def bare : ContentObject → ContentObject
  | .parameter p => .parameter { p with schema := none, examples := {} }
  | .requestBody b => .requestBody { b with content := {} }
  | .response r => .response { r with content := {} }

lemma DescribedBy.bare_eq (h : DescribedBy a object) : object.bare = object := by
  cases h <;> rfl

lemma bare_modifyMedia (f : MediaType → MediaType) (object : ContentObject) :
    (object.modifyMedia f).bare = object.bare := by
  cases object <;> rfl

end ContentObject

namespace Document

variable {doc doc' : Document} {object : ContentObject}

/-! ### Reading objects -/

lemma object?_of_operation? {operation : OperationPlace} (h : place.operation? = some operation) :
    doc.object? place = (doc.operation? operation).bind fun o => place.objectOf? o := by
  cases place with
  | parameter place | requestBody place | response place =>
    cases place <;> cases h
    cases ho : doc.operation? operation <;>
      simp [object?, parameter?, requestBody?, response?, ContentPlace.objectOf?, ho]

lemma object?_congr (hpaths : doc'.paths = doc.paths)
    (hcallbacks : doc'.components.callbacks = doc.components.callbacks)
    (hparameters : doc'.components.parameters = doc.components.parameters)
    (hbodies : doc'.components.requestBodies = doc.components.requestBodies)
    (hresponses : doc'.components.responses = doc.components.responses) (place : ContentPlace) :
    doc'.object? place = doc.object? place := by
  cases place with
  | parameter place | requestBody place | response place =>
    cases place <;> simp only [object?, parameter?, requestBody?, response?, hparameters, hbodies,
      hresponses, operation?_congr hpaths hcallbacks]

/-- A change of an operation changes no component. -/
lemma object?_modifyOperation (doc : Document) (operation : OperationPlace)
    (f : Operation → Operation) (h : place.operation? = none) :
    (doc.modifyOperation operation f).object? place = doc.object? place := by
  have hframe := modifyPaths_frame doc operation.container fun paths =>
    paths.modifyOperation operation.path operation.method f
  cases place with
  | parameter place | requestBody place | response place =>
    cases place with
    | component id =>
      rw [modifyOperation, hframe]
      rfl
    | inline => cases h

lemma object?_modifyContent (doc : Document) (f : MediaType → MediaType) (place : ContentPlace) :
    (doc.modifyContent f place).object? place = (doc.object? place).map (·.modifyMedia f) := by
  cases place with
  | parameter place =>
    rw [object?, modifyContent, parameter?_modifyParameter, Option.map_map, object?, Option.map_map]
    rfl
  | requestBody place =>
    rw [object?, modifyContent, requestBody?_modifyRequestBody, Option.map_map, object?,
      Option.map_map]
    rfl
  | response place =>
    rw [object?, modifyContent, response?_modifyResponse, Option.map_map, object?, Option.map_map]
    rfl

end Document

end OpenApi

namespace Builder

/-! ### One annotation -/

/-- Content that is written out comes into scope, with what the annotation says about it. -/
lemma Amendment.declares {operation : OperationPlace} {f : Operation → Operation} {pass : Pass}
    (h : Amendment s a operation f pass .done) (hwrites : WritesOut s a)
    (hscope : s.pass.scope.operation? = some operation)
    (hoperation : (s.doc.operation? operation).isSome) :
    ∃ place object, WritesAt s a place ∧ pass.scope.content? = some place ∧
      (s.doc.modifyOperation operation f).object? place = some object ∧ object.DescribedBy a := by
  obtain ⟨o, ho⟩ := Option.isSome_iff_exists.mp hoperation
  have ho' := Document.operation?_modifyOperation_self s.doc operation f
  rw [ho, Option.map_some] at ho'
  cases h with
  | tag hkind | security hkind | callbackReference hkind => cases hwrites <;> simp_all
  | parameterReference hkind href | requestBodyReference hkind href
  | responseReference hkind href => cases hwrites <;> simp_all
  | @parameter name location o' hkind href hheader hplace =>
    obtain rfl : o = o' := Option.some.inj (ho.symm.trans hplace)
    refine ⟨_, .parameter (.declare name location a.bodyText), .parameter hkind hheader hscope ho,
      rfl, ?_, .parameter hheader⟩
    rw [Document.object?_of_operation? rfl, ho']
    simp [ContentPlace.objectOf?, RefOr.item?]
  | requestBody hkind =>
    refine ⟨_, .requestBody { description := a.bodyText }, .requestBody hkind hscope, rfl, ?_,
      .requestBody⟩
    rw [Document.object?_of_operation? rfl, ho']
    rfl
  | @response status hkind hkeyed =>
    refine ⟨_, .response { description := a.bodyText }, .response hkind hscope hkeyed, rfl, ?_,
      .response⟩
    rw [Document.object?_of_operation? rfl, ho']
    simp [ContentPlace.objectOf?, RefOr.item?]

lemma Rule.declares (h : Rule value s a s' .done) (hwrites : WritesOut s a) :
    ∃ place object, WritesAt s a place ∧ s'.pass.scope.content? = some place ∧
      s'.doc.object? place = some object ∧ object.DescribedBy a := by
  cases h with
  | id hkind | api hkind | version hkind | server hkind | serverVariable hkind | tag hkind
  | security hkind | apiKeyScheme hkind | httpScheme hkind | operation hkind | attachSchema hkind
  | schema hkind | jsonExample hkind => cases hwrites <;> simp_all
  | amend hscope hoperation h => exact h.declares hwrites hscope hoperation
  | @namedParameter name location id place? hkind href hheader hscope hoperation =>
    refine ⟨_, .parameter (.declare name location a.bodyText), .namedParameter hkind hheader, rfl,
      ?_, .parameter hheader⟩
    have hregistered : (registerParameter s.doc id (.declare name location a.bodyText)).object?
        (.parameter (.component id)) = some (.parameter (.declare name location a.bodyText)) := by
      simp [Document.object?, Document.parameter?, registerParameter, Document.modifyComponents]
    cases place? with
    | none => exact hregistered
    | some place => exact (Document.object?_modifyOperation _ _ _ rfl).trans hregistered
  | @parameter name location id hkind href hheader hscope hid =>
    refine ⟨_, .parameter (.declare name location a.bodyText), .parameterComponent hkind hheader
      hscope (Pass.componentId_of_takeId hid), rfl, ?_, .parameter hheader⟩
    simp [Document.object?, Document.parameter?, registerParameter, Document.modifyComponents]
  | requestBody hkind href hscope hid =>
    refine ⟨_, .requestBody { description := a.bodyText }, .requestBodyComponent hkind hscope
      (Pass.componentId_of_takeId hid), rfl, ?_, .requestBody⟩
    simp [Document.object?, Document.requestBody?, registerRequestBody, Document.modifyComponents]
  | response hkind hscope hid =>
    refine ⟨_, .response { description := a.bodyText }, .responseComponent hkind hscope
      (Pass.componentId_of_takeId hid), rfl, ?_, .response⟩
    simp [Document.object?, Document.response?, registerResponse, Document.modifyComponents]

/-- Whatever else an annotation does, other than starting a server or an operation, leaves the
content in scope. -/
lemma Rule.scope_eq (h : Rule value s a s' outcome)
    (hwrites : ¬(outcome = .done ∧ WritesOut s a)) (hserver : a.kind ≠ .server)
    (hoperation : ¬(a.kind = .operation ∧ outcome = .done)) : s'.pass.scope = s.pass.scope := by
  cases h with
  | server hkind => exact absurd hkind hserver
  | operation hkind => exact absurd ⟨hkind, rfl⟩ hoperation
  | amend hscope _ h =>
    cases h with
    | parameter hkind href => exact absurd ⟨rfl, .parameter hkind href⟩ hwrites
    | requestBody hkind href => exact absurd ⟨rfl, .requestBody hkind href⟩ hwrites
    | response hkind hkeyed => exact absurd ⟨rfl, .response hkind hkeyed⟩ hwrites
    | _ => rfl
  | namedParameter hkind href | parameter hkind href =>
    exact absurd ⟨rfl, .parameter hkind href⟩ hwrites
  | requestBody hkind href => exact absurd ⟨rfl, .requestBody hkind href⟩ hwrites
  | response hkind hscope => exact absurd ⟨rfl, .responseComponent hkind hscope⟩ hwrites
  | _ => rfl

/-- A reference at the end of a list is no object of the list. -/
lemma item?_getElem?_append_ref {α : Type} (l : List (RefOr α)) (reference : Reference)
    (index : Nat) :
    ((l ++ [.ref reference])[index]?).bind RefOr.item? = (l[index]?).bind RefOr.item? := by
  rcases Nat.lt_trichotomy index l.length with hlt | rfl | hgt
  · rw [List.getElem?_append_left hlt]
  · simp [RefOr.item?]
  · have hlength : (l ++ [RefOr.ref reference]).length ≤ index := by
      rw [List.length_append]
      exact hgt
    rw [List.getElem?_eq_none hlength, List.getElem?_eq_none (Nat.le_of_lt hgt)]

/-- What is at a place of an operation after an amendment has been there before. -/
lemma Amendment.objectOf?_eq {operation : OperationPlace} {f : Operation → Operation} {pass : Pass}
    (h : Amendment s a operation f pass outcome) (hwrites : ¬(outcome = .done ∧ WritesOut s a))
    {o : Operation} {object : ContentObject} (hobject : place.objectOf? (f o) = some object) :
    place.objectOf? o = some object := by
  cases h with
  | tag | security | callbackReference | callback => cases place <;> exact hobject
  | parameter hkind href => exact absurd ⟨rfl, .parameter hkind href⟩ hwrites
  | requestBody hkind href => exact absurd ⟨rfl, .requestBody hkind href⟩ hwrites
  | response hkind hkeyed => exact absurd ⟨rfl, .response hkind hkeyed⟩ hwrites
  | parameterReference =>
    cases place with
    | parameter place =>
      cases place with
      | component => exact hobject
      | inline =>
        rwa [ContentPlace.objectOf?, Builder.parameterReference, item?_getElem?_append_ref]
          at hobject
    | requestBody place | response place => cases place <;> exact hobject
  | requestBodyReference =>
    cases place with
    | requestBody place => cases place <;> cases hobject
    | parameter place | response place => cases place <;> exact hobject
  | @responseReference status id =>
    cases place with
    | response place =>
      cases place with
      | component => exact hobject
      | inline operation status' =>
        rw [ContentPlace.objectOf?, OrderedMap.get?_insert] at hobject
        split_ifs at hobject
        · cases hobject
        · exact hobject
    | parameter place | requestBody place => cases place <;> exact hobject

/-- What is in the content's place after the annotation has been there before, but for what has been
attached to it. -/
lemma Rule.bare_object? (h : Rule value s a s' outcome) (hs : Coherent s.doc s.pass)
    (hplace : s.pass.scope.content? = some place) (hwrites : ¬(outcome = .done ∧ WritesOut s a))
    (hoperation : ¬(a.kind = .operation ∧ outcome = .done))
    (hstays : ∀ callback, outcome ≠ .entered callback) {object : ContentObject}
    (hobject : s'.doc.object? place = some object) :
    ∃ before, s.doc.object? place = some before ∧ object.bare = before.bare := by
  cases h with
  | id | failed | keyless => exact ⟨object, hobject, rfl⟩
  | api | version | server | serverVariable | tag | security | apiKeyScheme | httpScheme
  | schema =>
    refine ⟨object, ?_, rfl⟩
    rw [← hobject]
    symm
    apply Document.object?_congr <;> rfl
  | operation hkind => exact absurd ⟨hkind, rfl⟩ hoperation
  | @amend operation f pass outcome hscope _ h =>
    refine ⟨object, ?_, rfl⟩
    cases hcontent : place.operation? with
    | none => rwa [Document.object?_modifyOperation _ _ _ hcontent] at hobject
    | some operation' =>
      -- content of an operation is content of the one in scope, which is amended
      obtain rfl : operation' = operation :=
        Option.some.inj ((hs.operation?_content hplace hcontent).symm.trans hscope)
      rw [Document.object?_of_operation? hcontent, Document.operation?_modifyOperation_self,
        Option.bind_map] at hobject
      rw [Document.object?_of_operation? hcontent]
      obtain ⟨o, ho, hobject⟩ := Option.bind_eq_some_iff.mp hobject
      rw [ho]
      exact h.objectOf?_eq hwrites hobject
  | namedParameter hkind href | parameter hkind href =>
    exact absurd ⟨rfl, .parameter hkind href⟩ hwrites
  | requestBody hkind href => exact absurd ⟨rfl, .requestBody hkind href⟩ hwrites
  | response hkind hscope => exact absurd ⟨rfl, .responseComponent hkind hscope⟩ hwrites
  | callback => exact absurd rfl (hstays _)
  | attachSchema hkind hread hscope =>
    obtain rfl := Option.some.inj (hscope.symm.trans hplace)
    rw [Document.setSchema_eq, Document.object?_modifyContent] at hobject
    obtain ⟨before, hbefore, rfl⟩ := Option.map_eq_some_iff.mp hobject
    exact ⟨before, hbefore, ContentObject.bare_modifyMedia _ before⟩
  | jsonExample hkind hread hscope =>
    obtain rfl := Option.some.inj (hscope.symm.trans hplace)
    rw [Document.setExample_eq, Document.object?_modifyContent] at hobject
    obtain ⟨before, hbefore, rfl⟩ := Option.map_eq_some_iff.mp hobject
    exact ⟨before, hbefore, ContentObject.bare_modifyMedia _ before⟩
  | unreferred hkind href hheader hscope hnone =>
    have hsome := hs.operation _ hscope
    rw [hnone] at hsome
    cases hsome

/-- A new operation has no content in scope. -/
lemma Rule.content?_operation (h : Rule value s a s' .done) (hkind : a.kind = .operation) :
    s'.pass.scope.content? = none := by
  cases h with
  | operation => rfl
  | amend _ _ h =>
    cases h with
    | _ hkind' => rw [hkind] at hkind'; cases hkind'
  | _ hkind' => rw [hkind] at hkind'; cases hkind'

/-! ### Runs -/

namespace Application

/-- The annotation has put content of its own into the document. -/
def Declares (x : Application) : Prop := x.outcome = .done ∧ WritesOut x.state x.subject

/-- The annotation has left the content in scope: for a server, an operation or the body of a
callback. -/
def Leaves (x : Application) : Prop :=
  x.subject.kind = .server ∨ x.subject.kind = .operation ∧ x.outcome = .done ∨
    ∃ callback, x.outcome = .entered callback

end Application

/-- Among annotations that are applied from a state on, one has put content into the document that
none after it has left or followed by other content. -/
structure LastContent (value : Option String) (start : State) (annotations us : List Annotation)
    (q : Annotation) (vs : List Annotation) : Prop where
  split : annotations = us ++ q :: vs
  declares : (applied value (run value start us).1 q).Declares
  last : ∀ x ∈ applications value (step value (run value start us).1 q).1 vs,
    ¬x.Declares ∧ ¬x.Leaves

lemma content?_step_of_leaves (h : (applied value s a).Leaves) :
    (step value s a).1.pass.scope.content? = none := by
  rcases h with hserver | ⟨hkind, hdone⟩ | ⟨callback, hentered⟩
  · have hrule : Rule value s a _ .done := .server hserver
    rw [step, hrule.attempt_eq fun _ h => by cases h]
    rfl
  · have hdone' : (attempt value s a).2 = .done := hdone
    rw [step_of_stays fun callback h => by rw [hdone'] at h; cases h]
    exact (Rule.of_outcome hdone').content?_operation hkind
  · rw [step_of_entered hentered]
    cases callback <;> rfl

/-- The place is in scope, and what is there, if anything, is what the annotation describes. -/
structure InScope (q : Annotation) (place : ContentPlace) (s : State) : Prop where
  content : s.pass.scope.content? = some place
  described : ∀ object, s.doc.object? place = some object → object.bare.DescribedBy q

lemma inScope_step (h : (applied value s q).Declares) :
    ∃ place, WritesAt s q place ∧ InScope q place (step value s q).1 := by
  have hdone : (attempt value s q).2 = .done := h.1
  obtain ⟨place, object, hplace, hcontent, hobject, hdescribed⟩ :=
    (Rule.of_outcome hdone).declares h.2
  rw [step_of_stays fun callback h => by rw [hdone] at h; cases h]
  refine ⟨place, hplace, hcontent, fun object' hobject' => ?_⟩
  obtain rfl := Option.some.inj (hobject.symm.trans hobject')
  rwa [hdescribed.bare_eq]

lemma scope_step (hdeclares : ¬(applied value s a).Declares)
    (hleaves : ¬(applied value s a).Leaves) :
    (step value s a).1.pass.scope = s.pass.scope := by
  obtain ⟨hserver, hoperation, hstays⟩ := not_or.mp hleaves |>.imp_right not_or.mp
  rw [step_of_stays (not_exists.mp hstays)]
  exact (Rule.of_outcome rfl).scope_eq hdeclares hserver hoperation

lemma InScope.step (h : InScope q place s) (hs : Coherent s.doc s.pass)
    (hdeclares : ¬(applied value s a).Declares) (hleaves : ¬(applied value s a).Leaves) :
    InScope q place (step value s a).1 where
  content := by rw [scope_step hdeclares hleaves]; exact h.content
  described object hobject := by
    obtain ⟨-, hoperation, hstays⟩ := not_or.mp hleaves |>.imp_right not_or.mp
    rw [step_of_stays (not_exists.mp hstays)] at hobject
    obtain ⟨before, hbefore, hbare⟩ := (Rule.of_outcome rfl).bare_object? hs h.content hdeclares
      hoperation (not_exists.mp hstays) hobject
    rw [hbare]
    exact h.described before hbefore

lemma InScope.run (h : InScope q place s) (hs : Coherent s.doc s.pass)
    (hlast : ∀ x ∈ applications value s annotations, ¬x.Declares ∧ ¬x.Leaves) :
    InScope q place (run value s annotations).1 := by
  induction annotations generalizing s with
  | nil => exact h
  | cons a rest ih =>
    obtain ⟨⟨hdeclares, hleaves⟩, hrest⟩ := List.forall_mem_cons.mp hlast
    exact ih (h.step hs hdeclares hleaves) (step_coherent hs) hrest

lemma LastContent.inScope {start : State} {us vs : List Annotation}
    (h : LastContent value start annotations us q vs) (hstart : Coherent start.doc start.pass) :
    ∃ place, WritesAt (run value start us).1 q place ∧
      InScope q place (run value start annotations).1 := by
  obtain ⟨place, hplace, hscope⟩ := inScope_step h.declares
  refine ⟨place, hplace, ?_⟩
  rw [h.split, run_append, run_cons]
  exact hscope.run (step_coherent (run_coherent hstart us)) h.last

/-- Content in scope has been put there. -/
lemma exists_lastContent {start : State} (hstart : start.pass.scope.content? = none)
    (h : (run value start annotations).1.pass.scope.content? ≠ none) :
    ∃ us q vs, LastContent value start annotations us q vs := by
  -- the last annotation has declared the content, or it is still there from before
  induction annotations using List.reverseRecOn with
  | nil => exact absurd hstart h
  | append_singleton xs a ih =>
    have hrun : (run value start (xs ++ [a])).1 = (step value (run value start xs).1 a).1 := by
      rw [run_append]
      rfl
    rw [hrun] at h
    by_cases hdeclares : (applied value (run value start xs).1 a).Declares
    · exact ⟨xs, a, [], rfl, hdeclares, List.forall_mem_nil _⟩
    by_cases hleaves : (applied value (run value start xs).1 a).Leaves
    · exact absurd (content?_step_of_leaves hleaves) h
    rw [scope_step hdeclares hleaves] at h
    obtain ⟨us, q, vs, hlast⟩ := ih h
    refine ⟨us, q, vs ++ [a], ?_, hlast.declares, ?_⟩
    · rw [hlast.split, List.append_assoc, List.cons_append]
    · have hstate : (run value (step value (run value start us).1 q).1 vs).1 =
          (run value start xs).1 := by
        rw [hlast.split, run_append, run_cons]
      rw [applications_append, hstate]
      exact List.forall_mem_append.mpr
        ⟨hlast.last, List.forall_mem_singleton.mpr ⟨hdeclares, hleaves⟩⟩

/-! ### Schemas and examples -/

/-- Valid schemas and examples go to the object at the place, and change nothing else. -/
structure AttachesAt (value : Option String) (s : State) (place : ContentPlace) : Prop where
  schema (a : Annotation) (schema : Schema) (id? : Option String) : a.kind = .jsonSchema →
    readSchema value a.argument a.bodyText = .ok (schema, id?) →
    ∃ doc, attempt value s a = ({ s with doc }, .done) ∧
      s.doc.AmendsObject (ContentObject.AltersMedia (MediaType.SetsSchema schema)) doc place
  sample (a : Annotation) (name : String) (sample : Example) : a.kind = .jsonExample →
    readExample a.argument a.bodyText = .ok (name, sample) →
    ∃ doc, attempt value s a = ({ s with doc }, .done) ∧
      s.doc.AmendsObject (ContentObject.AltersMedia (MediaType.SetsExample name sample)) doc place

/-- Examples fail, and schemas become components or fail. -/
structure AttachesNowhere (value : Option String) (s : State) : Prop where
  sample (a : Annotation) : a.kind = .jsonExample →
    ∃ error, attempt value s a = (s, .failed error)
  schema (a : Annotation) : a.kind = .jsonSchema →
    (∃ error, attempt value s a = (s, .failed error)) ∨
      ∃ id json schemas,
        attempt value s a =
          ({ s with doc := { s.doc with components := { s.doc.components with schemas } } },
            .done) ∧
        s.doc.components.schemas.Alters id (fun _ v => v = json) schemas

lemma hasContent_of_not_replaced (hs : Coherent s.doc s.pass)
    (hplace : s.pass.scope.content? = some place) (hreplaced : ¬s.doc.ContentReplaced place) :
    s.doc.hasContent place := by
  rwa [← Document.hasContent_eq_false_iff (hs.content place hplace), Bool.not_eq_false]
    at hreplaced

/-- Content that no reference has replaced is there. -/
lemma exists_object? (hs : Coherent s.doc s.pass) (hplace : s.pass.scope.content? = some place)
    (hreplaced : ¬s.doc.ContentReplaced place) : ∃ object, s.doc.object? place = some object := by
  rw [← Option.isSome_iff_exists, Document.isSome_object?]
  exact hasContent_of_not_replaced hs hplace hreplaced

lemma attachesAt (hs : Coherent s.doc s.pass) (hplace : s.pass.scope.content? = some place)
    (hreplaced : ¬s.doc.ContentReplaced place) : AttachesAt value s place := by
  have hcontent := hasContent_of_not_replaced hs hplace hreplaced
  obtain ⟨object, hobject⟩ := exists_object? hs hplace hreplaced
  constructor
  · intro a schema id? hkind hread
    have hrule : Rule value s a _ .done := .attachSchema hkind hread hplace hcontent
    have hattempt := hrule.attempt_eq fun _ h => by cases h
    rw [Document.setSchema_eq] at hattempt
    refine ⟨_, hattempt, Document.amendsObject_modifyContent hobject ?_⟩
    exact ContentObject.altersMedia_modifyMedia (MediaType.setsSchema schema) object
  · intro a name sample hkind hread
    have hrule : Rule value s a _ .done := .jsonExample hkind hread hplace hcontent
    have hattempt := hrule.attempt_eq fun _ h => by cases h
    rw [Document.setExample_eq] at hattempt
    refine ⟨_, hattempt, Document.amendsObject_modifyContent hobject ?_⟩
    exact ContentObject.altersMedia_modifyMedia (MediaType.setsExample_insert name sample) object

lemma attachesNowhere (hnone : s.pass.scope.content? = none) : AttachesNowhere value s := by
  constructor
  · intro a hkind
    cases hread : readExample a.argument a.bodyText with
    | error error =>
      refine ⟨error, ?_⟩
      simp only [attempt, apply, hkind, applyJsonExample, hread]
      rfl
    | ok read =>
      refine ⟨.invalidUsage, ?_⟩
      simp only [attempt, apply, hkind, applyJsonExample, hread, Effect.check_ok, hnone]
      rfl
  · intro a hkind
    cases hread : readSchema value a.argument a.bodyText with
    | error error =>
      refine .inl ⟨error, ?_⟩
      simp only [attempt, apply, hkind, applyJsonSchema, hread]
      rfl
    | ok read =>
      obtain ⟨schema, id?⟩ := read
      have hregister : attempt value s a =
          ((registerSchema s.doc s.pass schema id?).state,
            (registerSchema s.doc s.pass schema id?).outcome) := by
        simp only [attempt, apply, hkind, applyJsonSchema, hread, Effect.check_ok, hnone]
      rw [hregister]
      unfold registerSchema
      split
      next => exact .inl ⟨.invalidUsage, rfl⟩
      next json id =>
        split_ifs with hid
        · exact .inl ⟨.missingSchemaId, rfl⟩
        · exact .inr ⟨id, json, _, rfl, OrderedMap.alters_insert rfl⟩
      next => exact .inl ⟨.missingSchemaId, rfl⟩

/-- Wherever the annotations of a declaration have come to, a valid schema or example goes to the
content that has been written out last, unless a reference has replaced it, and changes nothing but
its own slot there. Where none has been written out, or what came after has left it, examples fail
and schemas are components at most. -/
theorem attached_to_last_content (value : Option String) (doc : Document) (name : String)
    (annotations : List Annotation) :
    let start := State.start doc name
    let s := (run value start annotations).1
    (∀ us q vs, LastContent value start annotations us q vs →
      ∃ place, WritesAt (run value start us).1 q place ∧
        (¬s.doc.ContentReplaced place →
          (∃ object, s.doc.object? place = some object ∧ object.bare.DescribedBy q) ∧
          AttachesAt value s place)) ∧
    ((∀ us q vs, ¬LastContent value start annotations us q vs) → AttachesNowhere value s) := by
  intro start s
  have hstart : Coherent start.doc start.pass := .start doc name
  have hs : Coherent s.doc s.pass := run_coherent hstart annotations
  constructor
  · intro us q vs hlast
    obtain ⟨place, hplace, hscope⟩ := hlast.inScope hstart
    refine ⟨place, hplace, fun hreplaced => ⟨?_, attachesAt hs hscope.content hreplaced⟩⟩
    obtain ⟨object, hobject⟩ := exists_object? hs hscope.content hreplaced
    exact ⟨object, hobject, hscope.described object hobject⟩
  · intro hnone
    apply attachesNowhere
    by_contra hcontent
    obtain ⟨us, q, vs, hlast⟩ := exists_lastContent rfl hcontent
    exact hnone us q vs hlast

/-- An operation, a response and a reference to another one. -/
def showUser : Annotation := { kind := .operation, argument := "GET /user - User" }

def userFound : Annotation := { kind := .response, argument := "200", body := ["The user"] }

def userMissing : Annotation := { kind := .response, argument := "404 \x7bNotFound\x7d" }

/-- After a reference, a schema is attached to the response before it, and without a response to
nothing. -/
theorem attached_to_userFound :
    LastContent none (.start {} "") [showUser, userFound, userMissing] [showUser] userFound
        [userMissing] ∧
      AttachesAt none (run none (.start {} "") [showUser, userFound, userMissing]).1
        (.response (.inline ⟨.document, "/user", .get⟩ "200")) ∧
      AttachesNowhere none (run none (.start {} "") [showUser]).1 := by
  have hlast : LastContent none (.start {} "") [showUser, userFound, userMissing] [showUser]
      userFound [userMissing] := by
    refine ⟨rfl, ⟨rfl, .response rfl rfl⟩, List.forall_mem_singleton.mpr ⟨?_, ?_⟩⟩
    · rintro ⟨-, hwrites⟩
      cases hwrites with
      | parameter hkind | requestBody hkind => cases hkind
      | response _ hkeyed => cases hkeyed
      | responseComponent _ hscope => cases hscope
    · rintro (hkind | ⟨hkind, -⟩ | ⟨callback, hentered⟩)
      · cases hkind
      · cases hkind
      · cases hentered
  refine ⟨hlast, ?_, ?_⟩
  · obtain ⟨place, hplace, hattaches⟩ :=
      (attached_to_last_content none {} "" [showUser, userFound, userMissing]).1 _ _ _ hlast
    cases hplace with
    | response hkind hscope hkeyed =>
      cases hscope
      cases hkeyed
      refine (hattaches ?_).2
      rintro ⟨o, r, ho, hr⟩
      cases ho
      cases hr
    | responseComponent hkind hscope => cases hscope
    | namedParameter hkind | parameter hkind | parameterComponent hkind | requestBody hkind
    | requestBodyComponent hkind => cases hkind
  · refine (attached_to_last_content none {} "" [showUser]).2 ?_
    intro us q vs hlast
    have hmem : q ∈ [showUser] := hlast.split ▸ List.mem_append_right us List.mem_cons_self
    obtain rfl := List.mem_singleton.mp hmem
    cases hlast.declares.2 with
    | _ hkind => cases hkind

end Builder

end ApiScribe
