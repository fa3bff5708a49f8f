import ApiScribe.Builder.Declaration
import ApiScribe.Proofs.Builder.Arguments
import ApiScribe.Proofs.Builder.Attachment

/-!
# Component IDs

A component ID is issued with the name of a declaration or by an annotation of its own. It serves
for one component: request bodies, responses, callbacks and parameters that are registered take the
last ID of their pass, which is gone then.
-/

namespace ApiScribe

open OpenApi

variable {value : Option String} {s s' : Builder.State} {a : Annotation}
  {outcome : Builder.Outcome} {annotations : List Annotation} {kind : ComponentKind} {id : String}

/-! ### Keys of components -/

namespace OpenApi

namespace Components

/-- The keys of the components of a kind. -/
def keysOf (c : Components) : ComponentKind → List String
  | .schemas => c.schemas.keys
  | .parameters => c.parameters.keys
  | .requestBodies => c.requestBodies.keys
  | .responses => c.responses.keys
  | .callbacks => c.callbacks.keys

/-- The number of components that are registered under component IDs only. -/
def registered (c : Components) : Nat :=
  c.requestBodies.size + c.responses.size + c.callbacks.size

lemma registered_eq (c : Components) :
    c.registered =
      (c.keysOf .requestBodies).length + (c.keysOf .responses).length +
        (c.keysOf .callbacks).length := by
  simp only [registered, keysOf, OrderedMap.size, OrderedMap.keys, List.length_map]

end Components

namespace Document

open Builder

variable (doc : Document)

lemma keysOf_modifyPaths (c : Container) (f : Paths → Paths) (kind : ComponentKind) :
    (doc.modifyPaths c f).components.keysOf kind = doc.components.keysOf kind := by
  induction c generalizing f with
  | document => rfl
  | component id =>
    cases kind with
    | callbacks => exact OrderedMap.keys_modify _ _ _
    | _ => rfl
  | inline container path method key ih => exact ih _

lemma keysOf_modifyParameter (f : Parameter → Parameter) (place : ParameterPlace)
    (kind : ComponentKind) :
    (doc.modifyParameter f place).components.keysOf kind = doc.components.keysOf kind := by
  cases place with
  | component id =>
    cases kind with
    | parameters => exact OrderedMap.keys_modify _ _ _
    | _ => rfl
  | inline => exact keysOf_modifyPaths doc _ _ kind

lemma keysOf_modifyRequestBody (f : RequestBody → RequestBody) (place : RequestBodyPlace)
    (kind : ComponentKind) :
    (doc.modifyRequestBody f place).components.keysOf kind = doc.components.keysOf kind := by
  cases place with
  | component id =>
    cases kind with
    | requestBodies => exact OrderedMap.keys_modify _ _ _
    | _ => rfl
  | inline => exact keysOf_modifyPaths doc _ _ kind

lemma keysOf_modifyResponse (f : Response → Response) (place : ResponsePlace)
    (kind : ComponentKind) :
    (doc.modifyResponse f place).components.keysOf kind = doc.components.keysOf kind := by
  cases place with
  | component id =>
    cases kind with
    | responses => exact OrderedMap.keys_modify _ _ _
    | _ => rfl
  | inline => exact keysOf_modifyPaths doc _ _ kind

lemma keysOf_modifyContent (f : MediaType → MediaType) (place : ContentPlace)
    (kind : ComponentKind) :
    (doc.modifyContent f place).components.keysOf kind = doc.components.keysOf kind := by
  cases place with
  | parameter => exact keysOf_modifyParameter doc _ _ kind
  | requestBody => exact keysOf_modifyRequestBody doc _ _ kind
  | response => exact keysOf_modifyResponse doc _ _ kind

end Document

end OpenApi

namespace Builder

/-! ### Registrations -/

/-- The component that content at a place is. -/
def ContentPlace.component? : ContentPlace → Option (ComponentKind × String)
  | .parameter (.component id) => some (.parameters, id)
  | .requestBody (.component id) => some (.requestBodies, id)
  | .response (.component id) => some (.responses, id)
  | _ => none

/-- The annotation gives its parameter a component ID of its own. -/
def NamesParameter (a : Annotation) (id : String) : Prop :=
  a.kind = .parameter ∧
    ∃ name location, parameterHeader a.argument = .ok (name, location, some id)

lemma not_namesParameter (hkind : a.kind ≠ .parameter) (id : String) : ¬NamesParameter a id :=
  fun h => hkind h.1

/-- An annotation that leads from one state to another registers a component: content that is
written out as a component, unless it is a parameter with an ID of its own, or a callback. -/
inductive Registers (s : State) (a : Annotation) (s' : State) :
    Outcome → ComponentKind → String → Prop
  | content {place : ContentPlace} {kind : ComponentKind} {id : String} (hwrites : WritesOut s a)
    (hname : ∀ id, ¬NamesParameter a id) (hplace : s'.pass.scope.content? = some place)
    (hcomponent : place.component? = some (kind, id)) : Registers s a s' .done kind id
  | callback {id : String} : Registers s a s' (.entered (.component id)) .callbacks id

lemma Registers.unique {kind' : ComponentKind} {id' : String}
    (h : Registers s a s' outcome kind id) (h' : Registers s a s' outcome kind' id') :
    kind = kind' := by
  cases h with
  | content _ _ hplace hcomponent =>
    cases h' with
    | content _ _ hplace' hcomponent' =>
      obtain rfl := Option.some.inj (hplace.symm.trans hplace')
      exact congrArg Prod.fst (Option.some.inj (hcomponent.symm.trans hcomponent'))
  | callback => cases h'; rfl

/-- A registration takes the ID of the pass. -/
lemma Rule.takeId_of_registers (h : Rule value s a s' outcome)
    (hregisters : Registers s a s' outcome kind id) :
    s.pass.takeId = .ok id ∧ s'.pass.componentId = none ∧ id ∈ s'.doc.components.keysOf kind := by
  have hmem {α : Type} (m : OrderedMap α) (v : α) : id ∈ (m.insert id v).keys := by
    rw [← OrderedMap.isSome_get?_iff, OrderedMap.get?_insert_self]
    rfl
  cases hregisters with
  | callback =>
    cases h with
    | amend _ _ h => cases h
    | callback _ _ hid => exact ⟨hid, rfl, hmem _ _⟩
  | content hwrites hname hplace hcomponent =>
    cases h with
    | id hkind | api hkind | version hkind | server hkind | serverVariable hkind | tag hkind
    | security hkind | apiKeyScheme hkind | httpScheme hkind | operation hkind | attachSchema hkind
    | schema hkind | jsonExample hkind => cases hwrites <;> simp_all
    | amend hscope hoperation h =>
      -- in an operation, content is no component
      obtain ⟨place', -, hwritesAt, hplace', -⟩ := h.declares hwrites hscope hoperation
      obtain rfl := Option.some.inj (hplace'.symm.trans hplace)
      cases hwritesAt with
      | namedParameter hkind hheader => exact absurd ⟨hkind, _, _, hheader⟩ (hname _)
      | parameter | requestBody | response => cases hcomponent
      | parameterComponent _ _ hnone | requestBodyComponent _ hnone | responseComponent _ hnone =>
        rw [hscope] at hnone
        cases hnone
    | namedParameter hkind _ hheader => exact absurd ⟨hkind, _, _, hheader⟩ (hname _)
    | parameter _ _ _ _ hid | requestBody _ _ _ hid | response _ _ hid =>
      cases hplace
      cases hcomponent
      exact ⟨hid, rfl, hmem _ _⟩

lemma keysOf_referToParameter (doc : Document) (id : String) (place? : Option OperationPlace)
    (kind : ComponentKind) :
    (referToParameter doc id place?).components.keysOf kind = doc.components.keysOf kind := by
  cases place? with
  | none => rfl
  | some place => exact Document.keysOf_modifyPaths doc _ _ kind

/-- Keys of components come from registrations and from parameters with an ID of their own. -/
lemma Rule.keysOf_eq (h : Rule value s a s' outcome) (hkind : kind ≠ .schemas) :
    s'.doc.components.keysOf kind = s.doc.components.keysOf kind ∨
      ∃ id, (Registers s a s' outcome kind id ∨ kind = .parameters ∧ NamesParameter a id) ∧
        s'.doc.components.keysOf kind =
          if id ∈ s.doc.components.keysOf kind then s.doc.components.keysOf kind
          else s.doc.components.keysOf kind ++ [id] := by
  cases h with
  | id | api | version | server | serverVariable | tag | security | apiKeyScheme | httpScheme
  | failed | keyless => exact .inl rfl
  | operation => exact .inl (Document.keysOf_modifyPaths s.doc _ _ kind)
  | amend => exact .inl (Document.keysOf_modifyPaths s.doc _ _ kind)
  | attachSchema =>
    rw [Document.setSchema_eq]
    exact .inl (Document.keysOf_modifyContent s.doc _ _ kind)
  | jsonExample =>
    rw [Document.setExample_eq]
    exact .inl (Document.keysOf_modifyContent s.doc _ _ kind)
  | schema =>
    cases kind with
    | schemas => exact absurd rfl hkind
    | _ => exact .inl rfl
  | @namedParameter name location id place? hparameter _ hheader =>
    rw [keysOf_referToParameter]
    cases kind with
    | parameters =>
      exact .inr ⟨id, .inr ⟨rfl, hparameter, name, location, hheader⟩, OrderedMap.keys_insert _ _ _⟩
    | _ => exact .inl rfl
  | @unreferred name location id place hparameter _ hheader =>
    cases kind with
    | parameters =>
      exact .inr ⟨id, .inr ⟨rfl, hparameter, name, location, hheader⟩, OrderedMap.keys_insert _ _ _⟩
    | _ => exact .inl rfl
  | @parameter name location id hparameter href hheader =>
    cases kind with
    | parameters =>
      refine .inr ⟨id, .inl (.content (.parameter hparameter href) ?_ rfl rfl),
        OrderedMap.keys_insert _ _ _⟩
      rintro id' ⟨-, name', location', hheader'⟩
      rw [hheader] at hheader'
      cases hheader'
    | _ => exact .inl rfl
  | @requestBody id hbody href =>
    cases kind with
    | requestBodies =>
      have hname := not_namesParameter (a := a) (by simp [hbody])
      exact .inr ⟨id, .inl (.content (.requestBody hbody href) hname rfl rfl),
        OrderedMap.keys_insert _ _ _⟩
    | _ => exact .inl rfl
  | @response id hresponse hscope =>
    cases kind with
    | responses =>
      have hname := not_namesParameter (a := a) (by simp [hresponse])
      exact .inr ⟨id, .inl (.content (.responseComponent hresponse hscope) hname rfl rfl),
        OrderedMap.keys_insert _ _ _⟩
    | _ => exact .inl rfl
  | @callback id =>
    cases kind with
    | callbacks => exact .inr ⟨id, .inl .callback, OrderedMap.keys_insert _ _ _⟩
    | _ => exact .inl rfl

/-! ### The current ID -/

lemma Rule.componentId_eq (h : Rule value s a s' outcome) (hne : a.kind ≠ .id)
    (hid : s'.pass.componentId = some id) : s.pass.componentId = some id := by
  cases h with
  | id hkind => exact absurd hkind hne
  | amend _ _ h => cases h <;> exact hid
  | parameter | requestBody | response | callback | keyless => cases hid
  | _ => exact hid

/-- The application registers a component under an ID. -/
def Application.Registers (value : Option String) (x : Application) (kind : ComponentKind)
    (id : String) : Prop :=
  Builder.Registers x.state x.subject (attempt value x.state x.subject).1 x.outcome kind id

lemma componentId_of_registers (h : (applied value s a).Registers value kind id) :
    (step value s a).1.pass.componentId = none := by
  by_cases hentered : ∃ callback, (attempt value s a).2 = .entered callback
  · obtain ⟨callback, hentered⟩ := hentered
    rw [step_of_entered hentered]
    rfl
  · rw [step_of_stays (not_exists.mp hentered)]
    exact ((Rule.of_outcome rfl).takeId_of_registers h).2.1

/-- The ID of the pass is one that the annotation issues, or it has been there before and is neither
dropped nor taken. -/
lemma componentId_step (h : (step value s a).1.pass.componentId = some id) :
    a.kind = .id ∧ a.argument = id ∨
      s.pass.componentId = some id ∧ a.kind ≠ .id ∧
        (∀ callback, (applied value s a).outcome ≠ .entered callback) ∧
        ∀ kind id', ¬(applied value s a).Registers value kind id' := by
  by_cases hid : a.kind = .id
  · have hrule : Rule value s a _ .done := .id hid
    rw [step, hrule.attempt_eq fun _ h => by cases h] at h
    exact .inl ⟨hid, Option.some.inj h⟩
  · have hstays : ∀ callback, (attempt value s a).2 ≠ .entered callback := by
      intro callback hentered
      rw [step_of_entered hentered] at h
      cases h
    refine .inr ⟨?_, hid, hstays, fun kind id' hregisters => ?_⟩
    · rw [step_of_stays hstays] at h
      exact (Rule.of_outcome rfl).componentId_eq hid h
    · rw [componentId_of_registers hregisters] at h
      cases h

/-! ### Issued IDs -/

/-- The ID that an annotation issues. -/
def idOf? (a : Annotation) : Option String := if a.kind = .id then some a.argument else none

/-- The IDs that a declaration issues: its name, and those of its annotations. -/
def issuedIds (name : String) (annotations : List Annotation) : List String :=
  name :: annotations.filterMap idOf?

/-- The ID that is issued in front of the annotation at an index: the name is in front of the first
annotation, any other ID is issued by the annotation before. -/
def issued? (name : String) (annotations : List Annotation) : Nat → Option String
  | 0 => some name
  | k + 1 => (annotations[k]?).bind idOf?

lemma idOf?_eq_some_iff : idOf? a = some id ↔ a.kind = .id ∧ a.argument = id := by
  simp [idOf?]

lemma mem_issuedIds {name : String} {k : Nat} (h : issued? name annotations k = some id) :
    id ∈ issuedIds name annotations := by
  cases k with
  | zero =>
    cases h
    exact List.mem_cons_self
  | succ k =>
    obtain ⟨a, ha, hid⟩ := Option.bind_eq_some_iff.mp h
    exact List.mem_cons_of_mem _ (List.mem_filterMap.mpr ⟨a, List.mem_of_getElem? ha, hid⟩)

/-- All applications from one index up to another are such. -/
def Throughout (P : Application → Prop) (applications : List Application) (k i : Nat) : Prop :=
  k ≤ i ∧ ∀ j x, k ≤ j → j < i → applications[j]? = some x → P x

lemma Throughout.refl (P : Application → Prop) (applications : List Application) (i : Nat) :
    Throughout P applications i i :=
  ⟨Nat.le_refl i, fun _ _ hle hlt _ => absurd hlt (Nat.not_lt_of_le hle)⟩

lemma Throughout.succ {P : Application → Prop} {applications : List Application} {k i : Nat}
    {x : Application} (h : Throughout P applications k i) (hx : applications[i]? = some x)
    (hP : P x) : Throughout P applications k (i + 1) := by
  refine ⟨Nat.le_succ_of_le h.1, fun j y hle hlt hy => ?_⟩
  rcases Nat.lt_succ_iff_lt_or_eq.mp hlt with hlt | rfl
  · exact h.2 j y hle hlt hy
  · obtain rfl := Option.some.inj (hx.symm.trans hy)
    exact hP

lemma Throughout.mono {P Q : Application → Prop} {applications : List Application} {k i : Nat}
    (h : Throughout P applications k i) (hPQ : ∀ x, P x → Q x) : Throughout Q applications k i :=
  ⟨h.1, fun j x hle hlt hx => hPQ x (h.2 j x hle hlt hx)⟩

/-- The application neither issues an ID nor enters a callback, which has a pass of its own. -/
def Application.KeepsId (x : Application) : Prop :=
  x.subject.kind ≠ .id ∧ ∀ callback, x.outcome ≠ .entered callback

/-- The ID that is issued at an index is the last one of its pass at another. -/
def Current (applications : List Application) (k i : Nat) : Prop :=
  Throughout Application.KeepsId applications k i

/-- The ID that is issued at an index is still there at another. -/
def Unused (value : Option String) (applications : List Application) (k i : Nat) : Prop :=
  Throughout (fun x => x.KeepsId ∧ ∀ kind id, ¬x.Registers value kind id) applications k i

/-- The annotation at an index registers a component under the ID that is issued at another. -/
structure Uses (value : Option String) (start : State) (name : String)
    (annotations : List Annotation) (k i : Nat) (kind : ComponentKind) (id : String) : Prop where
  registers : ∃ x, (applications value start annotations)[i]? = some x ∧ x.Registers value kind id
  issued : issued? name annotations k = some id
  current : Current (applications value start annotations) k i

lemma getElem?_applications (i : Nat) :
    (applications value s annotations)[i]? =
      (annotations[i]?).map (applied value (run value s (annotations.take i)).1) := by
  induction annotations generalizing s i with
  | nil => rfl
  | cons a rest ih =>
    cases i with
    | zero => rfl
    | succ i =>
      rw [applications, List.getElem?_cons_succ, List.getElem?_cons_succ, ih, List.take_succ_cons,
        run_cons]

lemma run_take_succ {i : Nat} (h : annotations[i]? = some a) :
    (run value s (annotations.take (i + 1))).1 =
      (step value (run value s (annotations.take i)).1 a).1 := by
  rw [List.take_add_one, h, Option.toList_some, run_append]
  rfl

/-- An ID that can be taken has been issued, and not been taken since. -/
lemma exists_issued {doc : Document} {name : String} {i : Nat} (hi : i ≤ annotations.length)
    (h : (run value (.start doc name) (annotations.take i)).1.pass.componentId = some id) :
    ∃ k, issued? name annotations k = some id ∧
      Unused value (applications value (.start doc name) annotations) k i := by
  induction i generalizing id with
  | zero =>
    refine ⟨0, ?_, .refl _ _ 0⟩
    change (if name = "" then none else some name) = some id at h
    split_ifs at h
    exact h
  | succ i ih =>
    have ha : annotations[i]? = some annotations[i] := List.getElem?_eq_getElem hi
    rw [run_take_succ ha] at h
    rcases componentId_step h with hissues | ⟨hid, hne, hstays, hregisters⟩
    · refine ⟨i + 1, ?_, .refl _ _ (i + 1)⟩
      rw [issued?, ha, Option.bind_some]
      exact idOf?_eq_some_iff.mpr hissues
    · obtain ⟨k, hk, hthroughout⟩ := ih (Nat.le_of_succ_le hi) hid
      refine ⟨k, hk, hthroughout.succ ?_ ⟨⟨hne, hstays⟩, hregisters⟩⟩
      rw [getElem?_applications, ha, Option.map_some]

section Registration

variable {doc : Document} {name : String} {i j k : Nat} {x : Application}

/-- An application that registers a component finds its ID in the pass. -/
lemma exists_issued_of_registers
    (hx : (applications value (.start doc name) annotations)[i]? = some x)
    (h : x.Registers value kind id) :
    id ≠ "" ∧ ∃ k, issued? name annotations k = some id ∧
      Unused value (applications value (.start doc name) annotations) k i := by
  rw [getElem?_applications] at hx
  obtain ⟨a, ha, rfl⟩ := Option.map_eq_some_iff.mp hx
  obtain ⟨htake, -⟩ := (Rule.of_outcome rfl).takeId_of_registers h
  obtain ⟨hi, -⟩ := List.getElem?_eq_some_iff.mp ha
  exact ⟨Pass.ne_empty_of_takeId htake,
    exists_issued (Nat.le_of_lt hi) (Pass.componentId_of_takeId htake)⟩

/-- No ID is issued after the current one. -/
lemma le_of_current (hissued : issued? name annotations i = some id) (hi : i ≤ j)
    (hcurrent : Current (applications value s annotations) k j) : i ≤ k := by
  by_contra hlt
  obtain ⟨m, rfl⟩ : ∃ m, i = m + 1 := Nat.exists_eq_succ_of_ne_zero (by omega)
  obtain ⟨a, ha, hid⟩ := Option.bind_eq_some_iff.mp hissued
  have hx : (applications value s annotations)[m]? =
      some (applied value (run value s (annotations.take m)).1 a) := by
    rw [getElem?_applications, ha, Option.map_some]
  exact (hcurrent.2 m _ (by omega) (by omega) hx).1 (idOf?_eq_some_iff.mp hid).1

lemma Uses.not_lt {kind' : ComponentKind} {id' : String}
    (h : Uses value (.start doc name) name annotations k i kind id)
    (h' : Uses value (.start doc name) name annotations k j kind' id') : ¬i < j := by
  intro hlt
  obtain ⟨x, hx, hregisters⟩ := h.registers
  obtain ⟨y, hy, hregisters'⟩ := h'.registers
  obtain ⟨-, k', hissued, hunused⟩ := exists_issued_of_registers hy hregisters'
  have hle : k' ≤ i := Nat.le_trans (le_of_current hissued hunused.1 h'.current) h.current.1
  exact (hunused.2 i x hle hlt hx).2 kind id hregisters

end Registration

/-! ### Runs -/

lemma doc_step : (step value s a).1.doc = (attempt value s a).1.doc := by
  rw [step]
  split
  all_goals
    next hattempt => rw [hattempt]

lemma mem_keysOf_step {key : String} (hkind : kind ≠ .schemas)
    (h : key ∈ (step value s a).1.doc.components.keysOf kind) :
    key ∈ s.doc.components.keysOf kind ∨ (applied value s a).Registers value kind key ∨
      kind = .parameters ∧ NamesParameter a key := by
  rw [doc_step] at h
  have hrule : Rule value s a (attempt value s a).1 (attempt value s a).2 := .of_outcome rfl
  rcases hrule.keysOf_eq hkind with heq | ⟨id, hid, heq⟩
  · exact .inl (heq ▸ h)
  · rw [heq] at h
    split_ifs at h with hmem
    · exact .inl h
    · rcases List.mem_append.mp h with h | h
      · exact .inl h
      · obtain rfl := List.mem_singleton.mp h
        exact .inr hid

lemma mem_keysOf_run {key : String} (hkind : kind ≠ .schemas)
    (h : key ∈ (run value s annotations).1.doc.components.keysOf kind) :
    key ∈ s.doc.components.keysOf kind ∨
      ∃ x ∈ applications value s annotations, x.Registers value kind key ∨
        kind = .parameters ∧ NamesParameter x.subject key := by
  induction annotations generalizing s with
  | nil => exact .inl h
  | cons a rest ih =>
    rcases ih h with hstep | ⟨x, hx, hkey⟩
    · rcases mem_keysOf_step hkind hstep with hkey | hkey
      · exact .inl hkey
      · exact .inr ⟨_, List.mem_cons_self, hkey⟩
    · exact .inr ⟨x, List.mem_cons_of_mem _ hx, hkey⟩

/-! ### Counting -/

/-- The number of components that the pass can still register under its ID. -/
def Pass.pending (pass : Pass) : Nat :=
  match pass.takeId with
  | .ok _ => 1
  | .error _ => 0

lemma Pass.pending_of_none {pass : Pass} (h : pass.componentId = none) : pass.pending = 0 := by
  rw [pending, takeId, h]

lemma Pass.pending_of_takeId {pass : Pass} (h : pass.takeId = .ok id) : pass.pending = 1 := by
  rw [pending, h]

lemma Pass.pending_cases (pass : Pass) :
    pass.pending = 0 ∨ ∃ id, pass.componentId = some id ∧ id ≠ "" ∧ pass.takeId = .ok id := by
  cases h : pass.takeId with
  | error error => exact .inl (by rw [pending, h])
  | ok id => exact .inr ⟨id, componentId_of_takeId h, ne_empty_of_takeId h, rfl⟩

/-- An annotation adds at most the component that it registers. -/
lemma Rule.length_keysOf (h : Rule value s a s' outcome) (kind : ComponentKind)
    (hschemas : kind ≠ .schemas) (hparameters : kind ≠ .parameters) :
    (s'.doc.components.keysOf kind).length = (s.doc.components.keysOf kind).length ∨
      (∃ id, Registers s a s' outcome kind id) ∧
      (s'.doc.components.keysOf kind).length = (s.doc.components.keysOf kind).length + 1 := by
  rcases h.keysOf_eq hschemas with heq | ⟨id, hid | ⟨hkind, -⟩, heq⟩
  · exact .inl (congrArg List.length heq)
  · rw [heq]
    split_ifs
    · exact .inl rfl
    · exact .inr ⟨⟨id, hid⟩, List.length_append⟩
  · exact absurd hkind hparameters

lemma Rule.registered_le (h : Rule value s a s' outcome)
    (hregisters : Registers s a s' outcome kind id) :
    s'.doc.components.registered ≤ s.doc.components.registered + 1 := by
  have hgrows (kind' : ComponentKind) (hschemas : kind' ≠ .schemas)
      (hparameters : kind' ≠ .parameters) :
      (s'.doc.components.keysOf kind').length ≤
        (s.doc.components.keysOf kind').length + if kind' = kind then 1 else 0 := by
    rcases h.length_keysOf kind' hschemas hparameters with heq | ⟨⟨id', hregisters'⟩, heq⟩
    · exact heq ▸ Nat.le_add_right _ _
    · rw [heq, if_pos (hregisters'.unique hregisters)]
  have hbodies := hgrows .requestBodies (by simp) (by simp)
  have hresponses := hgrows .responses (by simp) (by simp)
  have hcallbacks := hgrows .callbacks (by simp) (by simp)
  rw [Components.registered_eq, Components.registered_eq]
  cases kind <;> simp only [reduceCtorEq, if_true, if_false] at hbodies hresponses hcallbacks <;>
    omega

lemma Rule.registered_eq (h : Rule value s a s' outcome)
    (hnone : ∀ kind id, ¬Registers s a s' outcome kind id) :
    s'.doc.components.registered = s.doc.components.registered := by
  have hsame (kind : ComponentKind) (hschemas : kind ≠ .schemas)
      (hparameters : kind ≠ .parameters) :
      (s'.doc.components.keysOf kind).length = (s.doc.components.keysOf kind).length := by
    rcases h.length_keysOf kind hschemas hparameters with heq | ⟨⟨id, hregisters⟩, -⟩
    · exact heq
    · exact absurd hregisters (hnone kind id)
  rw [Components.registered_eq, Components.registered_eq, hsame .requestBodies (by simp) (by simp),
    hsame .responses (by simp) (by simp), hsame .callbacks (by simp) (by simp)]

/-- The number of IDs that are not empty. -/
def countNonempty (ids : List String) : Nat := (ids.filter (· ≠ "")).length

lemma pending_step (value : Option String) (s : State) (a : Annotation) :
    (step value s a).1.pass.pending ≤ s.pass.pending + countNonempty (idOf? a).toList := by
  rcases (step value s a).1.pass.pending_cases with hzero | ⟨id, hid, hne, htake⟩
  · rw [hzero]
    exact Nat.zero_le _
  · rw [Pass.pending_of_takeId htake]
    rcases componentId_step hid with hissues | ⟨hbefore, -⟩
    · rw [idOf?_eq_some_iff.mpr hissues]
      simp [countNonempty, hne]
    · have htake' : s.pass.takeId = .ok id := by simp [Pass.takeId, hbefore, hne]
      rw [Pass.pending_of_takeId htake']
      exact Nat.le_add_right _ _

/-- A component that is registered uses up an ID. -/
lemma registered_step (value : Option String) (s : State) (a : Annotation) :
    (step value s a).1.doc.components.registered + (step value s a).1.pass.pending ≤
      s.doc.components.registered + s.pass.pending + countNonempty (idOf? a).toList := by
  have hrule : Rule value s a (attempt value s a).1 (attempt value s a).2 := .of_outcome rfl
  rw [doc_step]
  by_cases hregisters : ∃ kind id, (applied value s a).Registers value kind id
  · obtain ⟨kind, id, hregisters⟩ := hregisters
    have hle := hrule.registered_le hregisters
    have hpending := Pass.pending_of_takeId (hrule.takeId_of_registers hregisters).1
    have hnone := Pass.pending_of_none (componentId_of_registers hregisters)
    omega
  · have heq := hrule.registered_eq fun kind id h => hregisters ⟨kind, id, h⟩
    have hpending := pending_step value s a
    omega

lemma countNonempty_append (ids ids' : List String) :
    countNonempty (ids ++ ids') = countNonempty ids + countNonempty ids' := by
  rw [countNonempty, List.filter_append, List.length_append]
  rfl

lemma registered_run (value : Option String) (s : State) (annotations : List Annotation) :
    (run value s annotations).1.doc.components.registered +
        (run value s annotations).1.pass.pending ≤
      s.doc.components.registered + s.pass.pending +
        countNonempty (annotations.filterMap idOf?) := by
  induction annotations generalizing s with
  | nil => exact Nat.le_refl _
  | cons a rest ih =>
    have hids : (a :: rest).filterMap idOf? = (idOf? a).toList ++ rest.filterMap idOf? := by
      cases h : idOf? a <;> simp [h]
    have hstep := registered_step value s a
    have hrest := ih (step value s a).1
    rw [run_cons, hids, countNonempty_append]
    dsimp only
    omega

lemma pending_start (name : String) : (Pass.start name).pending ≤ countNonempty [name] := by
  by_cases hname : name = ""
  · rw [Pass.pending_of_none (by rw [Pass.start, if_pos hname])]
    exact Nat.zero_le _
  · have htake : (Pass.start name).takeId = .ok name := by simp [Pass.takeId, Pass.start, hname]
    rw [Pass.pending_of_takeId htake]
    simp [countNonempty, hname]

lemma addTo_doc_eq_run (d : Declaration) (doc : Document) :
    (d.addTo doc).1 = (run d.value (.start doc d.name) d.annotations).1.doc := by
  rw [Declaration.addTo]
  exact runPass_doc

/-- A component that a declaration registers has a key that is not empty: the last ID that has been
issued in its pass, by the name of the declaration or by an annotation. No ID serves for two
components. So the keys that a declaration adds are IDs that it issues and, for parameters, those
that parameters have of their own; and it adds no more request bodies, responses and callbacks than
it issues IDs. -/
theorem ids_register_once (d : Declaration) (doc : Document) :
    let start := State.start doc d.name
    (∀ i x kind id, (applications d.value start d.annotations)[i]? = some x →
      x.Registers d.value kind id → id ≠ "" ∧
        id ∈ (attempt d.value x.state x.subject).1.doc.components.keysOf kind ∧
        ∃ k, Uses d.value start d.name d.annotations k i kind id) ∧
    (∀ k i j kind kind' id id', Uses d.value start d.name d.annotations k i kind id →
      Uses d.value start d.name d.annotations k j kind' id' → i = j) ∧
    (∀ kind key, kind ≠ .schemas → key ∈ (d.addTo doc).1.components.keysOf kind →
      key ∈ doc.components.keysOf kind ∨ key ∈ issuedIds d.name d.annotations ∨
        kind = .parameters ∧ ∃ a ∈ d.annotations, NamesParameter a key) ∧
    (d.addTo doc).1.components.registered ≤
      doc.components.registered + countNonempty (issuedIds d.name d.annotations) := by
  intro start
  have hissued {i : Nat} {x : Application} {kind : ComponentKind} {id : String}
      (hx : (applications d.value start d.annotations)[i]? = some x)
      (hregisters : x.Registers d.value kind id) :
      ∃ k, Uses d.value start d.name d.annotations k i kind id := by
    obtain ⟨-, k, hk, hunused⟩ := exists_issued_of_registers hx hregisters
    exact ⟨k, ⟨x, hx, hregisters⟩, hk, hunused.mono fun _ h => h.1⟩
  refine ⟨?_, ?_, ?_, ?_⟩
  · intro i x kind id hx hregisters
    obtain ⟨hne, -⟩ := exists_issued_of_registers hx hregisters
    refine ⟨hne, ?_, hissued hx hregisters⟩
    rw [getElem?_applications] at hx
    obtain ⟨a, -, rfl⟩ := Option.map_eq_some_iff.mp hx
    exact ((Rule.of_outcome rfl).takeId_of_registers hregisters).2.2
  · intro k i j kind kind' id id' h h'
    exact Nat.le_antisymm (Nat.le_of_not_lt (h'.not_lt h)) (Nat.le_of_not_lt (h.not_lt h'))
  · intro kind key hkind hkey
    rw [addTo_doc_eq_run] at hkey
    rcases mem_keysOf_run hkind hkey with hkey | ⟨x, hx, hregisters | ⟨hparameters, hname⟩⟩
    · exact .inl hkey
    · obtain ⟨i, hi⟩ := List.mem_iff_getElem?.mp hx
      obtain ⟨k, huses⟩ := hissued hi hregisters
      exact .inr (.inl (mem_issuedIds huses.issued))
    · have hmem : x.subject ∈ (applications d.value start d.annotations).map (·.subject) :=
        List.mem_map_of_mem hx
      rw [map_subject_applications] at hmem
      exact .inr (.inr ⟨hparameters, x.subject, hmem, hname⟩)
  · have hstart := pending_start d.name
    calc (d.addTo doc).1.components.registered
        = (run d.value start d.annotations).1.doc.components.registered := by rw [addTo_doc_eq_run]
      _ ≤ (run d.value start d.annotations).1.doc.components.registered +
            (run d.value start d.annotations).1.pass.pending := Nat.le_add_right _ _
      _ ≤ doc.components.registered + (Pass.start d.name).pending +
            countNonempty (d.annotations.filterMap idOf?) :=
          registered_run d.value start d.annotations
      _ ≤ doc.components.registered +
            (countNonempty [d.name] + countNonempty (d.annotations.filterMap idOf?)) := by omega
      _ = doc.components.registered + countNonempty (issuedIds d.name d.annotations) := by
        rw [← countNonempty_append, List.singleton_append, issuedIds]

/-- As many components as IDs: the name serves for the request body. -/
example :
    (run none (.start {} "User") [{ kind := .requestBody }, { kind := .id, argument := "Found" },
      { kind := .response }, { kind := .response }]).1.doc.components.registered = 2 := by
  rfl

end Builder

end ApiScribe
