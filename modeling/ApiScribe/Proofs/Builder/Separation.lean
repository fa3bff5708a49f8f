import ApiScribe.Proofs.Builder.Schemas

/-!
# Separate places

Every object that annotations find again has one way that leads to it, through the objects around
it. What is written at a place is read there again, and is seen only at the places that it leads
through and at those that lead through it: two places of which neither leads through the other part
ways somewhere, in one map or in two fields of one object.
-/

namespace ApiScribe

open OpenApi

/-! ### Places and their ways -/

namespace Builder

/-- The places of the objects that annotations find again. A table of paths is that of a callback,
or the document's own. -/
inductive Place where
  | table (container : Container)
  | operation (place : OperationPlace)
  | parameter (place : ParameterPlace)
  | requestBody (place : RequestBodyPlace)
  | response (place : ResponsePlace)
deriving DecidableEq

/-- The places on the way to a table of paths, from its own outwards. -/
def Container.way : Container → List Place
  | .document => [.table .document]
  | .component id => [.table (.component id)]
  | .inline container path method key =>
    .table (.inline container path method key) :: .operation ⟨container, path, method⟩ ::
      container.way

/-- The places on the way to an operation, from its own outwards. -/
def OperationPlace.way (place : OperationPlace) : List Place :=
  .operation place :: place.container.way

/-- The component map that a table of paths is in, which is none for the document's own paths and
what is in them. -/
def Container.kind? : Container → Option ComponentKind
  | .document => none
  | .component _ => some .callbacks
  | .inline container _ _ _ => container.kind?

namespace Place

variable {l l' k m : Place}

/-- The objects that can stand in a place. -/
@[reducible]
def Object : Place → Type
  | .table _ => Paths
  | .operation _ => Operation
  | .parameter _ => Parameter
  | .requestBody _ => RequestBody
  | .response _ => Response

/-- The places on the way to an object, from its own outwards. -/
def way (l : Place) : List Place :=
  match l with
  | .table c => c.way
  | .operation place => place.way
  | .parameter (.component _) => [l]
  | .parameter (.inline place _) => l :: place.way
  | .requestBody (.component _) => [l]
  | .requestBody (.inline place) => l :: place.way
  | .response (.component _) => [l]
  | .response (.inline place _) => l :: place.way

/-- The second place is on the way to the first one, or is the first one. -/
def PassesThrough (l k : Place) : Prop := k ∈ l.way

instance (l k : Place) : Decidable (l.PassesThrough k) := inferInstanceAs (Decidable (k ∈ l.way))

/-- The component map that a place is in, which is none for what is in the document's own paths. -/
def kind? : Place → Option ComponentKind
  | .table c => c.kind?
  | .operation place => place.container.kind?
  | .parameter (.component _) => some .parameters
  | .parameter (.inline place _) => place.container.kind?
  | .requestBody (.component _) => some .requestBodies
  | .requestBody (.inline place) => place.container.kind?
  | .response (.component _) => some .responses
  | .response (.inline place _) => place.container.kind?

/-! ### The object around an object -/

/-- The place of the object that the object at a place is a part of. The document's paths and its
components are in no such object. -/
def parent? : Place → Option Place
  | .table .document => none
  | .table (.component _) => none
  | .table (.inline container path method _) => some (.operation ⟨container, path, method⟩)
  | .operation place => some (.table place.container)
  | .parameter (.component _) => none
  | .parameter (.inline place _) => some (.operation place)
  | .requestBody (.component _) => none
  | .requestBody (.inline place) => some (.operation place)
  | .response (.component _) => none
  | .response (.inline place _) => some (.operation place)

/-- The places of objects that are in no other object. -/
inductive IsRoot : Place → Prop
  | document : IsRoot (.table .document)
  | callback (id : String) : IsRoot (.table (.component id))
  | parameter (id : String) : IsRoot (.parameter (.component id))
  | requestBody (id : String) : IsRoot (.requestBody (.component id))
  | response (id : String) : IsRoot (.response (.component id))

/-- The places of the parts of an operation. -/
inductive IsPartOf (place : OperationPlace) : Place → Prop
  | callback (key : String) : IsPartOf place (.table (place.callback key))
  | parameter (index : Nat) : IsPartOf place (.parameter (.inline place index))
  | requestBody : IsPartOf place (.requestBody (.inline place))
  | response (status : String) : IsPartOf place (.response (.inline place status))

lemma isRoot_of_parent (h : l.parent? = none) : l.IsRoot := by
  rcases l with (_ | _ | _) | _ | (_ | _) | (_ | _) | (_ | _) <;> cases h <;> constructor

lemma isPartOf_of_parent {place : OperationPlace} (h : l.parent? = some (.operation place)) :
    l.IsPartOf place := by
  rcases l with (_ | _ | ⟨_, _, _, key⟩) | _ | (_ | _) | (_ | _) | (_ | _) <;> cases h
  case table.inline => exact .callback key
  all_goals constructor

lemma exists_operation_of_parent {c : Container} (h : l.parent? = some (.table c)) :
    ∃ place : OperationPlace, l = .operation place ∧ place.container = c := by
  rcases l with (_ | _ | _) | place | (_ | _) | (_ | _) | (_ | _) <;> cases h
  exact ⟨place, rfl, rfl⟩

lemma way_of_root (h : l.parent? = none) : l.way = [l] := by
  rcases l with (_ | _ | _) | _ | (_ | _) | (_ | _) | (_ | _) <;> cases h <;> rfl

lemma way_of_parent (h : l.parent? = some m) : l.way = l :: m.way := by
  rcases l with (_ | _ | _) | _ | (_ | _) | (_ | _) | (_ | _) <;> cases h <;> rfl

lemma kind?_of_parent (h : l.parent? = some m) : l.kind? = m.kind? := by
  rcases l with (_ | _ | _) | _ | (_ | _) | (_ | _) | (_ | _) <;> cases h <;> rfl

/-- Induction from the outside to the inside. -/
lemma parent_induction {P : Place → Prop} (step : ∀ l, (∀ m, l.parent? = some m → P m) → P l)
    (l : Place) : P l := by
  have hoperation {place : OperationPlace} (h : P (.table place.container)) :
      P (.operation place) := by
    refine step _ fun m hm => ?_
    cases hm
    exact h
  have htable (c : Container) : P (.table c) := by
    induction c with
    | document | component => exact step _ fun m hm => by cases hm
    | inline container path method key ih =>
      refine step _ fun m hm => ?_
      cases hm
      exact hoperation ih
  rcases l with c | place | (_ | _) | (_ | _) | (_ | _)
  case table => exact htable c
  case operation => exact hoperation (htable _)
  all_goals
    refine step _ fun m hm => ?_
    cases hm <;> exact hoperation (htable _)

lemma PassesThrough.refl (l : Place) : l.PassesThrough l := by
  cases h : l.parent? with
  | none => simp [PassesThrough, way_of_root h]
  | some m => simp [PassesThrough, way_of_parent h]

lemma passesThrough_of_parent (h : l.parent? = some m) :
    l.PassesThrough k ↔ k = l ∨ m.PassesThrough k := by
  rw [PassesThrough, way_of_parent h]
  exact List.mem_cons

lemma eq_of_passesThrough_of_root (h : l.parent? = none) (hk : l.PassesThrough k) : k = l := by
  rw [PassesThrough, way_of_root h] at hk
  exact List.mem_singleton.mp hk

/-- Induction along the way, from a place on it to its end. -/
@[elab_as_elim]
lemma PassesThrough.induction {P : Place → Prop} (h : l.PassesThrough k) (self : P k)
    (inner : ∀ l m, l.parent? = some m → P m → P l) : P l := by
  induction l using parent_induction with
  | step l ih =>
    cases hl : l.parent? with
    | none => exact eq_of_passesThrough_of_root hl h ▸ self
    | some m =>
      rcases (passesThrough_of_parent hl).mp h with rfl | hm
      · exact self
      · exact inner l m hl (ih m hl hm)

/-- The way to an object ends at the document's paths or at a component. -/
lemma exists_root (l : Place) : ∃ k, l.PassesThrough k ∧ k.parent? = none := by
  induction l using parent_induction with
  | step l ih =>
    cases h : l.parent? with
    | none => exact ⟨l, .refl l, h⟩
    | some m =>
      obtain ⟨k, hk, hroot⟩ := ih m h
      exact ⟨k, (passesThrough_of_parent h).mpr (.inr hk), hroot⟩

lemma kind?_of_passesThrough (h : l.PassesThrough k) : l.kind? = k.kind? :=
  h.induction rfl fun _ _ hparent hm => (kind?_of_parent hparent).trans hm

/-- A way that leads on inside of an object leads through a part of it. -/
lemma exists_part (h : l.PassesThrough m) (hne : m ≠ l) :
    ∃ k, l.PassesThrough k ∧ k.parent? = some m := by
  have hpart : m = l ∨ ∃ k, l.PassesThrough k ∧ k.parent? = some m := by
    refine h.induction (.inl rfl) fun l n hparent hn => .inr ?_
    rcases hn with rfl | ⟨k, hk, hm⟩
    · exact ⟨l, .refl l, hparent⟩
    · exact ⟨k, (passesThrough_of_parent hparent).mpr (.inr hk), hm⟩
  exact hpart.resolve_left hne

/-- The ways to two places part, unless one of them leads through the other place. -/
lemma exists_fork (h : ¬l.PassesThrough l') (h' : ¬l'.PassesThrough l) :
    ∃ k k', l.PassesThrough k ∧ l'.PassesThrough k' ∧ k ≠ k' ∧ k.parent? = k'.parent? := by
  -- the innermost place on the way to `l'` that `l` leads through, if any, is where they part
  induction l' using parent_induction with
  | step l' ih =>
    cases hl' : l'.parent? with
    | none =>
      obtain ⟨k, hk, hroot⟩ := l.exists_root
      refine ⟨k, l', hk, .refl l', ?_, hroot.trans hl'.symm⟩
      rintro rfl
      exact h hk
    | some m =>
      have hm' : ¬m.PassesThrough l := fun hm => h' ((passesThrough_of_parent hl').mpr (.inr hm))
      by_cases hm : l.PassesThrough m
      · have hne : m ≠ l := by
          rintro rfl
          exact hm' (.refl m)
        obtain ⟨k, hk, hparent⟩ := exists_part hm hne
        refine ⟨k, l', hk, .refl l', ?_, hparent.trans hl'.symm⟩
        rintro rfl
        exact h hk
      · obtain ⟨k, k', hk, hk', hne, hparent⟩ := ih m hl' hm hm'
        exact ⟨k, k', hk, (passesThrough_of_parent hl').mpr (.inr hk'), hne, hparent⟩

end Place

end Builder

open Builder

/-! ### Reading and writing -/

namespace OpenApi.Document

variable {doc : Document} {l l' k k' m : Place}

/-- The object at a place, if it is there and written in place. -/
def find? (doc : Document) : (l : Place) → Option l.Object
  | .table c => doc.paths? c
  | .operation place => doc.operation? place
  | .parameter place => doc.parameter? place
  | .requestBody place => doc.requestBody? place
  | .response place => doc.response? place

/-- Change the object at a place. -/
def modify (doc : Document) : (l : Place) → (l.Object → l.Object) → Document
  | .table c, f => doc.modifyPaths c f
  | .operation place, f => doc.modifyOperation place f
  | .parameter place, f => doc.modifyParameter f place
  | .requestBody place, f => doc.modifyRequestBody f place
  | .response place, f => doc.modifyResponse f place

/-- Put another object in the place of one. -/
def replace (doc : Document) (l : Place) (object : l.Object) : Document :=
  doc.modify l fun _ => object

/-- What is left of a document without the components of a kind, or without its own paths. -/
def without (doc : Document) : Option ComponentKind → Document
  | none => { doc with paths := {} }
  | some .schemas => doc.modifyComponents fun c => { c with schemas := {} }
  | some .parameters => doc.modifyComponents fun c => { c with parameters := {} }
  | some .requestBodies => doc.modifyComponents fun c => { c with requestBodies := {} }
  | some .responses => doc.modifyComponents fun c => { c with responses := {} }
  | some .callbacks => doc.modifyComponents fun c => { c with callbacks := {} }

/-- The keys of the map that has the object at a place as one of its values, in their order. -/
def keysAround (doc : Document) : Place → Option (List String)
  | .table .document => none
  | .table (.component _) => some doc.components.callbacks.keys
  | .table (.inline container path method _) =>
    (doc.operation? ⟨container, path, method⟩).map (·.callbacks.keys)
  | .operation place => (doc.paths? place.container).map OrderedMap.keys
  | .parameter (.component _) => some doc.components.parameters.keys
  | .parameter (.inline _ _) => none
  | .requestBody (.component _) => some doc.components.requestBodies.keys
  | .requestBody (.inline _) => none
  | .response (.component _) => some doc.components.responses.keys
  | .response (.inline place _) => (doc.operation? place).map (·.responses.keys)

lemma find?_modify (doc : Document) (l : Place) (f : l.Object → l.Object) :
    (doc.modify l f).find? l = (doc.find? l).map f := by
  cases l with
  | table c => exact paths?_modifyPaths_self doc c f
  | operation place => exact operation?_modifyOperation_self doc place f
  | parameter place => exact parameter?_modifyParameter doc f place
  | requestBody place => exact requestBody?_modifyRequestBody doc f place
  | response place => exact response?_modifyResponse doc f place

/-! ### Along the way -/

/-- An object is read through the object around it. -/
lemma exists_find?_of_parent (h : l.parent? = some m) :
    ∃ get? : m.Object → Option l.Object, ∀ doc : Document,
      doc.find? l = (doc.find? m).bind get? := by
  rcases l with (_ | _ | ⟨c, path, method, key⟩) | _ | (_ | _) | (_ | _) | (_ | _) <;> cases h
  case table.inline => exact ⟨_, fun doc => paths?_inline doc ⟨c, path, method⟩ key⟩
  all_goals exact ⟨_, fun _ => rfl⟩

/-- A change of an object is a change of the object around it. -/
lemma exists_modify_of_parent (h : l.parent? = some m) (f : l.Object → l.Object) :
    ∃ g : m.Object → m.Object, ∀ doc : Document, doc.modify l f = doc.modify m g := by
  rcases l with (_ | _ | _) | _ | (_ | _) | (_ | _) | (_ | _) <;> cases h <;>
    exact ⟨_, fun _ => rfl⟩

lemma exists_find?_of_passesThrough (h : l.PassesThrough k) :
    ∃ get? : k.Object → Option l.Object, ∀ doc : Document,
      doc.find? l = (doc.find? k).bind get? := by
  refine h.induction ⟨some, fun doc => (Option.bind_fun_some _).symm⟩ ?_
  rintro l m hparent ⟨outer, houter⟩
  obtain ⟨inner, hinner⟩ := exists_find?_of_parent hparent
  refine ⟨fun object => (outer object).bind inner, fun doc => ?_⟩
  rw [hinner, houter, Option.bind_assoc]

lemma exists_modify_of_passesThrough (h : l.PassesThrough k) (f : l.Object → l.Object) :
    ∃ g : k.Object → k.Object, ∀ doc : Document, doc.modify l f = doc.modify k g := by
  revert f
  refine h.induction (fun f => ⟨f, fun _ => rfl⟩) ?_
  intro l m hparent hm f
  obtain ⟨f', hf'⟩ := exists_modify_of_parent hparent f
  obtain ⟨g, hg⟩ := hm f'
  exact ⟨g, fun doc => (hf' doc).trans (hg doc)⟩

/-! ### Where ways part -/

lemma find?_modify_of_roots (hk : k.IsRoot) (hk' : k'.IsRoot) (hne : k ≠ k')
    (f : k.Object → k.Object) : (doc.modify k f).find? k' = doc.find? k' := by
  cases hk with
  | document =>
    cases hk' with
    | document => exact absurd rfl hne
    | _ => rfl
  | callback id =>
    cases hk' with
    | callback id' => exact OrderedMap.get?_modify_of_ne (by rintro rfl; exact hne rfl) f
    | _ => rfl
  | parameter id =>
    cases hk' with
    | parameter id' => exact OrderedMap.get?_modify_of_ne (by rintro rfl; exact hne rfl) f
    | _ => rfl
  | requestBody id =>
    cases hk' with
    | requestBody id' => exact OrderedMap.get?_modify_of_ne (by rintro rfl; exact hne rfl) f
    | _ => rfl
  | response id =>
    cases hk' with
    | response id' => exact OrderedMap.get?_modify_of_ne (by rintro rfl; exact hne rfl) f
    | _ => rfl

/-- What is read off an operation is not changed by a change that concerns something else. -/
lemma bind_operation?_modifyOperation {β : Type} (doc : Document) (place : OperationPlace)
    {f : Operation → Operation} {get? : Operation → Option β} (h : ∀ o, get? (f o) = get? o) :
    ((doc.modifyOperation place f).operation? place).bind get? =
      (doc.operation? place).bind get? := by
  rw [operation?_modifyOperation_self, Option.bind_map]
  exact congrArg (Option.bind _) (funext h)

lemma find?_modify_of_parts {place : OperationPlace} (hk : k.IsPartOf place)
    (hk' : k'.IsPartOf place) (hne : k ≠ k') (f : k.Object → k.Object) :
    (doc.modify k f).find? k' = doc.find? k' := by
  cases hk' with
  | callback key' =>
    have hread (doc : Document) := paths?_inline doc place key'
    refine (hread _).trans (Eq.trans ?_ (hread _).symm)
    cases hk with
    | callback key =>
      have hkey : key ≠ key' := by rintro rfl; exact hne rfl
      refine bind_operation?_modifyOperation doc place fun o => ?_
      exact congrArg (Option.bind · RefOr.item?) (OrderedMap.get?_modify_of_ne hkey _)
    | _ => exact bind_operation?_modifyOperation doc place fun o => rfl
  | parameter index' =>
    cases hk with
    | parameter index =>
      have hindex : index ≠ index' := by rintro rfl; exact hne rfl
      refine bind_operation?_modifyOperation doc place fun o => ?_
      exact congrArg (Option.bind · RefOr.item?) (List.getElem?_modify_ne _ _ hindex)
    | _ => exact bind_operation?_modifyOperation doc place fun o => rfl
  | requestBody =>
    cases hk with
    | requestBody => exact absurd rfl hne
    | _ => exact bind_operation?_modifyOperation doc place fun o => rfl
  | response status' =>
    cases hk with
    | response status =>
      have hstatus : status ≠ status' := by rintro rfl; exact hne rfl
      refine bind_operation?_modifyOperation doc place fun o => ?_
      exact congrArg (Option.bind · RefOr.item?) (OrderedMap.get?_modify_of_ne hstatus _)
    | _ => exact bind_operation?_modifyOperation doc place fun o => rfl

/-- Two parts of one object, or two objects that are in no other one, are changed apart. -/
lemma find?_modify_of_siblings (hne : k ≠ k') (h : k.parent? = k'.parent?)
    (f : k.Object → k.Object) : (doc.modify k f).find? k' = doc.find? k' := by
  cases hk : k.parent? with
  | none =>
    have hk' : k'.parent? = none := h.symm.trans hk
    exact find?_modify_of_roots (Place.isRoot_of_parent hk) (Place.isRoot_of_parent hk') hne f
  | some m =>
    have hk' : k'.parent? = some m := h.symm.trans hk
    cases m with
    | table c =>
      obtain ⟨place, rfl, hplace⟩ := Place.exists_operation_of_parent hk
      obtain ⟨place', rfl, hplace'⟩ := Place.exists_operation_of_parent hk'
      refine operation?_modifyOperation_of_ne (hplace.trans hplace'.symm) ?_ f
      rintro rfl
      exact hne rfl
    | operation place =>
      exact find?_modify_of_parts (Place.isPartOf_of_parent hk) (Place.isPartOf_of_parent hk') hne f
    | parameter | requestBody | response =>
      rcases k with (_ | _ | _) | _ | (_ | _) | (_ | _) | (_ | _) <;> cases hk

lemma find?_modify_of_apart (h : ¬l.PassesThrough l') (h' : ¬l'.PassesThrough l)
    (f : l.Object → l.Object) : (doc.modify l f).find? l' = doc.find? l' := by
  obtain ⟨k, k', hk, hk', hne, hparent⟩ := Place.exists_fork h h'
  obtain ⟨g, hg⟩ := exists_modify_of_passesThrough hk f
  obtain ⟨get?, hget?⟩ := exists_find?_of_passesThrough hk'
  calc
    (doc.modify l f).find? l' = ((doc.modify k g).find? k').bind get? := by rw [hg, hget?]
    _ = (doc.find? k').bind get? := by rw [find?_modify_of_siblings hne hparent]
    _ = doc.find? l' := (hget? doc).symm

/-! ### What is around a place -/

lemma without_modify_of_root (h : k.IsRoot) (f : k.Object → k.Object) :
    (doc.modify k f).without k.kind? = doc.without k.kind? := by
  cases h <;> rfl

/-- A change concerns the paths or the components of one kind. -/
lemma without_modify (doc : Document) (l : Place) (f : l.Object → l.Object) :
    (doc.modify l f).without l.kind? = doc.without l.kind? := by
  obtain ⟨k, hk, hroot⟩ := l.exists_root
  obtain ⟨g, hg⟩ := exists_modify_of_passesThrough hk f
  rw [hg, Place.kind?_of_passesThrough hk]
  exact without_modify_of_root (Place.isRoot_of_parent hroot) g

lemma keysAround_modify_self (doc : Document) (k : Place) (f : k.Object → k.Object) :
    (doc.modify k f).keysAround k = doc.keysAround k := by
  rcases k with (_ | id | ⟨c, path, method, key⟩) | place | (id | _) | (id | _) | (id | _)
  case table.inline =>
    have hread := operation?_modifyPaths_callback doc ⟨c, path, method⟩ key f
    rw [OperationPlace.callback] at hread
    simp [keysAround, modify, hread, Operation.withCallbacks, Function.comp_def]
  case operation =>
    simp [keysAround, modify, modifyOperation, paths?_modifyPaths_self, PathTable.modifyOperation,
      Function.comp_def]
  case response.inline =>
    simp [keysAround, modify, modifyResponse, operation?_modifyOperation_self, Function.comp_def]
  case table.component | parameter.component | requestBody.component | response.component =>
    exact congrArg some (OrderedMap.keys_modify _ id f)
  all_goals rfl

/-- No map on the way to a place gets other keys, or its keys in another order. -/
lemma keysAround_modify (h : l.PassesThrough k) (f : l.Object → l.Object) :
    (doc.modify l f).keysAround k = doc.keysAround k := by
  obtain ⟨g, hg⟩ := exists_modify_of_passesThrough h f
  rw [hg, keysAround_modify_self]

/-! ### Changes that change nothing -/

lemma modifyParameter_of_parameter? {place : ParameterPlace} {f : Parameter → Parameter}
    {p : Parameter} (h : doc.parameter? place = some p) (hf : f p = p) :
    doc.modifyParameter f place = doc := by
  cases place with
  | component id => rw [modifyParameter, modifyComponents, OrderedMap.modify_of_get? h hf]
  | inline operation index =>
    obtain ⟨o, ho, h⟩ := Option.bind_eq_some_iff.mp h
    obtain ⟨entry, hentry, h⟩ := Option.bind_eq_some_iff.mp h
    have hparameters : o.parameters.modify index (RefOr.mapItem f) = o.parameters := by
      obtain ⟨hindex, rfl⟩ := List.getElem?_eq_some_iff.mp hentry
      rw [List.modify_eq_set_getElem?, hentry]
      change o.parameters.set index (RefOr.mapItem f o.parameters[index]) = o.parameters
      rw [RefOr.mapItem_of_item? h hf, List.set_getElem_self hindex]
    refine modifyOperation_of_operation? ho ?_
    rw [hparameters]
    cases o
    rfl

lemma modifyRequestBody_of_requestBody? {place : RequestBodyPlace} {f : RequestBody → RequestBody}
    {b : RequestBody} (h : doc.requestBody? place = some b) (hf : f b = b) :
    doc.modifyRequestBody f place = doc := by
  cases place with
  | component id => rw [modifyRequestBody, modifyComponents, OrderedMap.modify_of_get? h hf]
  | inline operation =>
    obtain ⟨o, ho, h⟩ := Option.bind_eq_some_iff.mp h
    obtain ⟨entry, hentry, h⟩ := Option.bind_eq_some_iff.mp h
    have hbody : o.requestBody.map (RefOr.mapItem f) = o.requestBody := by
      rw [hentry, Option.map_some, RefOr.mapItem_of_item? h hf]
    refine modifyOperation_of_operation? ho ?_
    rw [hbody]
    cases o
    rfl

lemma modifyResponse_of_response? {place : ResponsePlace} {f : Response → Response} {r : Response}
    (h : doc.response? place = some r) (hf : f r = r) : doc.modifyResponse f place = doc := by
  cases place with
  | component id => rw [modifyResponse, modifyComponents, OrderedMap.modify_of_get? h hf]
  | inline operation status =>
    obtain ⟨o, ho, h⟩ := Option.bind_eq_some_iff.mp h
    obtain ⟨entry, hentry, h⟩ := Option.bind_eq_some_iff.mp h
    have hresponses : o.responses.modify status (RefOr.mapItem f) = o.responses :=
      OrderedMap.modify_of_get? hentry (RefOr.mapItem_of_item? h hf)
    refine modifyOperation_of_operation? ho ?_
    rw [hresponses]
    cases o
    rfl

lemma modify_of_find? {f : l.Object → l.Object} {object : l.Object}
    (h : doc.find? l = some object) (hf : f object = object) : doc.modify l f = doc := by
  cases l with
  | table c => exact modifyPaths_of_paths? h hf
  | operation place => exact modifyOperation_of_operation? h hf
  | parameter place => exact modifyParameter_of_parameter? h hf
  | requestBody place => exact modifyRequestBody_of_requestBody? h hf
  | response place => exact modifyResponse_of_response? h hf

/-- An object that is found at a place, however deep in callbacks, can be replaced by another one,
which is found there then. The document stays as it is but for the field that the place is in. Every
other place has the object that it had, or has none as before, unless one of the two places leads
through the other. Replacing an object by itself changes nothing, and the maps on the way keep their
keys in their order. -/
theorem replace_is_local {object : l.Object} (h : doc.find? l = some object) (object' : l.Object) :
    (doc.replace l object').find? l = some object' ∧
    (doc.replace l object').without l.kind? = doc.without l.kind? ∧
    (∀ l' : Place, ¬l'.PassesThrough l → ¬l.PassesThrough l' →
      (doc.replace l object').find? l' = doc.find? l') ∧
    doc.replace l object = doc ∧
    ∀ k : Place, l.PassesThrough k →
      (doc.replace l object').keysAround k = doc.keysAround k := by
  refine ⟨?_, without_modify doc l _, fun l' h' hl => find?_modify_of_apart hl h' _,
    modify_of_find? h rfl, fun k hk => keysAround_modify hk _⟩
  rw [replace, find?_modify, h, Option.map_some]

/-- Replacing an operation inside a callback leaves the other operation on its path as it is. -/
theorem replace_receipt_is_local :
    let receipt : Operation := { summary := "Receipt" }
    let signed : Operation := { summary := "Signed receipt" }
    let pay : Operation := { callbacks := ⟨[("onRefund", .item {}),
      ("onPaid", .item ⟨[("/receipt", { put := some receipt, post := some {} })]⟩)]⟩ }
    let doc : Document :=
      { components := { callbacks := ⟨[("Billing", ⟨[("/pay", { post := some pay })]⟩)]⟩ } }
    let c : Container := .inline (.component "Billing") "/pay" .post "onPaid"
    let l : Place := .operation ⟨c, "/receipt", .put⟩
    let l' : Place := .operation ⟨c, "/receipt", .post⟩
    doc.find? l = some receipt ∧ ¬l'.PassesThrough l ∧ ¬l.PassesThrough l' ∧
      l.PassesThrough (.table c) ∧
      (doc.replace l signed).find? l = some signed ∧
      (doc.replace l signed).without (some .callbacks) = {} ∧
      (doc.replace l signed).find? l' = some {} ∧
      doc.replace l receipt = doc ∧
      (doc.replace l signed).keysAround (.table c) = some ["onRefund", "onPaid"] := by
  intro receipt signed pay doc c l l'
  have hfound : doc.find? l = some receipt := rfl
  have hl' : ¬l'.PassesThrough l := by decide +kernel
  have hl : ¬l.PassesThrough l' := by decide +kernel
  have hc : l.PassesThrough (.table c) := by decide +kernel
  obtain ⟨hsame, hfields, hothers, hback, hkeys⟩ := replace_is_local hfound signed
  exact ⟨hfound, hl', hl, hc, hsame, hfields, hothers l' hl' hl, hback, hkeys _ hc⟩

end OpenApi.Document

end ApiScribe
