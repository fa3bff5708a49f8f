import ApiScribe.Builder.Locator
import ApiScribe.Proofs.Paths

/-!
# Laws of places

Reading a place after something has been changed there, or around it. A change in a callback's table
leaves the operation that has the callback where it is, and so every operation further out.
-/

namespace ApiScribe.OpenApi

namespace RefOr

variable {α : Type}

@[simp] lemma item?_mapItem (f : α → α) (r : RefOr α) : (r.mapItem f).item? = r.item?.map f := by
  cases r <;> rfl

lemma mapItem_id : (mapItem fun v : α => v) = fun r => r := by
  funext r
  cases r <;> rfl

lemma mapItem_of_item? {f : α → α} {r : RefOr α} {v : α} (h : r.item? = some v) (hf : f v = v) :
    r.mapItem f = r := by
  cases r with
  | ref reference => rfl
  | item value =>
    cases h
    exact congrArg item hf

lemma mapItem_mapItem (f g : α → α) (r : RefOr α) :
    (r.mapItem f).mapItem g = r.mapItem fun v => g (f v) := by
  cases r <;> rfl

end RefOr

def Operation.withCallbacks (o : Operation) (callbacks : OrderedMap (RefOr Paths)) : Operation :=
  { o with callbacks }

lemma Operation.withCallbacks_self :
    (fun o : Operation => o.withCallbacks o.callbacks) = id := by
  funext o
  cases o
  rfl

namespace Document

open Builder

variable {doc doc' : Document}

/-! ### Tables of paths -/

/-- What a table change leaves as it is. -/
lemma modifyPaths_frame (doc : Document) (c : Container) (f : Paths → Paths) :
    doc.modifyPaths c f =
      { doc with
        paths := (doc.modifyPaths c f).paths
        components := { doc.components with
          callbacks := (doc.modifyPaths c f).components.callbacks } } := by
  induction c generalizing f with
  | document => rfl
  | component id => rfl
  | inline container path method key ih => exact ih _

/-- Places of operations depend on two fields of the document only. -/
lemma paths?_congr (hpaths : doc.paths = doc'.paths)
    (hcallbacks : doc.components.callbacks = doc'.components.callbacks) (c : Container) :
    doc.paths? c = doc'.paths? c := by
  induction c with
  | document => simp [paths?, hpaths]
  | component id => simp [paths?, hcallbacks]
  | inline container path method key ih => simp only [paths?, ih]

lemma operation?_congr (hpaths : doc.paths = doc'.paths)
    (hcallbacks : doc.components.callbacks = doc'.components.callbacks) (place : OperationPlace) :
    doc.operation? place = doc'.operation? place := by
  rw [operation?, operation?, paths?_congr hpaths hcallbacks]

lemma paths?_inline (doc : Document) (place : OperationPlace) (key : String) :
    doc.paths? (place.callback key) =
      (doc.operation? place).bind fun o => (o.callbacks.get? key).bind RefOr.item? := by
  cases h : doc.paths? place.container <;> simp [OperationPlace.callback, paths?, operation?, h]

lemma paths?_modifyPaths_self (doc : Document) (c : Container) (f : Paths → Paths) :
    (doc.modifyPaths c f).paths? c = (doc.paths? c).map f := by
  induction c generalizing f with
  | document => rfl
  | component id => exact OrderedMap.get?_modify_self _ _ _
  | inline container path method key ih =>
    simp only [paths?, modifyPaths, ih]
    cases doc.paths? container with
    | none => rfl
    | some paths =>
      simp only [Option.map_some, Option.bind_eq_bind, Option.bind_some,
        PathTable.operation?_modifyOperation_self]
      cases paths.operation? path method with
      | none => rfl
      | some operation =>
        simp only [Option.map_some, Option.bind_some, OrderedMap.get?_modify_self]
        cases operation.callbacks.get? key <;> simp

lemma modifyPaths_id (doc : Document) (c : Container) :
    (doc.modifyPaths c fun paths => paths) = doc := by
  induction c with
  | document => rfl
  | component id => rw [modifyPaths, modifyComponents, OrderedMap.modify_id]
  | inline container path method key ih =>
    have hself (o : Operation) :
        o.withCallbacks (o.callbacks.modify key (RefOr.mapItem fun v => v)) = o := by
      rw [RefOr.mapItem_id, OrderedMap.modify_id]
      exact congrFun Operation.withCallbacks_self o
    change (doc.modifyPaths container fun paths => paths.modifyOperation path method fun o =>
      o.withCallbacks (o.callbacks.modify key (RefOr.mapItem fun v => v))) = doc
    simp only [hself, PathTable.modifyOperation_id, ih]

lemma modifyPaths_of_paths? {c : Container} {f : Paths → Paths} {paths : Paths}
    (h : doc.paths? c = some paths) (hf : f paths = paths) : doc.modifyPaths c f = doc := by
  induction c generalizing f paths with
  | document =>
    cases h
    rw [modifyPaths, hf]
  | component id => rw [modifyPaths, modifyComponents, OrderedMap.modify_of_get? h hf]
  | inline container path method key ih =>
    obtain ⟨outer, houter, h⟩ := Option.bind_eq_some_iff.mp h
    obtain ⟨o, ho, h⟩ := Option.bind_eq_some_iff.mp h
    obtain ⟨callback, hcallback, h⟩ := Option.bind_eq_some_iff.mp h
    have hcallbacks : o.callbacks.modify key (RefOr.mapItem f) = o.callbacks :=
      OrderedMap.modify_of_get? hcallback (RefOr.mapItem_of_item? h hf)
    refine ih houter (PathTable.modifyOperation_of_operation? ho ?_)
    change o.withCallbacks (o.callbacks.modify key (RefOr.mapItem f)) = o
    rw [hcallbacks]
    exact congrFun Operation.withCallbacks_self o

lemma modifyPaths_modifyPaths (doc : Document) (c : Container) (f g : Paths → Paths) :
    (doc.modifyPaths c f).modifyPaths c g = doc.modifyPaths c fun paths => g (f paths) := by
  induction c generalizing f g with
  | document => rfl
  | component id => simp only [modifyPaths, modifyComponents, OrderedMap.modify_modify]
  | inline container path method key ih =>
    simp only [modifyPaths, ih, PathTable.modifyOperation_modifyOperation,
      OrderedMap.modify_modify, RefOr.mapItem_mapItem]

/-! ### Operations -/

lemma operation?_modifyPaths_of_container (doc : Document) (place : OperationPlace)
    (f : Paths → Paths) :
    (doc.modifyPaths place.container f).operation? place =
      (doc.paths? place.container).bind fun paths =>
        (f paths).operation? place.path place.method := by
  rw [operation?, paths?_modifyPaths_self, Option.bind_map]
  rfl

lemma operation?_modifyOperation_self (doc : Document) (place : OperationPlace)
    (f : Operation → Operation) :
    (doc.modifyOperation place f).operation? place = (doc.operation? place).map f := by
  rw [modifyOperation, operation?_modifyPaths_of_container, operation?, Option.map_bind]
  congr 1
  funext paths
  exact PathTable.operation?_modifyOperation_self paths place.path place.method f

/-- Operations of one table are changed apart. -/
lemma operation?_modifyOperation_of_ne {place place' : OperationPlace}
    (hcontainer : place.container = place'.container) (hne : place ≠ place')
    (f : Operation → Operation) :
    (doc.modifyOperation place f).operation? place' = doc.operation? place' := by
  obtain ⟨c, path, method⟩ := place
  obtain ⟨_, path', method'⟩ := place'
  cases hcontainer
  have hslot : ¬(path = path' ∧ method = method') := by
    rintro ⟨rfl, rfl⟩
    exact hne rfl
  refine (operation?_modifyPaths_of_container doc ⟨c, path', method'⟩ _).trans ?_
  refine congrArg (Option.bind _) (funext fun paths => ?_)
  exact PathTable.operation?_modifyOperation_of_ne hslot paths f

lemma modifyOperation_of_operation? {place : OperationPlace} {f : Operation → Operation}
    {o : Operation} (h : doc.operation? place = some o) (hf : f o = o) :
    doc.modifyOperation place f = doc := by
  obtain ⟨paths, hpaths, ho⟩ := Option.bind_eq_some_iff.mp h
  exact modifyPaths_of_paths? hpaths (PathTable.modifyOperation_of_operation? ho hf)

lemma operation?_setOperation_self {c : Container} (h : (doc.paths? c).isSome) (path : String)
    (method : Method) (operation : Operation) :
    (doc.modifyPaths c fun paths => paths.setOperation path method operation).operation?
      ⟨c, path, method⟩ = some operation := by
  obtain ⟨paths, hpaths⟩ := Option.isSome_iff_exists.mp h
  rw [operation?_modifyPaths_of_container doc ⟨c, path, method⟩, hpaths]
  exact PathTable.operation?_setOperation_self paths path method operation

lemma isSome_paths?_of_operation? {place : OperationPlace} (h : (doc.operation? place).isSome) :
    (doc.paths? place.container).isSome :=
  Option.isSome_of_isSome_bind h

lemma isSome_operation?_of_paths? {place : OperationPlace} {key : String}
    (h : (doc.paths? (place.callback key)).isSome) : (doc.operation? place).isSome := by
  rw [paths?_inline] at h
  exact Option.isSome_of_isSome_bind h

/-- The operation around a callback sees a change in the callback's table as a change of its own
callbacks. -/
lemma operation?_modifyPaths_callback (doc : Document) (place : OperationPlace) (key : String)
    (f : Paths → Paths) :
    (doc.modifyPaths (place.callback key) f).operation? place =
      (doc.operation? place).map fun o =>
        o.withCallbacks (o.callbacks.modify key (RefOr.mapItem f)) :=
  operation?_modifyOperation_self doc place _

/-- Put an operation at a place. -/
def putOperation (doc : Document) (place : OperationPlace) (o : Operation) : Document :=
  doc.modifyPaths place.container fun paths => paths.setOperation place.path place.method o

lemma operation?_putOperation {place : OperationPlace}
    (h : (doc.paths? place.container).isSome) (o : Operation) :
    (doc.putOperation place o).operation? place = some o :=
  operation?_setOperation_self h place.path place.method o

lemma modifyOperation_putOperation (doc : Document) (place : OperationPlace) (o : Operation)
    (f : Operation → Operation) :
    (doc.putOperation place o).modifyOperation place f = doc.putOperation place (f o) := by
  rw [modifyOperation, putOperation, modifyPaths_modifyPaths]
  simp only [PathTable.modifyOperation_setOperation]
  rfl

lemma modifyPaths_putOperation (doc : Document) (place : OperationPlace) (o : Operation)
    (key : String) (f : Paths → Paths) :
    (doc.putOperation place o).modifyPaths (place.callback key) f =
      doc.putOperation place (o.withCallbacks (o.callbacks.modify key (RefOr.mapItem f))) :=
  modifyOperation_putOperation doc place o _

/-- A change in a callback's table is, for a top-level operation, none or one in its callbacks. -/
lemma operation?_modifyPaths_top {c : Container} (hc : c ≠ .document) (doc : Document)
    (f : Paths → Paths) (path : String) (method : Method) :
    ∃ g : Operation → OrderedMap (RefOr Paths),
      (∀ o key, ((g o).get? key).isSome = (o.callbacks.get? key).isSome) ∧
      (doc.modifyPaths c f).operation? ⟨.document, path, method⟩ =
        (doc.operation? ⟨.document, path, method⟩).map fun o => o.withCallbacks (g o) := by
  induction c generalizing f with
  | document => exact absurd rfl hc
  | component id =>
    refine ⟨Operation.callbacks, fun _ _ => rfl, ?_⟩
    rw [Operation.withCallbacks_self, Option.map_id]
    rfl
  | inline container path' method' key ih =>
    by_cases hcontainer : container = .document
    · subst hcontainer
      by_cases hsame : path' = path ∧ method' = method
      · obtain ⟨rfl, rfl⟩ := hsame
        exact ⟨_, fun o key' => OrderedMap.isSome_get?_modify _ _ _ _,
          operation?_modifyPaths_callback doc ⟨.document, path', method'⟩ key f⟩
      · refine ⟨Operation.callbacks, fun _ _ => rfl, ?_⟩
        rw [Operation.withCallbacks_self, Option.map_id]
        exact PathTable.operation?_modifyOperation_of_ne hsame _ _
    · exact ih hcontainer _

end Document

end ApiScribe.OpenApi
