import ApiScribe.OpenApi.Paths
import ApiScribe.Proofs.OrderedMap

/-!
# Laws of path tables

A path item is the function from methods to operations that `operation?` reads off it, and a table
of paths is a map from paths and methods: setting or changing an operation concerns its own path and
method only. A table without empty paths is what setting its operations in order makes.
-/

namespace ApiScribe.OpenApi

variable {ω : Type}

namespace PathItem

lemma operation?_setSlot (item : PathItem ω) (slot : Option ω) (method method' : Method) :
    (item.setSlot slot method).operation? method' =
      if method = method' then slot else item.operation? method' := by
  cases method <;> cases method' <;> rfl

lemma ext_operation? {item item' : PathItem ω} (h : ∀ method, item.operation? method =
    item'.operation? method) : item = item' := by
  obtain ⟨get, put, post, delete, options, head, patch, trace⟩ := item
  obtain ⟨get', put', post', delete', options', head', patch', trace'⟩ := item'
  rw [mk.injEq]
  exact ⟨h .get, h .put, h .post, h .delete, h .options, h .head, h .patch, h .trace⟩

@[simp] lemma operation?_empty (method : Method) : ({} : PathItem ω).operation? method = none := by
  cases method <;> rfl

lemma operation?_setOperation (item : PathItem ω) (method method' : Method) (operation : ω) :
    (item.setOperation method operation).operation? method' =
      if method = method' then some operation else item.operation? method' :=
  operation?_setSlot item (some operation) method method'

lemma operation?_modifyOperation (item : PathItem ω) (method method' : Method) (f : ω → ω) :
    (item.modifyOperation method f).operation? method' =
      if method = method' then (item.operation? method').map f else item.operation? method' := by
  rw [modifyOperation, operation?_setSlot]
  split_ifs with hm
  · rw [hm]
  · rfl

lemma modifyOperation_id (item : PathItem ω) (method : Method) :
    (item.modifyOperation method fun o => o) = item := by
  apply ext_operation?
  intro method'
  rw [operation?_modifyOperation, Option.map_id', ite_self]

lemma modifyOperation_of_operation? {item : PathItem ω} {method : Method} {o : ω} {f : ω → ω}
    (h : item.operation? method = some o) (hf : f o = o) :
    item.modifyOperation method f = item := by
  apply ext_operation?
  intro method'
  rw [operation?_modifyOperation]
  split_ifs with hm
  · rw [← hm, h, Option.map_some, hf]
  · rfl

lemma modifyOperation_modifyOperation (item : PathItem ω) (method : Method) (f g : ω → ω) :
    (item.modifyOperation method f).modifyOperation method g =
      item.modifyOperation method fun o => g (f o) := by
  apply ext_operation?
  intro method'
  simp only [operation?_modifyOperation]
  split_ifs
  · rw [Option.map_map]
    rfl
  · rfl

lemma modifyOperation_setOperation (item : PathItem ω) (method : Method) (operation : ω)
    (f : ω → ω) :
    (item.setOperation method operation).modifyOperation method f =
      item.setOperation method (f operation) := by
  apply ext_operation?
  intro method'
  simp only [operation?_modifyOperation, operation?_setOperation]
  split_ifs <;> rfl

end PathItem

namespace PathTable

lemma operation?_setOperation (paths : PathTable ω) (path path' : String)
    (method method' : Method) (operation : ω) :
    (paths.setOperation path method operation).operation? path' method' =
      if path = path' ∧ method = method' then some operation
      else paths.operation? path' method' := by
  simp only [operation?, setOperation, OrderedMap.get?_insert]
  by_cases hp : path = path'
  · subst hp
    simp only [if_true, Option.bind_some, PathItem.operation?_setOperation, true_and]
    split_ifs
    · rfl
    · cases OrderedMap.get? paths path <;> simp
  · simp [hp]

lemma operation?_modifyOperation (paths : PathTable ω) (path path' : String)
    (method method' : Method) (f : ω → ω) :
    (paths.modifyOperation path method f).operation? path' method' =
      if path = path' ∧ method = method' then (paths.operation? path' method').map f
      else paths.operation? path' method' := by
  simp only [operation?, modifyOperation, OrderedMap.get?_modify]
  by_cases hp : path = path'
  · subst hp
    cases OrderedMap.get? paths path with
    | none => simp
    | some item => simp [PathItem.operation?_modifyOperation]
  · simp [hp]

@[simp] lemma operation?_setOperation_self (paths : PathTable ω) (path : String) (method : Method)
    (operation : ω) :
    (paths.setOperation path method operation).operation? path method = some operation := by
  rw [operation?_setOperation, if_pos ⟨rfl, rfl⟩]

@[simp] lemma operation?_modifyOperation_self (paths : PathTable ω) (path : String)
    (method : Method) (f : ω → ω) :
    (paths.modifyOperation path method f).operation? path method =
      (paths.operation? path method).map f := by
  rw [operation?_modifyOperation, if_pos ⟨rfl, rfl⟩]

lemma operation?_modifyOperation_of_ne {path path' : String} {method method' : Method}
    (h : ¬(path = path' ∧ method = method')) (paths : PathTable ω) (f : ω → ω) :
    (paths.modifyOperation path method f).operation? path' method' =
      paths.operation? path' method' := by
  rw [operation?_modifyOperation, if_neg h]

lemma modifyOperation_id (paths : PathTable ω) (path : String) (method : Method) :
    (paths.modifyOperation path method fun o => o) = paths := by
  simp only [modifyOperation, PathItem.modifyOperation_id]
  exact OrderedMap.modify_id paths path

lemma modifyOperation_of_operation? {paths : PathTable ω} {path : String} {method : Method} {o : ω}
    {f : ω → ω} (h : paths.operation? path method = some o) (hf : f o = o) :
    paths.modifyOperation path method f = paths := by
  obtain ⟨item, hitem, ho⟩ := Option.bind_eq_some_iff.mp h
  exact OrderedMap.modify_of_get? hitem (PathItem.modifyOperation_of_operation? ho hf)

lemma modifyOperation_modifyOperation (paths : PathTable ω) (path : String) (method : Method)
    (f g : ω → ω) :
    (paths.modifyOperation path method f).modifyOperation path method g =
      paths.modifyOperation path method fun o => g (f o) := by
  simp only [modifyOperation, OrderedMap.modify_modify, PathItem.modifyOperation_modifyOperation]

lemma modifyOperation_setOperation (paths : PathTable ω) (path : String) (method : Method)
    (operation : ω) (f : ω → ω) :
    (paths.setOperation path method operation).modifyOperation path method f =
      paths.setOperation path method (f operation) := by
  rw [modifyOperation, setOperation,
    OrderedMap.modify_eq_insert (OrderedMap.get?_insert_self _ _ _), OrderedMap.insert_insert_self,
    PathItem.modifyOperation_setOperation, ← setOperation]

lemma keys_setOperation (paths : PathTable ω) (path : String) (method : Method) (operation : ω) :
    (paths.setOperation path method operation).keys =
      if path ∈ paths.keys then paths.keys else paths.keys ++ [path] :=
  OrderedMap.keys_insert _ _ _

lemma ext_operation? {paths paths' : PathTable ω} (h : paths.keys.Nodup)
    (hkeys : paths.keys = paths'.keys)
    (hoperation : ∀ path method, paths.operation? path method = paths'.operation? path method) :
    paths = paths' := by
  refine OrderedMap.ext_get? h hkeys fun path => ?_
  by_cases hpath : path ∈ paths.keys
  · obtain ⟨item, hitem⟩ := Option.isSome_iff_exists.mp (OrderedMap.isSome_get?_iff.mpr hpath)
    obtain ⟨item', hitem'⟩ :=
      Option.isSome_iff_exists.mp (OrderedMap.isSome_get?_iff.mpr (hkeys ▸ hpath))
    rw [hitem, hitem']
    refine congrArg some (PathItem.ext_operation? fun method => ?_)
    have hsame := hoperation path method
    rwa [operation?, operation?, hitem, hitem'] at hsame
  · rw [OrderedMap.get?_eq_none_iff.mpr hpath, OrderedMap.get?_eq_none_iff.mpr (hkeys ▸ hpath)]

/-! ### Listings -/

/-- An operation of a table, with its path and method. -/
structure Entry (ω : Type) where
  path : String
  method : Method
  operation : ω

/-- The operations of a path. -/
def itemListing (path : String) (item : PathItem ω) (methods : List Method) : List (Entry ω) :=
  methods.filterMap fun method => (item.operation? method).map fun operation =>
    { path, method, operation }

/-- The operations of a table, in order. -/
def listing (paths : PathTable ω) : List (Entry ω) :=
  paths.entries.flatMap fun e => itemListing e.1 e.2 Method.all

/-- Store an operation under its path and method. -/
def add (paths : PathTable ω) (e : Entry ω) : PathTable ω :=
  paths.setOperation e.path e.method e.operation

lemma mem_listing {paths : PathTable ω} {e : Entry ω} :
    e ∈ paths.listing ↔
      ∃ item, (e.path, item) ∈ paths.entries ∧ item.operation? e.method = some e.operation := by
  have hall : e.method ∈ Method.all := by cases e.method <;> decide
  simp only [listing, itemListing, List.mem_flatMap, List.mem_filterMap, Option.map_eq_some_iff]
  constructor
  · rintro ⟨⟨path, item⟩, hitem, method, -, operation, hoperation, rfl⟩
    exact ⟨item, hitem, hoperation⟩
  · rintro ⟨item, hitem, hoperation⟩
    exact ⟨(e.path, item), hitem, e.method, hall, e.operation, hoperation, rfl⟩

lemma operation?_of_mem_listing {paths : PathTable ω} (h : paths.keys.Nodup) {e : Entry ω}
    (he : e ∈ paths.listing) : paths.operation? e.path e.method = some e.operation := by
  obtain ⟨item, hitem, hoperation⟩ := mem_listing.mp he
  rw [operation?, OrderedMap.get?_of_mem h hitem]
  exact hoperation

lemma mem_listing_of_operation? {paths : PathTable ω} {path : String} {method : Method}
    {operation : ω} (h : paths.operation? path method = some operation) :
    { path, method, operation } ∈ paths.listing := by
  obtain ⟨item, hitem, hoperation⟩ := Option.bind_eq_some_iff.mp h
  exact mem_listing.mpr ⟨item, OrderedMap.mem_entries_of_get? hitem, hoperation⟩

lemma keys_add_of_mem {paths : PathTable ω} {e : Entry ω} (h : e.path ∈ paths.keys) :
    (paths.add e).keys = paths.keys := by
  rw [add, keys_setOperation, if_pos h]

lemma keys_foldl_add_of_mem {paths : PathTable ω} {path : String} (h : path ∈ paths.keys)
    {l : List (Entry ω)} (hl : ∀ e ∈ l, e.path = path) : (l.foldl add paths).keys = paths.keys := by
  induction l generalizing paths with
  | nil => rfl
  | cons e l ih =>
    obtain ⟨rfl, hl⟩ := List.forall_mem_cons.mp hl
    have hkeys := keys_add_of_mem h
    rw [List.foldl_cons, ih (hkeys ▸ h) hl, hkeys]

lemma keys_foldl_add_of_notMem {paths : PathTable ω} {path : String} (h : path ∉ paths.keys)
    {l : List (Entry ω)} (hne : l ≠ []) (hl : ∀ e ∈ l, e.path = path) :
    (l.foldl add paths).keys = paths.keys ++ [path] := by
  cases l with
  | nil => exact absurd rfl hne
  | cons e l =>
    obtain ⟨rfl, hl⟩ := List.forall_mem_cons.mp hl
    have hkeys : (paths.add e).keys = paths.keys ++ [e.path] := by
      rw [add, keys_setOperation, if_neg h]
    rw [List.foldl_cons, keys_foldl_add_of_mem (hkeys ▸ List.mem_append_right _
      List.mem_cons_self) hl, hkeys]

lemma path_of_mem_itemListing {path : String} {item : PathItem ω} {methods : List Method}
    {e : Entry ω} (h : e ∈ itemListing path item methods) : e.path = path := by
  obtain ⟨method, -, h⟩ := List.mem_filterMap.mp h
  obtain ⟨operation, -, rfl⟩ := Option.map_eq_some_iff.mp h
  rfl

lemma itemListing_ne_nil (path : String) {item : PathItem ω} {method : Method}
    (h : (item.operation? method).isSome) : itemListing path item Method.all ≠ [] := by
  have hall : method ∈ Method.all := by cases method <;> decide
  obtain ⟨operation, hoperation⟩ := Option.isSome_iff_exists.mp h
  refine List.ne_nil_of_mem (a := { path, method, operation }) ?_
  exact List.mem_filterMap.mpr ⟨method, hall, by rw [hoperation]; rfl⟩

lemma keys_foldl_add_listing {entries : List (String × PathItem ω)} (paths : PathTable ω)
    (h : (paths.keys ++ entries.map Prod.fst).Nodup)
    (hfull : ∀ e ∈ entries, ∃ method, (e.2.operation? method).isSome) :
    ((listing ⟨entries⟩).foldl add paths).keys = paths.keys ++ entries.map Prod.fst := by
  induction entries generalizing paths with
  | nil => exact (List.append_nil _).symm
  | cons e entries ih =>
    obtain ⟨⟨method, hmethod⟩, hfull⟩ := List.forall_mem_cons.mp hfull
    have hnew : e.1 ∉ paths.keys := fun hmem =>
      List.disjoint_of_nodup_append h hmem List.mem_cons_self
    have hkeys := keys_foldl_add_of_notMem hnew (itemListing_ne_nil e.1 hmethod)
      fun _ => path_of_mem_itemListing
    have hlisting : listing ⟨e :: entries⟩ =
        itemListing e.1 e.2 Method.all ++ listing ⟨entries⟩ := rfl
    rw [List.map_cons, List.append_cons] at h
    rw [hlisting, List.foldl_append, ih _ (hkeys ▸ h) hfull, hkeys]
    exact (List.append_cons ..).symm

/-- Adding operations of a table makes the same operations found, or leaves them out. -/
lemma operation?_foldl_add {paths : PathTable ω} {l : List (Entry ω)}
    (h : ∀ e ∈ l, paths.operation? e.path e.method = some e.operation) (start : PathTable ω)
    (path : String) (method : Method) :
    (l.foldl add start).operation? path method = paths.operation? path method ∨
      (∀ e ∈ l, ¬(e.path = path ∧ e.method = method)) ∧
        (l.foldl add start).operation? path method = start.operation? path method := by
  induction l generalizing start with
  | nil => exact .inr ⟨List.forall_mem_nil _, rfl⟩
  | cons e l ih =>
    obtain ⟨he, hl⟩ := List.forall_mem_cons.mp h
    rcases ih hl (start.add e) with hsame | ⟨hne, hstart⟩
    · exact .inl hsame
    · rw [add, operation?_setOperation] at hstart
      split_ifs at hstart with hat
      · obtain ⟨rfl, rfl⟩ := hat
        exact .inl (hstart.trans he.symm)
      · exact .inr ⟨List.forall_mem_cons.mpr ⟨hat, hne⟩, hstart⟩

/-- A table without empty paths is made of its operations. -/
lemma foldl_add_listing {paths : PathTable ω} (h : paths.keys.Nodup)
    (hfull : ∀ e ∈ paths.entries, ∃ method, (e.2.operation? method).isSome) :
    paths.listing.foldl add {} = paths := by
  have hkeys : (paths.listing.foldl add {}).keys = paths.keys :=
    keys_foldl_add_listing {} h hfull
  refine ext_operation? (hkeys ▸ h) hkeys fun path method => ?_
  rcases operation?_foldl_add (fun e he => operation?_of_mem_listing h he) {} path method with
    hsame | ⟨hne, hempty⟩
  · exact hsame
  · cases hoperation : paths.operation? path method with
    | none => exact hempty
    | some operation => exact absurd ⟨rfl, rfl⟩ (hne _ (mem_listing_of_operation? hoperation))

end PathTable

end ApiScribe.OpenApi
