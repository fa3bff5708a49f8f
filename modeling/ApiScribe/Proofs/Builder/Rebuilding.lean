import ApiScribe.Builder.Declaration
import ApiScribe.Proofs.Builder.Conveying

/-!
# Operations from their descriptions

The annotations that describe an operation make it again, with all operations in its callbacks. The
outline of the operation leaves its callbacks empty, the outline of the callback that has operations
fills it but for the operation with callbacks of its own, and this one is made by its own
description.
-/

namespace ApiScribe

open Builder OpenApi Text

namespace OpenApi

/-! ### Tables -/

/-- What the outline of a callback has of an operation. -/
def Operation.sketch (o : Operation) : Operation :=
  if o.nests then { summary := o.summary, description := o.description } else o

/-- Change the operation of an entry. -/
def PathTable.Entry.map {ω : Type} (f : ω → ω) (e : PathTable.Entry ω) : PathTable.Entry ω :=
  { e with operation := f e.operation }

lemma Operation.sketch_of_flat {o : Operation} (h : o.nests = false) : o.sketch = o := by
  rw [sketch, h]
  rfl

lemma map_sketch_of_flat {l : List (PathTable.Entry Operation)}
    (h : ∀ e ∈ l, e.operation.nests = false) : l.map (·.map Operation.sketch) = l := by
  refine (List.map_congr_left fun e he => ?_).trans (List.map_id l)
  rw [PathTable.Entry.map, Operation.sketch_of_flat (h e he)]
  rfl

lemma listing_mapValues {ω : Type} (f : ω → ω) (paths : PathTable ω) :
    PathTable.listing (OrderedMap.mapValues (PathItem.map f) paths) =
      paths.listing.map (·.map f) := by
  rw [PathTable.listing, PathTable.listing, OrderedMap.mapValues, List.flatMap_map,
    List.map_flatMap]
  congr 1
  funext e
  rw [PathTable.itemListing, PathTable.itemListing, List.map_filterMap]
  congr 1
  funext method
  rw [PathItem.operation?_map, Option.map_map, Option.map_map]
  rfl

lemma operation?_mapValues {ω : Type} (f : ω → ω) (paths : PathTable ω) (path : String)
    (method : Method) :
    PathTable.operation? (OrderedMap.mapValues (PathItem.map f) paths) path method =
      (paths.operation? path method).map f := by
  rw [PathTable.operation?, PathTable.operation?, OrderedMap.get?_mapValues]
  cases paths.get? path with
  | none => rfl
  | some item => exact PathItem.operation?_map f item method

section Tables

variable {table : Paths} (hkeys : table.keys.Nodup)
  (hfull : ∀ e ∈ table.entries, ∃ method, (e.2.operation? method).isSome)

include hkeys hfull

lemma foldl_add_outlined (h : Paths.nesting table = []) :
    ((Paths.outlined table).map (·.map Operation.sketch)).foldl PathTable.add {} = table := by
  have hflat : ∀ e ∈ table.listing, e.operation.nests = false := fun e he =>
    (Bool.not_eq_true _).mp (List.filter_eq_nil_iff.mp h e he)
  have hlast : table.listing.getLast?.any (·.operation.nests) = false := by
    cases hlast : table.listing.getLast? with
    | none => rfl
    | some e => exact hflat e (List.mem_of_mem_getLast? hlast)
  rw [Paths.outlined, hlast, if_neg Bool.false_ne_true, map_sketch_of_flat hflat,
    PathTable.foldl_add_listing hkeys hfull]

lemma foldl_add_sketch :
    (table.listing.map (·.map Operation.sketch)).foldl PathTable.add {} =
      OrderedMap.mapValues (PathItem.map Operation.sketch) table := by
  rw [← listing_mapValues]
  refine PathTable.foldl_add_listing (by rwa [OrderedMap.keys_mapValues]) fun e' he' => ?_
  obtain ⟨e, he, rfl⟩ := List.mem_map.mp he'
  obtain ⟨method, hmethod⟩ := hfull e he
  exact ⟨method, by rwa [PathItem.operation?_map, Option.isSome_map]⟩

/-- The outline of a table, and then the operation that nests. -/
lemma add_foldl_outlined {x : PathTable.Entry Operation} (h : Paths.nesting table = [x]) :
    (((Paths.outlined table).map (·.map Operation.sketch)).foldl PathTable.add {}).add x =
      table := by
  obtain ⟨before, after, hlisting, hbefore, hx, hafter⟩ := List.filter_eq_cons_iff.mp h
  have hbefore : ∀ e ∈ before, e.operation.nests = false := fun e he =>
    (Bool.not_eq_true _).mp (hbefore e he)
  have hafter : ∀ e ∈ after, e.operation.nests = false := fun e he =>
    (Bool.not_eq_true _).mp (List.filter_eq_nil_iff.mp hafter e he)
  rcases List.eq_nil_or_concat after with rfl | ⟨front, last, rfl⟩
  · -- it comes last
    have houtlined : Paths.outlined table = before := by
      rw [Paths.outlined, hlisting, List.getLast?_concat, Option.any_some, if_pos hx,
        List.dropLast_concat]
    rw [houtlined, map_sketch_of_flat hbefore]
    have hfold := PathTable.foldl_add_listing hkeys hfull
    rwa [hlisting, List.foldl_concat] at hfold
  · -- it is put in its place again
    have hlast : last.operation.nests = false := hafter last (by simp)
    have houtlined : Paths.outlined table = table.listing := by
      have hgetLast : table.listing.getLast? = some last := by
        rw [hlisting, List.concat_eq_append, ← List.cons_append, ← List.append_assoc,
          List.getLast?_concat]
      rw [Paths.outlined, hgetLast, Option.any_some, hlast, if_neg Bool.false_ne_true]
    have hmem : x ∈ table.listing := by rw [hlisting]; simp
    have hoperation := PathTable.operation?_of_mem_listing hkeys hmem
    have hpath : x.path ∈ table.keys := by
      obtain ⟨item, hitem, -⟩ := PathTable.mem_listing.mp hmem
      exact List.mem_map.mpr ⟨_, hitem, rfl⟩
    rw [houtlined, foldl_add_sketch hkeys hfull]
    have hsame : (PathTable.add (OrderedMap.mapValues (PathItem.map Operation.sketch) table)
        x).keys = table.keys := by
      rw [PathTable.keys_add_of_mem (by rwa [OrderedMap.keys_mapValues]),
        OrderedMap.keys_mapValues]
    refine PathTable.ext_operation? (hsame ▸ hkeys) hsame fun path method => ?_
    rw [PathTable.add, PathTable.operation?_setOperation, operation?_mapValues]
    split_ifs with hat
    · obtain ⟨rfl, rfl⟩ := hat
      exact hoperation.symm
    · cases ho : table.operation? path method with
      | none => rfl
      | some o =>
        have hentry := PathTable.mem_listing_of_operation? ho
        have hflat : o.nests = false := by
          refine (Bool.not_eq_true _).mp fun hnests => hat ?_
          have heq : _ ∈ Paths.nesting table := List.mem_filter.mpr ⟨hentry, hnests⟩
          rw [h, List.mem_singleton] at heq
          rw [← heq]
          exact ⟨rfl, rfl⟩
        exact congrArg some (Operation.sketch_of_flat hflat)

end Tables

/-! ### Callbacks -/

/-- A callback without its operations. -/
def emptied (callback : RefOr Paths) : RefOr Paths := callback.mapItem fun _ => {}

lemma emptied_of_bodyOf? {e : String × RefOr Paths} (h : bodyOf? e = none) : emptied e.2 = e.2 := by
  obtain ⟨key, callback⟩ := e
  cases callback with
  | ref r => rfl
  | item table =>
    rw [bodyOf?] at h
    split_ifs at h with hempty
    obtain ⟨entries⟩ := table
    rw [OrderedMap.isEmpty, List.isEmpty_iff] at hempty
    exact congrArg (fun entries => RefOr.item (OrderedMap.mk entries)) hempty.symm

lemma item_of_bodyOf? {e : String × RefOr Paths} {body : String × Paths}
    (h : bodyOf? e = some body) : e = (body.1, .item body.2) := by
  obtain ⟨key, callback⟩ := e
  cases callback with
  | ref r => cases h
  | item table =>
    rw [bodyOf?] at h
    split_ifs at h
    cases h
    rfl

/-- An operation without the operations in its callbacks. -/
def Operation.emptied (o : Operation) : Operation :=
  o.withCallbacks (o.callbacks.mapValues OpenApi.emptied)

lemma Operation.emptied_of_bodies {o : Operation} (h : o.bodies = []) : o.emptied = o := by
  have hcallbacks : o.callbacks.mapValues OpenApi.emptied = o.callbacks := by
    apply OrderedMap.ext_entries
    refine (List.map_congr_left fun e he => ?_).trans (List.map_id _)
    exact congrArg (Prod.mk e.1) (emptied_of_bodyOf? (List.filterMap_eq_nil_iff.mp h e he))
  rw [emptied, hcallbacks]
  exact congrFun withCallbacks_self o

lemma bodies_of_flat {o : Operation} (h : o.nests = false) : o.bodies = [] := by
  refine List.filterMap_eq_nil_iff.mpr fun e he => ?_
  have hflat := List.any_eq_false.mp h e he
  obtain ⟨key, callback⟩ := e
  cases callback with
  | ref r => rfl
  | item table => exact absurd rfl hflat

lemma mem_callbacks_of_mem_bodies {o : Operation} {body : String × Paths} (h : body ∈ o.bodies) :
    (body.1, .item body.2) ∈ o.callbacks.entries := by
  obtain ⟨e, he, hbody⟩ := List.mem_filterMap.mp h
  rwa [← item_of_bodyOf? hbody]

namespace Operation.Describable

variable {o : Operation} (h : o.Describable)

include h

lemma nodup_callbacks : o.callbacks.keys.Nodup := by
  cases h with
  | intro _ _ _ _ _ _ _ _ _ _ keys => exact keys.1

lemma length_bodies : o.bodies.length ≤ 1 := by
  cases h with
  | intro _ _ _ _ _ _ _ _ _ _ _ _ bodies => exact bodies

variable {key : String} {table : Paths} (hbody : (key, table) ∈ o.bodies)

include hbody

lemma bare_key : Bare key := by
  cases h with
  | intro _ _ _ _ _ _ _ _ _ _ keys =>
    exact keys.2 key (List.mem_map.mpr ⟨_, mem_callbacks_of_mem_bodies hbody, rfl⟩)

lemma sound_table : table.Sound Operation.Describable := by
  cases h with
  | intro _ _ _ _ _ _ _ _ _ _ _ callbacks =>
    cases callbacks _ (mem_callbacks_of_mem_bodies hbody) with
    | item htable => exact htable

lemma nodup_table : table.keys.Nodup := by
  cases h with
  | intro _ _ _ _ _ _ _ _ _ _ _ _ _ tables => exact (tables _ hbody).1

lemma length_nesting : (Paths.nesting table).length ≤ 1 := by
  cases h with
  | intro _ _ _ _ _ _ _ _ _ _ _ _ _ tables => exact (tables _ hbody).2

lemma exists_operation :
    ∀ e ∈ table.entries, ∃ method, (e.2.operation? method).isSome := fun e he =>
  (PathTable.sound_iff.mp (h.sound_table hbody) e he).2.1

lemma entry {e : PathTable.Entry Operation} (he : e ∈ table.listing) :
    Bare e.path ∧ e.operation.Describable := by
  obtain ⟨item, hitem, hoperation⟩ := PathTable.mem_listing.mp he
  obtain ⟨hpath, -, hall⟩ := PathTable.sound_iff.mp (h.sound_table hbody) _ hitem
  exact ⟨hpath, hall e.method e.operation hoperation⟩

lemma get?_emptied : o.emptied.callbacks.get? key = some (.item {}) := by
  change (o.callbacks.mapValues OpenApi.emptied).get? key = some (.item {})
  rw [OrderedMap.get?_mapValues,
    OrderedMap.get?_of_mem h.nodup_callbacks (mem_callbacks_of_mem_bodies hbody)]
  rfl

end Operation.Describable

/-- The callback that has operations is the only one to be filled. -/
lemma putOperation_of_bodies {o : Operation} (h : o.Describable) {key : String} {table : Paths}
    (hbodies : o.bodies = [(key, table)]) {f : Paths → Paths} (hf : f {} = table) (doc : Document)
    (place : OperationPlace) :
    (doc.putOperation place o.emptied).modifyPaths (place.callback key) f =
      doc.putOperation place o := by
  have hmem := mem_callbacks_of_mem_bodies (hbodies ▸ List.mem_singleton.mpr rfl)
  have hcallbacks : (o.callbacks.mapValues emptied).modify key (RefOr.mapItem f) = o.callbacks := by
    refine OrderedMap.modify_mapValues h.nodup_callbacks (fun callback hcallback => ?_)
      fun e he hne => ?_
    · rw [OrderedMap.get?_of_mem h.nodup_callbacks hmem] at hcallback
      cases hcallback
      exact congrArg RefOr.item hf
    · refine emptied_of_bodyOf? (Option.eq_none_iff_forall_ne_some.mpr fun other hother => hne ?_)
      have heq : other ∈ o.bodies := List.mem_filterMap.mpr ⟨e, he, hother⟩
      rw [hbodies, List.mem_singleton] at heq
      rw [item_of_bodyOf? hother, heq]
  rw [Document.modifyPaths_putOperation]
  refine (congrArg (fun callbacks => doc.putOperation place (o.withCallbacks callbacks))
    hcallbacks).trans ?_
  exact congrArg (doc.putOperation place) (congrFun Operation.withCallbacks_self o)

end OpenApi

namespace Builder

variable {value : Option String} {doc : Document} {c : Container} {place : OperationPlace}
  {o : Operation}

/-! ### Outlines -/

/-- Operations go into the table of the container. -/
structure Starts (doc : Document) (c : Container) (s : State) : Prop where
  doc : s.doc = doc
  container : s.pass.container = c

/-- The table that takes operations after callbacks have been described. -/
def openContainer (place : OperationPlace) (callbacks : List (String × RefOr Paths)) : Container :=
  (openCallback? callbacks).elim place.container place.callback

lemma openContainer_of_flat (h : o.nests = false) (place : OperationPlace) :
    openContainer place o.callbacks.entries = place.container := by
  have hfilter : o.callbacks.entries.filter (·.2.item?.isSome) = [] :=
    List.filter_eq_nil_iff.mpr fun e he => by simpa using List.any_eq_false.mp h e he
  rw [openContainer, openCallback?, hfilter]
  rfl

section Outlines

variable (hdoc : (doc.paths? place.container).isSome) (h : o.Describable)

include hdoc h

variable (place) in
lemma conveys_header (hpath : Bare place.path) :
    Conveys value (Starts doc place.container)
      (Focus doc place place.container { summary := o.summary, description := o.description })
      [o.header place.path place.method] := by
  cases h with
  | intro hsummary hne hdescription =>
  have htidy : (o.header place.path place.method).Tidy := by
    have hparts : ∀ part ∈ [place.method.name, place.path, "-", o.summary],
        Tidy part ∧ part ≠ "" := by
      simpa using ⟨⟨place.method.bare_name.tidy, place.method.bare_name.ne_empty⟩,
        ⟨hpath.tidy, hpath.ne_empty⟩, Argument.bare_dash.tidy, hsummary, hne⟩
    exact ⟨tidy_phrase hparts, isBody_lines hdescription⟩
  have hbody : (o.header place.path place.method).bodyText = o.description :=
    intercalate_lines hdescription
  refine .single htidy fun s hs => ?_
  have hrule : Rule value s (o.header place.path place.method) _ .done :=
    .operation rfl (operationHeader_phrase place.method hpath hsummary hne)
      (by rwa [hs.doc, hs.container])
  have hattempt := hrule.attempt_eq fun _ h => by cases h
  rw [hbody, hs.doc, hs.container] at hattempt
  exact ⟨_, step_of_done hattempt, rfl, rfl, hs.container⟩

/-- All that an operation has but its callbacks. -/
lemma conveys_parts :
    Conveys value (Focus doc place c { summary := o.summary, description := o.description })
      (Focus doc place c (o.withCallbacks {})) o.parts := by
  cases h with
  | intro _ _ _ hoperationId htags hsecurity hparameters hrequestBody hstatuses hresponses =>
  obtain ⟨tags, summary, description, operationId, parameters, requestBody, responses, callbacks,
    security⟩ := o
  obtain rfl : operationId = "" := hoperationId
  exact .append (.append (.append (.append
    (conveys_tags (o := { summary, description }) hdoc htags)
    (conveys_security (o := { tags, summary, description }) hdoc hsecurity))
    (conveys_parameters (o := { tags, summary, description, security }) hdoc hparameters))
    (conveys_optionalBody (o := { tags, summary, description, parameters, security }) hdoc
      hrequestBody))
    (conveys_responses (o := { tags, summary, description, parameters, requestBody, security }) hdoc
      hstatuses.1 hstatuses.2 hresponses)

/-- The callbacks of an operation, without their operations. -/
lemma conveys_callbacks :
    Conveys value (Focus doc place place.container (o.withCallbacks {}))
      (Focus doc place (openContainer place o.callbacks.entries) o.emptied)
      (o.callbacks.entries.map fun e => describeCallback e.1 e.2) := by
  cases h with
  | intro _ _ _ _ _ _ _ _ _ _ hkeys hcallbacks =>
  refine .map (F := fun done => Focus doc place (openContainer place done)
    (o.withCallbacks (OrderedMap.mapValues emptied ⟨done⟩))) fun done e rest hentries => ?_
  have hmem := mem_of_eq_append hentries
  have hkey : Bare e.1 := hkeys.2 e.1 (List.mem_map.mpr ⟨e, hmem, rfl⟩)
  have hnew : e.1 ∉ (OrderedMap.mapValues emptied ⟨done⟩).keys := by
    rw [OrderedMap.keys_mapValues]
    exact OrderedMap.notMem_keys_of_eq_append hkeys.1 hentries
  have hinsert : OrderedMap.insert (OrderedMap.mapValues emptied ⟨done⟩) e.1 (emptied e.2) =
      OrderedMap.mapValues emptied ⟨done ++ [e]⟩ := by
    rw [OrderedMap.insert_of_notMem hnew]
    simp [OrderedMap.mapValues]
  rw [← hinsert]
  obtain ⟨key, callback⟩ := e
  cases hcallbacks _ hmem with
  | @ref r h =>
    have hopen : openContainer place (done ++ [(key, .ref r)]) = openContainer place done := by
      simp [openContainer, openCallback?, RefOr.item?]
    rw [hopen]
    exact conveys_callbackReference hdoc hkey h
  | @item table h =>
    have hopen : openContainer place (done ++ [(key, .item table)]) = place.callback key := by
      simp [openContainer, openCallback?, RefOr.item?]
    rw [hopen]
    exact conveys_callback hdoc hkey

variable (place) in
lemma conveys_outline (hpath : Bare place.path) :
    Conveys value (Starts doc place.container)
      (Focus doc place (openContainer place o.callbacks.entries) o.emptied)
      (o.outline place.path place.method) :=
  have hflat := (conveys_header place hdoc h hpath).cons (conveys_parts hdoc h)
  hflat.append (conveys_callbacks hdoc h)

end Outlines

/-! ### Outlines of callbacks -/

lemma conveys_brief (hdoc : (doc.paths? c).isSome) {e : PathTable.Entry Operation}
    (hpath : Bare e.path) (h : e.operation.Describable) :
    Conveys value (Starts doc c)
      (Starts (doc.modifyPaths c fun table => table.add (e.map Operation.sketch)) c) (brief e) := by
  let place : OperationPlace := { container := c, path := e.path, method := e.method }
  rw [brief]
  cases hnests : e.operation.nests with
  | true =>
    refine (conveys_header place hdoc h hpath).imp fun s hs => ⟨?_, hs.container⟩
    rw [hs.doc, PathTable.Entry.map, Operation.sketch, hnests]
    rfl
  | false =>
    refine (conveys_outline place hdoc h hpath).imp fun s hs => ⟨?_, ?_⟩
    · rw [hs.doc, Operation.emptied_of_bodies (bodies_of_flat hnests), PathTable.Entry.map,
        Operation.sketch_of_flat hnests]
      rfl
    · rw [hs.container, openContainer_of_flat hnests]

/-- The document with what the outline of a callback has of some operations. -/
def addSketches (doc : Document) (c : Container) (entries : List (PathTable.Entry Operation)) :
    Document :=
  doc.modifyPaths c fun table => (entries.map (·.map Operation.sketch)).foldl PathTable.add table

lemma addSketches_concat (doc : Document) (c : Container)
    (entries : List (PathTable.Entry Operation)) (e : PathTable.Entry Operation) :
    ((addSketches doc c entries).modifyPaths c fun table => table.add (e.map Operation.sketch)) =
      addSketches doc c (entries ++ [e]) := by
  rw [addSketches, addSketches, Document.modifyPaths_modifyPaths]
  simp

lemma isSome_paths?_addSketches (hdoc : (doc.paths? c).isSome)
    (entries : List (PathTable.Entry Operation)) :
    ((addSketches doc c entries).paths? c).isSome := by
  rwa [addSketches, Document.paths?_modifyPaths_self, Option.isSome_map]

lemma conveys_briefs (hdoc : (doc.paths? c).isSome) {entries : List (PathTable.Entry Operation)}
    (h : ∀ e ∈ entries, Bare e.path ∧ e.operation.Describable) :
    Conveys value (Starts doc c) (Starts (addSketches doc c entries) c)
      (entries.flatMap brief) := by
  have hnil : addSketches doc c [] = doc := Document.modifyPaths_id doc c
  have hconveys : Conveys value (Starts (addSketches doc c []) c)
      (Starts (addSketches doc c entries) c) (entries.flatMap brief) := by
    refine .flatMap (F := fun done => Starts (addSketches doc c done) c)
      fun done e rest hentries => ?_
    obtain ⟨hpath, he⟩ := h e (mem_of_eq_append hentries)
    rw [← addSketches_concat]
    exact conveys_brief (isSome_paths?_addSketches hdoc done) hpath he
  rwa [hnil] at hconveys

/-! ### The callback that has operations -/

section Interior

variable (h : o.Describable) {key : String} {table : Paths} (hbody : (key, table) ∈ o.bodies)
  (hdoc : (doc.paths? place.container).isSome)

include h hbody hdoc

lemma isSome_paths?_emptied :
    ((doc.putOperation place o.emptied).paths? (place.callback key)).isSome := by
  rw [Document.paths?_inline, Document.operation?_putOperation hdoc, Option.bind_some,
    h.get?_emptied hbody]
  rfl

/-- A callback that is opened again is as empty as before. -/
lemma conveys_reopen :
    Conveys value (Focus doc place (openContainer place o.callbacks.entries) o.emptied)
      (Starts (doc.putOperation place o.emptied) (place.callback key)) (o.reopen key) := by
  rw [Operation.reopen]
  split_ifs with hopen
  · rw [openContainer, hopen]
    exact .nil fun s hs => ⟨hs.doc, hs.container⟩
  · -- another callback was opened after it
    have hsame : { o.emptied with callbacks := o.emptied.callbacks.insert key (.item {}) } =
        o.emptied := by
      rw [OrderedMap.insert_of_get? (h.get?_emptied hbody)]
      rfl
    refine (conveys_callback hdoc (h.bare_key hbody)).imp fun s hs => ?_
    rw [hsame] at hs
    exact ⟨hs.doc, hs.container⟩

/-- All but the operation in the callback that has callbacks of its own. -/
lemma conveys_interior (hpath : Bare place.path) (hbodies : o.bodies.head? = some (key, table)) :
    Conveys value (Starts doc place.container)
      (Starts (addSketches (doc.putOperation place o.emptied) (place.callback key)
        (Paths.outlined table)) (place.callback key))
      (o.outline place.path place.method ++ o.interior) := by
  have hinterior : o.interior = o.reopen key ++ (Paths.outlined table).flatMap brief := by
    rw [Operation.interior, hbodies]
  have houtlined : ∀ e ∈ Paths.outlined table, e ∈ table.listing := by
    intro e he
    rw [Paths.outlined] at he
    split_ifs at he
    · exact List.dropLast_subset _ he
    · exact he
  rw [hinterior]
  refine (conveys_outline place hdoc h hpath).append ((conveys_reopen h hbody hdoc).append ?_)
  refine conveys_briefs (isSome_paths?_emptied h hbody hdoc) fun e he => ?_
  exact h.entry hbody (houtlined e he)

end Interior

/-! ### Operations with their callbacks -/

lemma eq_nil_or_singleton {α : Type} {l : List α} (h : l.length ≤ 1) : l = [] ∨ ∃ x, l = [x] := by
  match l, h with
  | [], _ => exact .inl rfl
  | [x], _ => exact .inr ⟨x, rfl⟩

/-- The annotations that describe an operation make it. -/
lemma conveys_annotations (place : OperationPlace) (h : o.Describable)
    (hdoc : (doc.paths? place.container).isSome) (hpath : Bare place.path) :
    Conveys value (Starts doc place.container) (fun s => s.doc = doc.putOperation place o)
      (o.annotations place.path place.method) := by
  -- by induction over the operations in callbacks
  induction o using Operation.induction generalizing doc place with
  | step o ih =>
  rcases eq_nil_or_singleton h.length_bodies with hbodies | ⟨⟨key, table⟩, hbodies⟩
  · -- the outline is all
    have hnested : o.nested? = none := by rw [Operation.nested?, hbodies]; rfl
    have hinterior : o.interior = [] := by rw [Operation.interior, hbodies]; rfl
    rw [Operation.annotations_of_none hnested, hinterior, List.append_nil]
    refine (conveys_outline place hdoc h hpath).imp fun s hs => ?_
    rw [hs.doc, Operation.emptied_of_bodies hbodies]
  · have hbody : (key, table) ∈ o.bodies := hbodies ▸ List.mem_singleton.mpr rfl
    have hnodup := h.nodup_table hbody
    have hfull := h.exists_operation hbody
    have hinterior : Conveys value (Starts doc place.container) _
        (o.outline place.path place.method ++ o.interior) :=
      conveys_interior h hbody hdoc hpath (hbodies ▸ rfl)
    have hnested : o.nested? = (Paths.nesting table).head? := by
      rw [Operation.nested?, hbodies]
      rfl
    rcases eq_nil_or_singleton (h.length_nesting hbody) with hnesting | ⟨x, hnesting⟩
    · -- the outline of the callback fills it
      rw [hnesting] at hnested
      rw [Operation.annotations_of_none hnested]
      refine hinterior.imp fun s hs => ?_
      rw [hs.doc, addSketches]
      exact putOperation_of_bodies h hbodies (foldl_add_outlined hnodup hfull hnesting) doc place
    · -- the outline leaves out one operation, which is described in the open callback
      rw [hnesting] at hnested
      have hx : x ∈ Paths.nesting table := hnesting ▸ List.mem_singleton.mpr rfl
      obtain ⟨hpath', hx'⟩ := h.entry hbody (List.mem_filter.mp hx).1
      have hnext : Conveys value (Starts _ (place.callback key)) _
          (x.operation.annotations x.path x.method) :=
        ih x.operation (Operation.holds_of_nested? hnested)
          { container := place.callback key, path := x.path, method := x.method } hx'
          (isSome_paths?_addSketches (isSome_paths?_emptied h hbody hdoc) (Paths.outlined table))
          hpath'
      rw [Operation.annotations_of_some hnested]
      refine hinterior.append (hnext.imp fun s hs => ?_)
      rw [hs, Document.putOperation, addSketches, Document.modifyPaths_modifyPaths]
      exact putOperation_of_bodies h hbodies (add_foldl_outlined hnodup hfull hnesting) doc place

/-- A declaration whose comment describes an operation adds the operation to a document, and nothing
else. -/
theorem addTo_comment {o : Operation} (h : o.Describable) {path : String} (hpath : Bare path)
    (method : Method) (name : String) (value : Option String) (location : SourceLocation)
    (doc : Document) :
    Declaration.addTo
        { name, value, doc := Annotation.comment (o.annotations path method), location } doc =
      ({ doc with paths := doc.paths.setOperation path method o }, []) := by
  have hconveys : Conveys value (Starts doc .document) _ (o.annotations path method) :=
    conveys_annotations { container := .document, path, method } h rfl hpath
  obtain ⟨hfailures, hdoc⟩ := hconveys.runs (.start doc name) ⟨rfl, rfl⟩
  simp only [Declaration.addTo, Declaration.annotations,
    Annotation.ofComment_comment hconveys.tidy, runPass_doc, runPass_failures_eq, hfailures, hdoc]
  rfl

/-! ### A subscription -/

/-- The schema is written in place, and the reference is its own field. -/
def streamId : Parameter where
  name := "id"
  location := .path
  required := true
  schema := some (.item (.object ⟨[("$ref", .string "#/components/schemas/Id")]⟩))

def hookContent : Content :=
  let media : MediaType :=
    { schema := some (.ref (.component .schemas "Hook"))
      examples := ⟨[("one", { summary := "First", value := .array [.number (.integer 1)] })]⟩ }
  ⟨[("application/json", media)]⟩

/-- An operation with a callback of its own. -/
def delivery : Operation where
  summary := "Deliver"
  responses := ⟨[("2XX", .ref (.component .responses "Done"))]⟩
  callbacks := ⟨[("receipt", .item {})]⟩

def farewell : Operation := { summary := "Close" }

/-- The first callback is the one that has operations, and in it the first operation is the one that
has a callback. -/
def subscription : Operation where
  tags := ["event streams"]
  summary := "Subscribe"
  description := "Events come in order.\n\nNone is lost."
  parameters := [.item streamId, .ref (.component .parameters "Page")]
  requestBody := some (.item { content := hookContent })
  responses := ⟨[("201", .item { description := "Made" })]⟩
  callbacks :=
    ⟨[("hook", .item ⟨[("/in", { put := some delivery }), ("/out", { put := some farewell })]⟩),
      ("log", .item {})]⟩
  security := [⟨[("key", ["read", "write"])]⟩]

def subscriptionComment : String :=
  "@Operation POST /subs - Subscribe\nEvents come in order.\n\nNone is lost.\n" ++
  "@Tag event streams\n@SecurityRequirement key read write\n" ++
  "@Parameter id path\n@JSONSchema\n\x7b\"$ref\":\"#Id\"\x7d\n@Parameter \x7bPage\x7d\n" ++
  "@RequestBody\n@JSONSchema \x7bHook\x7d\n@JSONExample one - First\n[1]\n" ++
  "@Response 201\nMade\n@Callback hook\n@Callback log\n" ++
  "@Callback hook\n@Operation PUT /in - Deliver\n@Operation PUT /out - Close\n" ++
  "@Operation PUT /in - Deliver\n@Response 2XX \x7bDone\x7d\n@Callback receipt"

lemma comment_subscription :
    Annotation.comment (subscription.annotations "/subs" .post) = subscriptionComment := by
  have hnested : subscription.nested? =
      some { path := "/in", method := .put, operation := delivery } := rfl
  have hflat : delivery.nested? = none := rfl
  rw [Operation.annotations_of_some hnested, Operation.annotations_of_none hflat]
  decide +kernel

lemma describable_streamId : streamId.Describable where
  name := by decide
  description := ⟨[], by decide, rfl⟩
  required := rfl
  media := by
    have hdistinct : (Json.object ⟨[("$ref", .string "#Id")]⟩).Distinct :=
      .object (by decide) (List.forall_mem_singleton.mpr (.string _))
    refine ⟨?_, by decide, nofun, nofun⟩
    rintro _ ⟨⟩
    exact .item ⟨_, by decide, ⟨by decide, hdistinct, by decide⟩, rfl⟩

lemma describable_hookContent : hookContent.Describable where
  json := rfl
  media := by
    have hvalue : (Json.array [.number (.integer 1)]).Literal :=
      ⟨by decide, .array (List.forall_mem_singleton.mpr (.number _)), by decide⟩
    refine ⟨?_, by decide, List.forall_mem_singleton.mpr (by decide),
      List.forall_mem_singleton.mpr ⟨by decide, by decide, rfl, hvalue⟩⟩
    rintro _ ⟨⟩
    exact RefOr.sound_component _ (by decide)

lemma describable_delivery : delivery.Describable := by
  refine .intro (by decide) (by decide) ⟨[], by decide, rfl⟩ rfl nofun nofun nofun nofun (by decide)
    ?_ (by decide) ?_ (by decide) nofun
  · exact List.forall_mem_singleton.mpr (RefOr.sound_component _ (by decide))
  · exact List.forall_mem_singleton.mpr (.item .empty)

lemma describable_farewell : farewell.Describable :=
  .intro (by decide) (by decide) ⟨[], by decide, rfl⟩ rfl nofun nofun nofun nofun (by decide)
    nofun (by decide) nofun (by decide) nofun

lemma describable_subscription : subscription.Describable := by
  refine .intro (by decide) (by decide)
    ⟨["Events come in order.", "", "None is lost."], by decide, rfl⟩ rfl (by decide) ?security
    ?parameters ?requestBody (by decide) ?responses (by decide) ?callbacks (by decide) (by decide)
  case security => exact List.forall_mem_singleton.mpr ⟨_, _, by decide, by decide, rfl⟩
  case parameters =>
    exact List.forall_mem_cons.mpr ⟨.item describable_streamId,
      List.forall_mem_singleton.mpr (RefOr.sound_component _ (by decide))⟩
  case requestBody =>
    rintro _ ⟨⟩
    exact .item ⟨⟨[], by decide, rfl⟩, describable_hookContent, rfl⟩
  case responses =>
    refine List.forall_mem_singleton.mpr (.item ⟨⟨["Made"], by decide, rfl⟩, rfl, ?_⟩)
    exact ⟨nofun, by decide, nofun, nofun⟩
  case callbacks =>
    refine List.forall_mem_cons.mpr ⟨.item (.intro (by decide) ?_ ?_),
      List.forall_mem_singleton.mpr (.item .empty)⟩
    · exact List.forall_mem_cons.mpr ⟨⟨.put, rfl⟩, List.forall_mem_singleton.mpr ⟨.put, rfl⟩⟩
    · refine List.forall_mem_cons.mpr ⟨?_, List.forall_mem_singleton.mpr ?_⟩
      all_goals rintro (_ | _) _ ⟨⟩
      · exact describable_delivery
      · exact describable_farewell

/-- The comment of an operation with a body and two callbacks is built into this operation. -/
theorem addTo_subscriptionComment :
    subscription.Describable ∧ Bare "/subs" ∧
      Declaration.addTo { name := "subscribe", doc := subscriptionComment } {} =
        ({ paths := ⟨[("/subs", { post := some subscription })]⟩ }, []) := by
  refine ⟨describable_subscription, by decide, ?_⟩
  rw [← comment_subscription]
  exact addTo_comment describable_subscription (by decide) .post "subscribe" none {} {}

end Builder

end ApiScribe
