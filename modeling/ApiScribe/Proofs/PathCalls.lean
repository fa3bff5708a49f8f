import ApiScribe.Proofs.Builder.Places
import ApiScribe.Proofs.Locating
import Mathlib.Data.List.Induction

/-!
# Tables of paths as maps

A table of paths, asked again and again to store, give or change an operation, is a map from paths
and methods to operations. What it answers and holds, and what is written of it, is told by the
calls alone, so it is the same for the paths of a document and for every callback.
-/

namespace ApiScribe.OpenApi

variable {ω : Type}

/-! ### Calls -/

/-- What is done with the operation at a path and method. -/
inductive Access (ω : Type) where
  | set (operation : ω)
  | get
  | edit (f : ω → ω)

structure Call (ω : Type) where
  path : String
  method : Method
  access : Access ω

namespace PathTable

/-- The table after a call and its answer, which is the operation that has been replaced, found or
changed. -/
def perform (paths : PathTable ω) (call : Call ω) : PathTable ω × Option ω :=
  match call.access with
  | .set operation => paths.replaceOperation call.path call.method operation
  | .get => (paths, paths.operation? call.path call.method)
  | .edit f =>
    let edited := paths.modifyOperation call.path call.method f
    (edited, edited.operation? call.path call.method)

/-- The table after calls, one after the other, and their answers. -/
def performAll (paths : PathTable ω) : List (Call ω) → PathTable ω × List (Option ω)
  | [] => (paths, [])
  | call :: calls =>
    let (next, answer) := paths.perform call
    let (final, answers) := performAll next calls
    (final, answer :: answers)

end PathTable

/-! ### The map that calls make -/

/-- What is at a path and method after it has been accessed. -/
def Access.result : Access ω → Option ω → Option ω
  | .set operation, _ => some operation
  | .get, slot => slot
  | .edit f, slot => slot.map f

def Access.answer : Access ω → Option ω → Option ω
  | .set _, slot => slot
  | .get, slot => slot
  | .edit f, slot => slot.map f

/-- What calls leave at a path and method, which only those at the same path and method matter
for. -/
def latest (calls : List (Call ω)) (path : String) (method : Method) : Option ω :=
  calls.foldl (fun slot call =>
    if call.path = path ∧ call.method = method then call.access.result slot else slot) none

def Call.setPath? (call : Call ω) : Option String :=
  match call.access with
  | .set _ => some call.path
  | _ => none

/-- The paths that operations are stored at, in the order in which they first are. -/
def openedPaths (calls : List (Call ω)) : List String := (calls.filterMap Call.setPath?).eraseDups

lemma latest_concat (calls : List (Call ω)) (call : Call ω) (path : String) (method : Method) :
    latest (calls ++ [call]) path method =
      if call.path = path ∧ call.method = method then call.access.result (latest calls path method)
      else latest calls path method := by
  rw [latest, List.foldl_append]
  rfl

lemma openedPaths_concat (calls : List (Call ω)) (call : Call ω) :
    openedPaths (calls ++ [call]) = call.setPath?.elim (openedPaths calls) fun path =>
      if path ∈ openedPaths calls then openedPaths calls else openedPaths calls ++ [path] := by
  rw [openedPaths, List.filterMap_append]
  cases hpath : call.setPath? with
  | none => simp [hpath, openedPaths]
  | some path =>
    simp only [List.filterMap_cons, hpath, List.filterMap_nil, openedPaths, Option.elim_some,
      List.mem_eraseDups]
    rw [List.eraseDups_append]
    by_cases hmem : path ∈ calls.filterMap Call.setPath?
    · rw [if_pos hmem, List.removeAll, List.filter_cons_of_neg (by simpa using hmem)]
      exact List.append_nil _
    · rw [if_neg hmem, List.removeAll, List.filter_cons_of_pos (by simpa using hmem)]
      rfl

namespace PathTable

/-! ### One call -/

lemma replaceOperation_eq (paths : PathTable ω) (path : String) (method : Method) (operation : ω) :
    paths.replaceOperation path method operation =
      (paths.setOperation path method operation, paths.operation? path method) := by
  rw [replaceOperation, PathItem.replaceOperation, setOperation, operation?]
  cases OrderedMap.get? paths path <;> simp

lemma perform_answer (paths : PathTable ω) (call : Call ω) :
    (paths.perform call).2 = call.access.answer (paths.operation? call.path call.method) := by
  rw [perform]
  cases call.access with
  | set operation => simp only [replaceOperation_eq, Access.answer]
  | get => rfl
  | edit f => simp only [operation?_modifyOperation_self, Access.answer]

/-- A call concerns its own path and method only. -/
lemma operation?_perform (paths : PathTable ω) (call : Call ω) (path : String) (method : Method) :
    (paths.perform call).1.operation? path method =
      if call.path = path ∧ call.method = method then
        call.access.result (paths.operation? path method)
      else paths.operation? path method := by
  rw [perform]
  cases call.access with
  | set operation => simp only [replaceOperation_eq, operation?_setOperation, Access.result]
  | get => simp only [Access.result, ite_self]
  | edit f => simp only [operation?_modifyOperation, Access.result]

/-- A path is opened by storing an operation at it, and only so. -/
lemma keys_perform (paths : PathTable ω) (call : Call ω) :
    (paths.perform call).1.keys = call.setPath?.elim paths.keys fun path =>
      if path ∈ paths.keys then paths.keys else paths.keys ++ [path] := by
  rw [perform, Call.setPath?]
  cases call.access with
  | set operation => simp only [replaceOperation_eq, keys_setOperation, Option.elim_some]
  | get => rfl
  | edit f => exact OrderedMap.keys_modify _ _ _

lemma nodup_keys_perform {paths : PathTable ω} (h : paths.keys.Nodup) (call : Call ω) :
    (paths.perform call).1.keys.Nodup := by
  rw [perform]
  cases call.access with
  | set operation => exact OrderedMap.nodup_keys_insert h _ _
  | get => exact h
  | edit f => exact OrderedMap.nodup_keys_modify h _ _

/-! ### All calls -/

lemma performAll_concat (paths : PathTable ω) (calls : List (Call ω)) (call : Call ω) :
    paths.performAll (calls ++ [call]) =
      (((paths.performAll calls).1.perform call).1,
        (paths.performAll calls).2 ++ [((paths.performAll calls).1.perform call).2]) := by
  induction calls generalizing paths with
  | nil => rfl
  | cons first calls ih => simp only [List.cons_append, performAll, ih]

lemma operation?_performAll (calls : List (Call ω)) (path : String) (method : Method) :
    (performAll {} calls).1.operation? path method = latest calls path method := by
  induction calls using List.reverseRecOn with
  | nil => rfl
  | append_singleton calls call ih =>
    rw [performAll_concat, operation?_perform, ih, latest_concat]

lemma keys_performAll (calls : List (Call ω)) :
    (performAll {} calls).1.keys = openedPaths calls := by
  induction calls using List.reverseRecOn with
  | nil => rfl
  | append_singleton calls call ih =>
    rw [performAll_concat, keys_perform, ih, openedPaths_concat]

lemma nodup_keys_performAll (calls : List (Call ω)) : (performAll {} calls).1.keys.Nodup := by
  induction calls using List.reverseRecOn with
  | nil => exact List.nodup_nil
  | append_singleton calls call ih =>
    rw [performAll_concat]
    exact nodup_keys_perform ih call

lemma length_performAll (paths : PathTable ω) (calls : List (Call ω)) :
    (paths.performAll calls).2.length = calls.length := by
  induction calls generalizing paths with
  | nil => rfl
  | cons call calls ih => simp only [performAll, List.length_cons, ih]

/-- Every call is answered according to what the calls before it have left. -/
lemma answer_performAll {calls : List (Call ω)} {i : Nat} {call : Call ω}
    (h : calls[i]? = some call) :
    (performAll {} calls).2[i]? =
      some (call.access.answer (latest (calls.take i) call.path call.method)) := by
  induction calls using List.reverseRecOn with
  | nil => cases h
  | append_singleton calls last ih =>
    rw [performAll_concat]
    rcases Nat.lt_trichotomy i calls.length with hlt | rfl | hgt
    · rw [List.getElem?_append_left hlt] at h
      rw [List.getElem?_append_left (by rwa [length_performAll]),
        List.take_append_of_le_length (Nat.le_of_lt hlt)]
      exact ih h
    · rw [List.getElem?_concat_length, Option.some.injEq] at h
      rw [List.take_left, ← length_performAll {} calls, List.getElem?_concat_length,
        perform_answer, operation?_performAll, h]
    · rw [List.getElem?_eq_none (by rwa [List.length_append])] at h
      cases h

end PathTable

/-! ### What is written -/

/-- The object with one member for each key, and in it one for each filled slot, in the order of
the methods. -/
def writtenSlots (keys : List String) (slot : String → Method → Option Operation) : Json :=
  .object ⟨keys.map fun path => (path, .object ⟨Method.all.filterMap fun method =>
    (slot path method).map fun operation => (method.key, operation.toJson)⟩)⟩

lemma PathItem.fields_eq_filterMap (item : PathItem ω) (write : ω → Json) :
    item.fields write =
      Method.all.filterMap fun method =>
        (item.operation? method).map fun operation => (method.key, write operation) := by
  rw [PathItem.fields, List.filterMap_eq_flatMap_toList]
  congr 1
  funext method
  cases item.operation? method <;> rfl

lemma Paths.toJson_eq_writtenSlots {paths : Paths} (h : OrderedMap.keys paths |>.Nodup) :
    Paths.toJson paths = writtenSlots (OrderedMap.keys paths) (PathTable.operation? paths) := by
  rw [Paths.toJson_eq, mapJson, mapEntries, writtenSlots, OrderedMap.keys, List.map_map]
  congr 2
  refine List.map_congr_left fun e he => ?_
  have hget := OrderedMap.get?_of_mem h he
  simp only [Function.comp_apply, PathTable.operation?, hget, Option.bind_some, PathItem.toJson,
    PathItem.fields_eq_filterMap]

/-! ### Calls on the tables of a document -/

namespace Document

/-- Make a call on the table of paths at a place, which is not answered if there is none. -/
def perform (doc : Document) (c : Builder.Container) (call : Call Operation) :
    Document × Option Operation :=
  (doc.modifyPaths c fun paths => (PathTable.perform paths call).1,
    (doc.paths? c).bind fun paths => (PathTable.perform paths call).2)

def performAll (doc : Document) (c : Builder.Container) :
    List (Call Operation) → Document × List (Option Operation)
  | [] => (doc, [])
  | call :: calls =>
    let (next, answer) := doc.perform c call
    let (final, answers) := performAll next c calls
    (final, answer :: answers)

/-- Calls act on the table at the place as they do on a table by itself. -/
lemma performAll_eq {doc : Document} {c : Builder.Container} {paths : Paths}
    (h : doc.paths? c = some paths) (calls : List (Call Operation)) :
    (doc.performAll c calls).1.paths? c = some (PathTable.performAll paths calls).1 ∧
      (doc.performAll c calls).2 = (PathTable.performAll paths calls).2 := by
  induction calls generalizing doc paths with
  | nil => exact ⟨h, rfl⟩
  | cons call calls ih =>
    have hnext : (doc.perform c call).1.paths? c = some (PathTable.perform paths call).1 := by
      rw [perform, paths?_modifyPaths_self, h, Option.map_some]
    have hanswer : (doc.perform c call).2 = (PathTable.perform paths call).2 := by
      rw [perform, h, Option.bind_some]
    obtain ⟨hpaths, hanswers⟩ := ih hnext
    refine ⟨hpaths, ?_⟩
    simp only [performAll, PathTable.performAll, hanswer, hanswers]

end Document

/-- The tables of paths are one map from paths and methods to operations. Calls on a table that is
empty at first are answered by what the calls before have left at the same path and method. The
table then holds what all calls have left, lists the paths that operations have been stored at, and
is written with the filled methods of each path in their order. The same holds of the document's own
paths and of every callback, wherever in the document it is. -/
theorem path_tables_are_one_map (calls : List (Call Operation)) :
    let table := (PathTable.performAll {} calls).1
    let answers := (PathTable.performAll {} calls).2
    (answers.length = calls.length ∧
      ∀ (i : Nat) (call : Call Operation), calls[i]? = some call →
        answers[i]? = some (call.access.answer (latest (calls.take i) call.path call.method))) ∧
    (∀ path method, table.operation? path method = latest calls path method) ∧
    table.keys = openedPaths calls ∧
    Paths.toJson table = writtenSlots (openedPaths calls) (latest calls) ∧
    ∀ (doc : Document) (c : Builder.Container), doc.paths? c = some {} →
      (doc.performAll c calls).2 = answers ∧
      (doc.performAll c calls).1.paths? c = some table ∧
      (doc.performAll c calls).1.toJson.follow? (steps c) =
        some (writtenSlots (openedPaths calls) (latest calls)) := by
  intro table answers
  have hoperation : PathTable.operation? table = latest calls := by
    funext path method
    exact PathTable.operation?_performAll calls path method
  have hkeys : table.keys = openedPaths calls := PathTable.keys_performAll calls
  have hwritten : Paths.toJson table = writtenSlots (openedPaths calls) (latest calls) := by
    rw [Paths.toJson_eq_writtenSlots (PathTable.nodup_keys_performAll calls), hoperation]
    exact congrArg (writtenSlots · _) hkeys
  refine ⟨⟨PathTable.length_performAll {} calls, fun i call => PathTable.answer_performAll⟩,
    fun path method => congrFun₂ hoperation path method, hkeys, hwritten, ?_⟩
  intro doc c hc
  obtain ⟨hpaths, hanswers⟩ := Document.performAll_eq hc calls
  refine ⟨hanswers, hpaths, ?_⟩
  rw [follow?_paths hpaths, ← hwritten]

/-- The paths of a callback are one map under calls that store, read and edit. -/
theorem onShipped_is_one_map :
    let order : Operation := { callbacks := ⟨[("onShipped", .item {})]⟩ }
    let doc : Document := { paths := ⟨[("/order", { post := some order })]⟩ }
    let c : Builder.Container := .inline .document "/order" .post "onShipped"
    let stored : Call Operation := ⟨"/parcel", .put, .set { summary := "Second" }⟩
    let calls : List (Call Operation) :=
      [⟨"/parcel", .put, .set { summary := "First" }⟩, ⟨"/parcel", .get, .get⟩,
        ⟨"/parcel", .put, .edit fun o => { o with operationId := "ship" }⟩, stored,
        ⟨"/letter", .put, .edit id⟩]
    doc.paths? c = some {} ∧ calls[3]? = some stored ∧
      (doc.performAll c calls).2[3]? = some (some { summary := "First", operationId := "ship" }) ∧
      (doc.performAll c calls).1.toJson.follow? (steps c) =
        some (writtenSlots ["/parcel"] (latest [stored])) := by
  intro order doc c stored calls
  obtain ⟨⟨-, hanswer⟩, -, -, -, hplace⟩ := path_tables_are_one_map calls
  have hc : doc.paths? c = some {} := rfl
  obtain ⟨hanswers, -, hwritten⟩ := hplace doc c hc
  have hopened : openedPaths calls = ["/parcel"] := by decide +kernel
  have hlatest : latest calls "/parcel" = latest [stored] "/parcel" := by
    funext method
    cases method <;> rfl
  refine ⟨hc, rfl, ?_, ?_⟩
  · rw [hanswers, hanswer 3 stored rfl]
    rfl
  · rw [hwritten, hopened]
    simp only [writtenSlots, List.map_cons, List.map_nil, hlatest]

end ApiScribe.OpenApi
