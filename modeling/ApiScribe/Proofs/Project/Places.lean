import ApiScribe.Project.FileTree
import ApiScribe.Proofs.OrderedMap
import ApiScribe.Proofs.Text.Words

/-!
# Places in a file tree

A tree is seen through what stands at each place, where a place is the list of names that leads to
it. A path leads to its place through the places of its parts, and can be walked if directories are
there.
-/

namespace ApiScribe.Project

/-! ### Places -/

/-- What can stand at a place. -/
inductive Node where
  | file (content : ByteArray)
  | directory
  | special

def Node.isFile : Node → Bool
  | file _ => true
  | _ => false

def Node.isDirectory : Node → Bool
  | directory => true
  | _ => false

lemma Node.isDirectory_iff {node : Node} : node.isDirectory = true ↔ node = .directory := by
  cases node <;> simp [isDirectory]

instance (node : Node) : Decidable (node = .directory) :=
  decidable_of_iff _ Node.isDirectory_iff

instance (node? : Option Node) : Decidable (node? = some .directory) :=
  decidable_of_iff (node?.any Node.isDirectory) (by cases node? <;> simp [Node.isDirectory_iff])

def Entry.node? : Entry → List String → Option Node
  | .file content, [] => some (.file content)
  | .directory _, [] => some .directory
  | .special, [] => some .special
  | .directory entries, name :: names => (entries.get? name).bind (·.node? names)
  | _, _ :: _ => none

lemma Entry.isDirectory_iff {entry : Entry} :
    entry.isDirectory = true ↔ ∃ entries, entry = .directory entries := by
  cases entry <;> simp [isDirectory]

lemma Entry.isDirectory_eq_of_node? {entry entry' : Entry} (h : entry.node? = entry'.node?) :
    entry.isDirectory = entry'.isDirectory := by
  have hroot := congrFun h []
  cases entry <;> cases entry' <;> first | rfl | cases hroot

lemma Entry.node?_cons_of_not_directory {entry : Entry} (h : entry.isDirectory = false)
    (name : String) (names : List String) : entry.node? (name :: names) = none := by
  cases entry with
  | directory entries => cases h
  | _ => rfl

/-- The place to which a part of a path leads from a place. -/
def enter (names : List String) (part : String) : List String :=
  if part = "" ∨ part = "." then names else if part = ".." then names.dropLast else names ++ [part]

lemma isName_iff {part : String} :
    isName part = true ↔ ¬ (part = "" ∨ part = ".") ∧ part ≠ ".." := by
  simp [isName, not_or, and_assoc]

lemma mem_scanl_self (names parts : List String) : names ∈ parts.scanl enter names :=
  List.mem_of_mem_head? (List.head?_scanl ▸ rfl)

lemma scanl_enter_subset {parts parts' : List String} (h : parts <+: parts') (names : List String) :
    parts.scanl enter names ⊆ parts'.scanl enter names := by
  obtain ⟨rest, rfl⟩ := h
  rw [List.scanl_append]
  exact List.subset_append_left _ _

/-- The place of a path. -/
def place (path : String) : List String := (pathParts path).foldl enter []

/-- The places that are passed on the way to the place of a path. -/
def passed (path : String) : List (List String) := (pathParts path).dropLast.scanl enter []

/-! ### Paths -/

lemma slashParts_ne_nil (cs : List Char) : slashParts cs ≠ [] := by
  fun_cases slashParts cs with
  | case1 => exact List.cons_ne_nil _ _
  | case2 cs => exact List.cons_ne_nil _ _
  | case3 c cs =>
    cases slashParts cs <;> exact List.cons_ne_nil _ _

lemma slash_notMem_slashParts {cs group : List Char} (h : group ∈ slashParts cs) : '/' ∉ group := by
  fun_induction slashParts cs generalizing group with
  | case1 =>
    rw [List.mem_singleton.mp h]
    exact List.not_mem_nil
  | case2 cs ih =>
    rcases List.mem_cons.mp h with rfl | h
    · exact List.not_mem_nil
    · exact ih h
  | case3 c cs hc ih =>
    rcases Text.mem_consHead h with rfl | ⟨first, hfirst, rfl⟩ | h
    · simpa using Ne.symm hc
    · simpa using ⟨Ne.symm hc, ih hfirst⟩
    · exact ih h

lemma slashParts_of_notMem {cs : List Char} (h : '/' ∉ cs) : slashParts cs = [cs] := by
  induction cs with
  | nil => rfl
  | cons c cs ih =>
    rw [List.mem_cons, not_or] at h
    rw [slashParts.eq_3 _ _ (Ne.symm h.1), ih h.2, Text.consHead]

lemma slashParts_append {cs : List Char} (h : '/' ∉ cs) (ds : List Char) :
    slashParts (cs ++ '/' :: ds) = cs :: slashParts ds := by
  induction cs with
  | nil => rfl
  | cons c cs ih =>
    rw [List.mem_cons, not_or] at h
    rw [List.cons_append, slashParts.eq_3 _ _ (Ne.symm h.1), ih h.2, Text.consHead]

lemma pathParts_intercalate {parts : List String} (hne : parts ≠ [])
    (h : ∀ part ∈ parts, '/' ∉ part.toList) : pathParts ("/".intercalate parts) = parts := by
  induction parts with
  | nil => exact absurd rfl hne
  | cons part parts ih =>
    obtain ⟨hpart, hparts⟩ := List.forall_mem_cons.mp h
    cases parts with
    | nil =>
      rw [String.intercalate_singleton, pathParts, slashParts_of_notMem hpart, List.map_singleton,
        String.ofList_toList]
    | cons next parts =>
      have hchars : ("/".intercalate (part :: next :: parts)).toList =
          part.toList ++ '/' :: ("/".intercalate (next :: parts)).toList := by
        rw [String.intercalate_cons_cons, String.toList_append, String.toList_append]
        simp
      rw [pathParts, hchars, slashParts_append hpart, List.map_cons, String.ofList_toList,
        ← pathParts, ih (List.cons_ne_nil _ _) hparts]

lemma slash_notMem_pathParts {path part : String} (h : part ∈ pathParts path) :
    '/' ∉ part.toList := by
  obtain ⟨group, hgroup, rfl⟩ := List.mem_map.mp h
  rw [String.toList_ofList]
  exact slash_notMem_slashParts hgroup

lemma dropLast_isPrefix {parts parts' : List String} (h : parts <+: parts') :
    parts.dropLast <+: parts'.dropLast := by
  obtain ⟨rest, rfl⟩ := h
  have hinit : parts.dropLast <+: parts := List.dropLast_prefix parts
  by_cases hne : rest = []
  · simp [hne]
  · rw [List.dropLast_append_of_ne_nil hne]
    exact hinit.trans (List.prefix_append _ _)

/-- The way to the parent of a path is a part of the way to the path. -/
lemma scanl_parentPath_subset (path : String) :
    (pathParts (parentPath path)).scanl enter [] ⊆ passed path := by
  have hroot : [] ∈ passed path := mem_scanl_self _ _
  have hdropped (parts : List String) : (parts.reverse.dropWhile isVacuous).reverse <+: parts := by
    rw [← List.reverse_suffix, List.reverse_reverse]
    exact List.dropWhile_suffix isVacuous
  have hparent : (((pathParts path).reverse.dropWhile isVacuous).drop 1).reverse <+:
      (pathParts path).dropLast := by
    rw [List.drop_one, ← List.dropLast_reverse]
    exact dropLast_isPrefix (hdropped _)
  rw [parentPath]
  split
  next => simp [pathParts, slashParts, enter, hroot]
  next first parts hparts =>
    rw [hparts] at hparent
    have hsub {kept : List String} (h : kept <+: parts) :
        (pathParts ("/".intercalate (first :: kept))).scanl enter [] ⊆ passed path := by
      have hkept : first :: kept <+: (pathParts path).dropLast :=
        ((List.prefix_cons_inj first).mpr h).trans hparent
      rw [pathParts_intercalate (List.cons_ne_nil _ _) fun part hpart =>
        slash_notMem_pathParts (List.dropLast_subset _ (hkept.subset hpart))]
      exact scanl_enter_subset hkept []
    split
    next =>
      split_ifs with hfirst
      · simp [pathParts, slashParts, enter, hroot]
      · simpa using hsub List.nil_prefix
    next => exact hsub (hdropped parts)

/-- The last part of a path is a name. -/
def EndsInName (path : String) : Prop := ∀ name ∈ (pathParts path).getLast?, isName name = true

instance (path : String) : Decidable (EndsInName path) :=
  inferInstanceAs (Decidable (∀ name ∈ (pathParts path).getLast?, isName name = true))

lemma EndsInName.place_eq {path : String} (h : EndsInName path) :
    ∃ name, (pathParts path).getLast? = some name ∧ isName name = true ∧
      place path = (pathParts path).dropLast.foldl enter [] ++ [name] := by
  have hne : pathParts path ≠ [] := mt List.map_eq_nil_iff.mp (slashParts_ne_nil _)
  have hlast := List.getLast?_eq_some_getLast hne
  have hname := h _ hlast
  refine ⟨_, hlast, hname, ?_⟩
  conv_lhs => rw [place, ← List.dropLast_append_getLast hne, List.foldl_concat]
  obtain ⟨hvacuous, hup⟩ := isName_iff.mp hname
  rw [enter, if_neg hvacuous, if_neg hup]

namespace FileTree

variable {tree found : FileTree} {names names' parts : List String} {name : String}

/-! ### What stands at a place -/

def node? (tree : FileTree) (names : List String) : Option Node :=
  Entry.node? (.directory tree) names

@[simp] lemma node?_directory (directory : FileTree) (names : List String) :
    Entry.node? (.directory directory) names = directory.node? names :=
  rfl

@[simp] lemma node?_nil : tree.node? [] = some .directory := rfl

lemma node?_cons (tree : FileTree) (name : String) (names : List String) :
    tree.node? (name :: names) = (tree.get? name).bind (·.node? names) :=
  rfl

lemma node?_append_cons (tree : FileTree) (names : List String) (name : String)
    (rest : List String) :
    tree.node? (names ++ name :: rest) =
      (tree.descend names).bind fun directory => node? directory (name :: rest) := by
  induction names generalizing tree with
  | nil => rfl
  | cons outer names ih =>
    rw [List.cons_append, node?_cons, descend]
    cases tree.get? outer with
    | none => rfl
    | some entry =>
      cases entry with
      | directory inner => exact ih inner
      | _ => cases names <;> rfl

lemma isSome_descend_iff :
    (tree.descend names).isSome ↔ tree.node? names = some .directory := by
  induction names generalizing tree with
  | nil => simp [descend]
  | cons outer names ih =>
    rw [node?_cons, descend]
    cases tree.get? outer with
    | none => simp
    | some entry =>
      cases entry with
      | directory inner => exact ih
      | _ => cases names <;> simp [Entry.node?]

/-- A place is in a directory if anything stands there. -/
lemma node?_of_node?_concat {node : Node} (h : tree.node? (names ++ [name]) = some node) :
    tree.node? names = some .directory := by
  rw [node?_append_cons] at h
  obtain ⟨directory, hdirectory, -⟩ := Option.bind_eq_some_iff.mp h
  exact isSome_descend_iff.mp (Option.isSome_of_eq_some hdirectory)

lemma node?_dropLast (h : tree.node? names = some .directory) :
    tree.node? names.dropLast = some .directory := by
  obtain rfl | ⟨init, last, rfl⟩ := names.eq_nil_or_concat
  · exact h
  · rw [List.concat_eq_append] at h ⊢
    rw [List.dropLast_concat]
    exact node?_of_node?_concat h

/-! ### Walking -/

section Walking

variable {directory inner : FileTree} {above : List FileTree} {part : String}

lemma walk_of_vacuous (h : part = "" ∨ part = ".") :
    walk directory above (part :: parts) = walk directory above parts := by
  cases above <;> rw [walk, if_pos h]

lemma walk_up_root : walk directory [] (".." :: parts) = walk directory [] parts := rfl

lemma walk_up : walk directory (inner :: above) (".." :: parts) = walk inner above parts := rfl

lemma walk_of_directory (hname : isName part)
    (hget : directory.get? part = some (.directory inner)) :
    walk directory above (part :: parts) = walk inner (directory :: above) parts := by
  obtain ⟨hvacuous, hup⟩ := isName_iff.mp hname
  cases above <;> rw [walk, if_neg hvacuous, if_neg hup, hget]

/-- A name leads to whatever else stands there, but no further. -/
lemma walk_of_not_directory {entry : Entry} (hname : isName part)
    (hget : directory.get? part = some entry) (h : entry.isDirectory = false) :
    walk directory above (part :: parts) = if parts.isEmpty then some entry else none := by
  obtain ⟨hvacuous, hup⟩ := isName_iff.mp hname
  cases entry with
  | directory inner => cases h
  | _ => cases above <;> rw [walk, if_neg hvacuous, if_neg hup, hget]

lemma exists_of_walk (hname : isName part)
    (h : walk directory above (part :: parts) = some (.directory found)) :
    ∃ inner, directory.get? part = some (.directory inner) ∧
      walk inner (directory :: above) parts = some (.directory found) := by
  cases hget : directory.get? part with
  | none =>
    obtain ⟨hvacuous, hup⟩ := isName_iff.mp hname
    cases above <;> rw [walk, if_neg hvacuous, if_neg hup, hget] at h <;> cases h
  | some entry =>
    cases entry with
    | directory inner => exact ⟨inner, rfl, walk_of_directory hname hget ▸ h⟩
    | _ =>
      rw [walk_of_not_directory hname hget rfl] at h
      cases parts <;> cases h

end Walking

/-- The directory that names lead to, and the ones above it up to the root. -/
inductive Inside (tree : FileTree) : List String → FileTree → List FileTree → Prop
  | root : Inside tree [] tree []
  | entered {names : List String} {name : String} {directory inner : FileTree}
    {above : List FileTree} (h : Inside tree names directory above)
    (hget : directory.get? name = some (.directory inner)) :
    Inside tree (names ++ [name]) inner (directory :: above)

section Inside

variable {directory : FileTree} {above : List FileTree}

lemma Inside.node?_append (h : Inside tree names directory above) (rest : List String) :
    tree.node? (names ++ rest) = directory.node? rest := by
  induction h generalizing rest with
  | root => rfl
  | entered h hget ih =>
    rw [List.append_assoc, ih, List.singleton_append, node?_cons, hget]
    rfl

/-- A part that leads to a directory can be walked. -/
lemma Inside.walk_cons {part : String} (h : Inside tree names directory above)
    (hpart : tree.node? (enter names part) = some .directory) :
    ∃ directory' above', Inside tree (enter names part) directory' above' ∧
      ∀ rest, walk directory above (part :: rest) = walk directory' above' rest := by
  rw [enter] at hpart ⊢
  split_ifs at hpart ⊢ with hvacuous hup
  · exact ⟨directory, above, h, fun rest => walk_of_vacuous hvacuous⟩
  · subst hup
    cases h with
    | root => exact ⟨tree, [], .root, fun rest => walk_up_root⟩
    | entered h hget =>
      rw [List.dropLast_concat]
      exact ⟨_, _, h, fun rest => walk_up⟩
  · rw [h.node?_append, node?_cons] at hpart
    cases hget : directory.get? part with
    | none => simp [hget] at hpart
    | some entry =>
      cases entry with
      | file content => simp [hget, Entry.node?] at hpart
      | special => simp [hget, Entry.node?] at hpart
      | directory inner =>
        have hname := isName_iff.mpr ⟨hvacuous, hup⟩
        exact ⟨inner, directory :: above, h.entered hget, fun rest => walk_of_directory hname hget⟩

lemma Inside.walk_append (h : Inside tree names directory above)
    (hparts : ∀ l ∈ parts.scanl enter names, tree.node? l = some .directory) (rest : List String) :
    ∃ directory' above', Inside tree (parts.foldl enter names) directory' above' ∧
      walk directory above (parts ++ rest) = walk directory' above' rest := by
  induction parts generalizing names directory above with
  | nil => exact ⟨directory, above, h, rfl⟩
  | cons part parts ih =>
    rw [List.scanl_cons, List.forall_mem_cons] at hparts
    obtain ⟨directory', above', hinside, hwalk⟩ :=
      h.walk_cons (hparts.2 _ (mem_scanl_self _ parts))
    rw [List.cons_append, hwalk, List.foldl_cons]
    exact ih hinside hparts.2

/-- The way to a directory leads through directories. -/
lemma Inside.exists_of_walk (h : Inside tree names directory above)
    (hwalk : walk directory above parts = some (.directory found)) :
    (∀ l ∈ parts.scanl enter names, tree.node? l = some .directory) ∧
      ∃ above', Inside tree (parts.foldl enter names) found above' := by
  have hhere : tree.node? names = some .directory := by
    have := h.node?_append []
    rwa [List.append_nil] at this
  induction parts generalizing names directory above with
  | nil =>
    cases hwalk
    exact ⟨by simpa using hhere, above, h⟩
  | cons part parts ih =>
    have hpart : tree.node? (enter names part) = some .directory := by
      rw [enter]
      split_ifs with hvacuous hup
      · exact hhere
      · exact node?_dropLast hhere
      · obtain ⟨inner, hget, -⟩ := FileTree.exists_of_walk (isName_iff.mpr ⟨hvacuous, hup⟩) hwalk
        rw [h.node?_append, node?_cons, hget]
        rfl
    obtain ⟨directory', above', hinside, hsame⟩ := h.walk_cons hpart
    rw [hsame] at hwalk
    obtain ⟨hway, hfound⟩ := ih hinside hwalk hpart
    exact ⟨by simpa using ⟨hhere, hway⟩, hfound⟩

lemma descend_concat (tree : FileTree) (names : List String) (name : String) :
    tree.descend (names ++ [name]) =
      (tree.descend names).bind fun directory => descend directory [name] := by
  induction names generalizing tree with
  | nil => rfl
  | cons outer names ih =>
    rw [List.cons_append, descend, descend]
    cases tree.get? outer with
    | none => rfl
    | some entry =>
      cases entry with
      | directory inner => exact ih inner
      | _ => rfl

lemma Inside.descend_eq (h : Inside tree names directory above) :
    tree.descend names = some directory := by
  induction h with
  | root => rfl
  | entered h hget ih =>
    rw [descend_concat, ih, Option.bind_some, descend, hget]
    rfl

end Inside

/-- A path leads to a directory that stands at its place, if directories are passed on the way. -/
lemma entry?_eq_directory_iff {path : String} :
    tree.entry? path = some (.directory found) ↔
      path ≠ "" ∧ (∀ l ∈ (pathParts path).scanl enter [], tree.node? l = some .directory) ∧
        tree.descend (place path) = some found := by
  unfold entry?
  split_ifs with hempty
  · simp [hempty]
  · refine ⟨fun hwalk => ?_, fun ⟨_, hway, hfound⟩ => ?_⟩
    · obtain ⟨hway, above, hinside⟩ := Inside.root.exists_of_walk hwalk
      exact ⟨hempty, hway, hinside.descend_eq⟩
    · obtain ⟨directory, above, hinside, hwalk⟩ := Inside.root.walk_append hway []
      obtain rfl := Option.some.inj (hinside.descend_eq.symm.trans hfound)
      rw [List.append_nil] at hwalk
      rw [hwalk]
      cases above <;> rfl

lemma fromUTF8?_toUTF8 (text : String) : String.fromUTF8? text.toUTF8 = some text := by
  rw [String.fromUTF8?, String.toUTF8_eq_toByteArray, dif_pos text.isValidUTF8]
  rfl

/-- The text of a file that stands at the place of a path is found if directories are passed on the
way. -/
lemma text?_of_node? {path text : String} (hname : EndsInName path)
    (hpassed : ∀ l ∈ passed path, tree.node? l = some .directory)
    (hnode : tree.node? (place path) = some (.file text.toUTF8)) :
    tree.text? path = some text := by
  obtain ⟨name, hlast, hisName, hplace⟩ := hname.place_eq
  obtain ⟨directory, above, hinside, hwalk⟩ := Inside.root.walk_append hpassed [name]
  rw [List.dropLast_append_getLast? _ hlast] at hwalk
  have hpath : path ≠ "" := by
    rintro rfl
    cases hlast
    exact absurd hisName (by decide)
  have hget : directory.get? name = some (.file text.toUTF8) := by
    rw [hplace, hinside.node?_append, node?_cons] at hnode
    obtain ⟨entry, hget, hentry⟩ := Option.bind_eq_some_iff.mp hnode
    cases entry with
    | file content =>
      cases hentry
      exact hget
    | _ => cases hentry
  have hentry : tree.entry? path = some (.file text.toUTF8) := by
    unfold entry?
    rw [if_neg hpath, hwalk, walk_of_not_directory hisName hget rfl]
    rfl
  rw [text?, hentry]
  exact fromUTF8?_toUTF8 text

end FileTree

end ApiScribe.Project
