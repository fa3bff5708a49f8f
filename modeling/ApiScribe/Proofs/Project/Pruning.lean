import ApiScribe.Project.Generate
import ApiScribe.Proofs.Project.Places
import Mathlib.Data.String.Basic

/-!
# Files that contribute nothing

The declarations of a project are those of its source files that hold well-formed Rust in UTF-8, in
the order in which they are found. No other file matters, be it one that is not well formed, one
that is not called a source file, one in a directory that is skipped, or one outside the project:
leaving such files out of the tree does not change the document.
-/

namespace ApiScribe.Project

open Builder (Declaration build)

/-! ### Lists in the order of their names -/

section Sorting

variable {α : Type} {le : α → α → Bool}

/-- Sorting puts the first element behind the smaller ones of the others. -/
lemma mergeSort_cons_eq (trans : ∀ a b c, le a b → le b c → le a c)
    (total : ∀ a b, le a b || le b a) (a : α) (l : List α) :
    (a :: l).mergeSort le =
      (l.mergeSort le).filter (fun b => !le a b) ++ a :: (l.mergeSort le).filter (le a) := by
  obtain ⟨smaller, others, hsort, hrest, hsmaller⟩ := List.mergeSort_cons trans total a l
  have hsorted := List.pairwise_mergeSort trans total (a :: l)
  rw [hsort] at hsorted
  have hothers : ∀ b ∈ others, le a b = true :=
    (List.pairwise_cons.mp (List.pairwise_append.mp hsorted).2.1).1
  have hfst : (smaller ++ others).filter (fun b => !le a b) = smaller := by
    rw [List.filter_append, List.filter_eq_self.mpr hsmaller, List.filter_eq_nil_iff.mpr,
      List.append_nil]
    exact fun b hb => by simp [hothers b hb]
  have hsnd : (smaller ++ others).filter (le a) = others := by
    rw [List.filter_append, List.filter_eq_self.mpr hothers, List.filter_eq_nil_iff.mpr,
      List.nil_append]
    exact fun b hb => by simpa using hsmaller b hb
  rw [hsort, hrest, hfst, hsnd]

lemma filter_mergeSort (trans : ∀ a b c, le a b → le b c → le a c)
    (total : ∀ a b, le a b || le b a) (p : α → Bool) (l : List α) :
    (l.mergeSort le).filter p = (l.filter p).mergeSort le := by
  induction l with
  | nil => simp
  | cons a l ih =>
    by_cases ha : p a = true
    · have hcomm (q : α → Bool) :
          ((l.mergeSort le).filter q).filter p = ((l.filter p).mergeSort le).filter q := by
        rw [← ih, List.filter_filter, List.filter_filter]
        simp only [Bool.and_comm]
      rw [List.filter_cons_of_pos ha, mergeSort_cons_eq trans total, mergeSort_cons_eq trans total,
        List.filter_append, List.filter_cons_of_pos ha, hcomm, hcomm]
    · obtain ⟨smaller, others, hsort, hrest, -⟩ := List.mergeSort_cons trans total a l
      rw [List.filter_cons_of_neg ha, ← ih, hsort, hrest, List.filter_append, List.filter_append,
        List.filter_cons_of_neg ha]

end Sorting

section NameOrder

variable {α β : Type}

lemma name_le_trans (a b c : String × α) (hab : (!decide (b.1 < a.1)) = true)
    (hbc : (!decide (c.1 < b.1)) = true) : (!decide (c.1 < a.1)) = true := by
  simp only [Bool.not_eq_true', decide_eq_false_iff_not, not_lt] at *
  exact hab.trans hbc

lemma name_le_total (a b : String × α) : (!decide (b.1 < a.1) || !decide (a.1 < b.1)) = true := by
  simp only [Bool.or_eq_true, Bool.not_eq_true', decide_eq_false_iff_not, not_lt]
  exact le_total a.1 b.1

lemma inNameOrder_flatMap (f : α → List β) (groups : List (String × List α)) :
    (inNameOrder groups).flatMap f =
      inNameOrder (groups.map fun group => (group.1, group.2.flatMap f)) := by
  rw [inNameOrder, inNameOrder, List.flatMap_assoc,
    ← List.map_mergeSort (r := fun a b => !(b.1 < a.1)) (fun _ _ _ _ => rfl), List.flatMap_map]

/-- Empty lists can be left out. -/
lemma inNameOrder_filter (groups : List (String × List α)) :
    inNameOrder (groups.filter fun group => !group.2.isEmpty) = inNameOrder groups := by
  rw [inNameOrder, ← filter_mergeSort name_le_trans name_le_total, inNameOrder]
  induction groups.mergeSort fun a b => !(b.1 < a.1) with
  | nil => rfl
  | cons group rest ih =>
    rw [List.filter_cons]
    split_ifs with hempty
    · rw [List.flatMap_cons, List.flatMap_cons, ih]
    · have hnil : group.2 = [] := by simpa using hempty
      rw [List.flatMap_cons, hnil, List.nil_append, ih]

end NameOrder

/-! ### Contributions -/

/-- The documented items of a file that is well-formed Rust in UTF-8. -/
def items? (content : ByteArray) : Option (List Rust.Item) :=
  (String.fromUTF8? content).bind Rust.items?

def FoundFile.declarations (file : FoundFile) : List Declaration :=
  ((items? file.content).getD []).map (SourceFile.declarationOf file.path)

lemma toOption_ofBytes (path : String) (content : ByteArray) :
    (SourceFile.ofBytes path content).toOption = (items? content).map fun items =>
      { path, declarations := items.map (SourceFile.declarationOf path) } := by
  rw [SourceFile.ofBytes, items?]
  cases String.fromUTF8? content with
  | none => rfl
  | some source =>
    dsimp only [SourceFile.ofText, Option.bind_some]
    cases Rust.items? source <;> rfl

/-- Other files contribute nothing. -/
lemma declarationsOf_eq (files : List FoundFile) :
    declarationsOf files = files.flatMap (·.declarations) := by
  rw [declarationsOf, readable, readAll, List.filterMap_map]
  induction files with
  | nil => rfl
  | cons file files ih =>
    rw [List.filterMap_cons, List.flatMap_cons, ← ih, Function.comp_apply, toOption_ofBytes,
      FoundFile.declarations]
    cases items? file.content <;> rfl

/-- What stands at a place contributes to the project in the directory at the root: it is a file of
well-formed Rust in UTF-8, its name ends in `.rs` after something else, and no directory between the
root and it is hidden or is for build output. -/
structure Contributes (root names : List String) (entry : Entry) : Prop where
  below : root <+: names.dropLast
  name : ∃ stem, stem ≠ "" ∧ names.getLast? = some (stem ++ ".rs")
  way : ∀ directory ∈ names.dropLast.drop root.length,
    directory ≠ "target" ∧ ¬ ['.'] <+: directory.toList
  content : ∃ content, entry = .file content ∧ (items? content).isSome = true

/-- The second directory is the first one, at a place, without some of the entries at or below it
that are no directories and contribute nothing. -/
inductive PrunedAt (root : List String) : (names : List String) → FileTree → FileTree → Prop
  | nil {names : List String} : PrunedAt root names ⟨[]⟩ ⟨[]⟩
  | keep {names : List String} {rest rest' : List (String × Entry)} (name : String) {entry : Entry}
    (hentry : entry.isDirectory = false) (h : PrunedAt root names ⟨rest⟩ ⟨rest'⟩) :
    PrunedAt root names ⟨(name, entry) :: rest⟩ ⟨(name, entry) :: rest'⟩
  | directory {names : List String} {rest rest' : List (String × Entry)} {inner inner' : FileTree}
    (name : String) (hinner : PrunedAt root (names ++ [name]) inner inner')
    (h : PrunedAt root names ⟨rest⟩ ⟨rest'⟩) :
    PrunedAt root names ⟨(name, .directory inner) :: rest⟩ ⟨(name, .directory inner') :: rest'⟩
  | leave {names : List String} {rest rest' : List (String × Entry)} (name : String) {entry : Entry}
    (hentry : entry.isDirectory = false) (hnothing : ¬ Contributes root (names ++ [name]) entry)
    (h : PrunedAt root names ⟨rest⟩ ⟨rest'⟩) :
    PrunedAt root names ⟨(name, entry) :: rest⟩ ⟨rest'⟩

/-- The second tree is the first one without some of the files that contribute nothing to the
project at a path. -/
def Pruned (path : String) (tree tree' : FileTree) : Prop := PrunedAt (place path) [] tree tree'

/-! ### Leaving files out -/

/-- The declarations at or below an entry of a directory. -/
def declarationsAt (path name : String) (entry : Entry) : List Declaration :=
  if entry.isDirectory && isSkippedName name then []
  else (entry.sourceFiles (joinPath path name) name).flatMap FoundFile.declarations

/-- The declarations of each entry of a directory, where there are any. -/
def contributions (path : String) (tree : FileTree) : List (String × List Declaration) :=
  ((groupedFiles path tree.entries).map fun group =>
    (group.1, group.2.flatMap FoundFile.declarations)).filter (!·.2.isEmpty)

lemma contributions_cons (path name : String) (entry : Entry) (rest : List (String × Entry)) :
    contributions path ⟨(name, entry) :: rest⟩ =
      if (declarationsAt path name entry).isEmpty then contributions path ⟨rest⟩
      else (name, declarationsAt path name entry) :: contributions path ⟨rest⟩ := by
  have hfiles : (if (entry.isDirectory && isSkippedName name) = true then []
      else entry.sourceFiles (joinPath path name) name).flatMap FoundFile.declarations =
        declarationsAt path name entry := by
    rw [declarationsAt]
    split_ifs <;> rfl
  rw [contributions, groupedFiles, List.map_cons, hfiles, List.filter_cons]
  cases (declarationsAt path name entry).isEmpty <;> rfl

lemma flatMap_declarations_directory (path name : String) (tree : FileTree) :
    (Entry.sourceFiles path name (.directory tree)).flatMap FoundFile.declarations =
      inNameOrder (contributions path tree) := by
  rw [Entry.sourceFiles, inNameOrder_flatMap, contributions, inNameOrder_filter]

lemma isSourceName_iff {name : String} :
    isSourceName name = true ↔ ∃ stem, stem ≠ "" ∧ name = stem ++ ".rs" := by
  constructor
  · intro h
    rw [isSourceName] at h
    split at h
    next c rest hchars =>
      refine ⟨.ofList (rest.reverse ++ [c]), by simp [← String.toList_inj], ?_⟩
      rw [← String.toList_inj, ← List.reverse_inj, hchars]
      simp
    next => cases h
  · rintro ⟨stem, hstem, rfl⟩
    obtain ⟨c, rest, hchars⟩ : ∃ c rest, stem.toList.reverse = c :: rest :=
      List.exists_cons_of_ne_nil (by simpa using hstem)
    simp [isSourceName, hchars]

lemma isSkippedName_eq_false_iff {name : String} :
    isSkippedName name = false ↔ name ≠ "target" ∧ ¬ ['.'] <+: name.toList := by
  have hdot : ['.'] <+: name.toList ↔ name.toList.head? = some '.' := by
    cases name.toList with
    | nil => simp
    | cons c cs => simp [List.cons_prefix_cons, eq_comm]
  rw [hdot]
  simp [isSkippedName]

/-- An entry from which declarations come, in a directory that a scan of the root visits,
contributes to the project there. -/
lemma contributes_of_declarationsAt {root below : List String} {path name : String} {entry : Entry}
    (hbelow : ∀ directory ∈ below, isSkippedName directory = false)
    (hentry : entry.isDirectory = false) (h : declarationsAt path name entry ≠ []) :
    Contributes root (root ++ below ++ [name]) entry := by
  rw [declarationsAt, hentry, Bool.false_and, if_neg Bool.false_ne_true] at h
  cases entry with
  | directory inner => cases hentry
  | special => exact absurd rfl h
  | file content =>
    rw [Entry.sourceFiles] at h
    split_ifs at h with hname
    · have hitems : (items? content).isSome = true := by
        by_contra hnone
        rw [Option.not_isSome_iff_eq_none] at hnone
        exact h (by simp [FoundFile.declarations, hnone])
      obtain ⟨stem, hstem, hname⟩ := isSourceName_iff.mp hname
      refine ⟨?_, ⟨stem, hstem, by rw [List.getLast?_concat, hname]⟩, ?_, content, rfl, hitems⟩
      · rw [List.dropLast_concat]
        exact List.prefix_append _ _
      · rw [List.dropLast_concat, List.drop_left]
        exact fun directory hmem => isSkippedName_eq_false_iff.mp (hbelow directory hmem)
    · exact absurd rfl h

variable {tree tree' : FileTree} {root names : List String}

namespace PrunedAt

/-- What is left out contributes nothing, or stands where no scan of the root comes. -/
lemma contributions_eq (h : PrunedAt root names tree tree') {below : List String}
    (hnames : names = root ++ below) (hbelow : ∀ directory ∈ below, isSkippedName directory = false)
    (path : String) : contributions path tree = contributions path tree' := by
  induction h generalizing below path with
  | nil => rfl
  | keep name hentry h ih => rw [contributions_cons, contributions_cons, ih hnames hbelow]
  | @directory names _ _ inner inner' name hinner h ihinner ih =>
    have hinner : declarationsAt path name (.directory inner) =
        declarationsAt path name (.directory inner') := by
      rw [declarationsAt, declarationsAt]
      cases hskipped : isSkippedName name with
      | true => rfl
      | false =>
        have hbelow' : ∀ directory ∈ below ++ [name], isSkippedName directory = false := by
          simpa [or_imp, forall_and, hskipped] using hbelow
        rw [flatMap_declarations_directory, flatMap_declarations_directory,
          ihinner (by rw [hnames, List.append_assoc]) hbelow']
        rfl
    rw [contributions_cons, contributions_cons, ih hnames hbelow, hinner]
  | @leave names _ _ name entry hentry hnothing h ih =>
    have hnone : declarationsAt path name entry = [] := by
      by_contra hsome
      exact hnothing (hnames ▸ contributes_of_declarationsAt hbelow hentry hsome)
    rw [contributions_cons, hnone, ← ih hnames hbelow]
    rfl

/-- A directory is found again after files were left out. -/
lemma get? (h : PrunedAt root names tree tree') {name : String} {inner : FileTree}
    (hget : tree.get? name = some (.directory inner)) :
    ∃ inner', tree'.get? name = some (.directory inner') ∧
      PrunedAt root (names ++ [name]) inner inner' := by
  induction h with
  | nil => cases hget
  | keep name' hentry h ih =>
    rw [OrderedMap.get?, OrderedMap.lookup] at hget ⊢
    split_ifs at hget ⊢
    · cases hget
      cases hentry
    · exact ih hget
  | @directory names _ _ inner₀ inner' name' hinner h ihinner ih =>
    rw [OrderedMap.get?, OrderedMap.lookup] at hget ⊢
    split_ifs at hget ⊢ with hname
    · cases hget
      exact ⟨inner', rfl, hname ▸ hinner⟩
    · exact ih hget
  | leave name' hentry hnothing h ih =>
    rw [OrderedMap.get?, OrderedMap.lookup] at hget
    split_ifs at hget
    · cases hget
      cases hentry
    · exact ih hget

lemma descend (h : PrunedAt root names tree tree') {names' : List String} {inner : FileTree}
    (hinner : tree.descend names' = some inner) :
    ∃ inner', tree'.descend names' = some inner' ∧
      PrunedAt root (names ++ names') inner inner' := by
  induction names' generalizing tree tree' names with
  | nil =>
    cases hinner
    exact ⟨tree', rfl, by rwa [List.append_nil]⟩
  | cons name names' ih =>
    rw [FileTree.descend] at hinner
    split at hinner
    next directory hget =>
      obtain ⟨directory', hget', hpruned⟩ := h.get? hget
      obtain ⟨inner', hinner', hrest⟩ := ih hpruned hinner
      refine ⟨inner', ?_, ?_⟩
      · rw [FileTree.descend, hget']
        exact hinner'
      · rwa [List.append_assoc] at hrest
    next => cases hinner

end PrunedAt

lemma Pruned.exists_entry {path : String} (h : Pruned path tree tree') {project : FileTree}
    (hproject : tree.entry? path = some (.directory project)) :
    ∃ project', tree'.entry? path = some (.directory project') ∧
      PrunedAt (place path) (place path) project project' := by
  obtain ⟨hpath, hway, hplace⟩ := FileTree.entry?_eq_directory_iff.mp hproject
  obtain ⟨project', hplace', hpruned⟩ := PrunedAt.descend h hplace
  refine ⟨project', FileTree.entry?_eq_directory_iff.mpr ⟨hpath, fun l hl => ?_, hplace'⟩, hpruned⟩
  obtain ⟨directory, hdirectory⟩ :=
    Option.isSome_iff_exists.mp (FileTree.isSome_descend_iff.mpr (hway l hl))
  obtain ⟨directory', hdirectory', -⟩ := PrunedAt.descend h hdirectory
  exact FileTree.isSome_descend_iff.mp (Option.isSome_of_eq_some hdirectory')

lemma generate_eq {path : String} {project : FileTree}
    (hproject : tree.entry? path = some (.directory project)) :
    generate tree path = .ok (build (inNameOrder (contributions path project))) := by
  rw [generate, scan, hproject, ← flatMap_declarations_directory, ← declarationsOf_eq]
  rfl

/-- Files that contribute nothing do not change the document. -/
lemma Pruned.generate_eq {path : String} (h : Pruned path tree tree') {project : FileTree}
    (hproject : tree.entry? path = some (.directory project)) :
    generate tree' path = generate tree path := by
  obtain ⟨project', hproject', hpruned⟩ := h.exists_entry hproject
  have hsame := hpruned.contributions_eq (List.append_nil _).symm (List.forall_mem_nil _) path
  rw [Project.generate_eq hproject, Project.generate_eq hproject', hsame]

end ApiScribe.Project
