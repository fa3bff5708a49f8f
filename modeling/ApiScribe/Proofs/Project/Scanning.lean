import ApiScribe.Proofs.Project.Pruning
import Mathlib.Data.List.Sort

/-!
# What a scan finds

A scan lists every source file at or below its root once, wherever no directory on the way is left
out, and lists nothing else. The files come in the order of their names, part by part and byte by
byte. So a tree is scanned the same way in whatever order its entries were made.
-/

namespace ApiScribe

/-! ### The order of bytes -/

namespace Text

/-- The bytes of a text in UTF-8. -/
def utf8Bytes (text : String) : List UInt8 := text.toUTF8.data.toList

lemma utf8Bytes_eq (text : String) :
    utf8Bytes text = text.toList.flatMap String.utf8EncodeChar := by
  rw [utf8Bytes, String.toUTF8_eq_toByteArray, ← String.utf8Encode_toList, List.utf8Encode,
    List.data_toByteArray]

lemma toNat_ofNat_of_lt {n : Nat} (h : n < 256) : (UInt8.ofNat n).toNat = n := by
  rw [UInt8.toNat_ofNat', Nat.mod_eq_of_lt h]

/-- Two characters are told apart by the first byte in which they differ. -/
lemma utf8EncodeChar_append_lt {c d : Char} (h : c < d) (cs ds : List UInt8) :
    String.utf8EncodeChar c ++ cs < String.utf8EncodeChar d ++ ds := by
  have hlt : c.val.toNat < d.val.toNat := h
  have hd : d.val.toNat < 0x110000 := by
    rcases d.valid with hlow | ⟨-, hhigh⟩
    · exact hlow.trans (by decide)
    · exact hhigh
  simp only [String.utf8EncodeChar]
  generalize c.val.toNat = v at *
  generalize d.val.toNat = w at *
  -- The first byte of four has room for the whole of what is left.
  have hlead : v / 262144 % 8 = v / 262144 ∧ w / 262144 % 8 = w / 262144 := by omega
  have h₁ : v / 64 < w / 64 ∨ v / 64 = w / 64 ∧ v % 64 < w % 64 := by omega
  have h₂ : v / 4096 < w / 4096 ∨ v / 4096 = w / 4096 ∧ v / 64 % 64 ≤ w / 64 % 64 := by omega
  have h₃ : v / 262144 < w / 262144 ∨
      v / 262144 = w / 262144 ∧ v / 4096 % 64 ≤ w / 4096 % 64 := by omega
  split_ifs <;>
    simp (disch := omega) only [List.cons_append, List.nil_append, List.cons_lt_cons_iff,
      UInt8.lt_iff_toNat_lt, ← UInt8.toNat_inj, toNat_ofNat_of_lt, hlead] <;>
    omega

lemma flatMap_utf8EncodeChar_lt {cs ds : List Char} (h : cs < ds) :
    cs.flatMap String.utf8EncodeChar < ds.flatMap String.utf8EncodeChar := by
  induction h with
  | @nil c cs =>
    obtain ⟨byte, bytes, hbytes⟩ :=
      List.exists_cons_of_ne_nil (String.utf8EncodeChar_ne_nil (c := c))
    rw [List.flatMap_cons, hbytes]
    exact .nil
  | cons h ih => exact List.append_left_lt ih
  | rel h => exact utf8EncodeChar_append_lt h _ _

/-- Texts that are in order are so by their bytes. -/
lemma utf8Bytes_lt {s t : String} (h : s < t) : utf8Bytes s < utf8Bytes t := by
  rw [utf8Bytes_eq, utf8Bytes_eq]
  exact flatMap_utf8EncodeChar_lt (String.lt_iff_toList_lt.mp h)

lemma map_utf8Bytes_lt {l l' : List String} (h : l < l') :
    l.map utf8Bytes < l'.map utf8Bytes := by
  induction h with
  | nil => exact .nil
  | cons h ih => exact .cons ih
  | rel h => exact .rel (utf8Bytes_lt h)

end Text

namespace Project

/-! ### Directories in order -/

/-- No directory at or below the entry has two entries of one name. -/
inductive Entry.Distinct : Entry → Prop
  | leaf {entry : Entry} (h : entry.isDirectory = false) : Distinct entry
  | directory {entries : FileTree} (hkeys : entries.keys.Nodup)
    (h : ∀ e ∈ entries.entries, e.2.Distinct) : Distinct (.directory entries)

def FileTree.Distinct (tree : FileTree) : Prop := Entry.Distinct (.directory tree)

/-- The entries of a directory in the order of their names. -/
def FileTree.inOrder (tree : FileTree) : List (String × Entry) :=
  tree.entries.mergeSort fun a b => !(b.1 < a.1)

lemma FileTree.mem_inOrder {tree : FileTree} {e : String × Entry} :
    e ∈ tree.inOrder ↔ e ∈ tree.entries :=
  List.mem_mergeSort

lemma FileTree.pairwise_inOrder {tree : FileTree} (h : tree.keys.Nodup) :
    tree.inOrder.Pairwise fun a b => a.1 < b.1 := by
  have hle : tree.inOrder.Pairwise fun a b => a.1 ≤ b.1 := by
    refine (List.pairwise_mergeSort name_le_trans name_le_total tree.entries).imp ?_
    intro a b hab
    simpa only [Bool.not_eq_true', decide_eq_false_iff_not, not_lt] using hab
  have hne : tree.inOrder.Pairwise fun a b => a.1 ≠ b.1 := by
    rw [← List.pairwise_map]
    exact ((List.mergeSort_perm _ _).map Prod.fst).nodup_iff.mpr h
  exact (hle.and hne).imp fun hab => lt_of_le_of_ne hab.1 hab.2

/-- Whether a scan looks at an entry of a directory. -/
def isVisited (e : String × Entry) : Bool := !(e.2.isDirectory && isSkippedName e.1)

lemma groupedFiles_eq_map (path : String) (entries : List (String × Entry)) :
    groupedFiles path entries = entries.map fun e =>
      (e.1, if isVisited e then e.2.sourceFiles (joinPath path e.1) e.1 else []) := by
  induction entries with
  | nil => rfl
  | cons e entries ih =>
    obtain ⟨name, entry⟩ := e
    rw [groupedFiles, ih, List.map_cons]
    cases hvisited : entry.isDirectory && isSkippedName name <;> simp [isVisited, hvisited]

lemma sourceFiles_directory (path name : String) (tree : FileTree) :
    Entry.sourceFiles path name (.directory tree) = tree.inOrder.flatMap fun e =>
      if isVisited e then e.2.sourceFiles (joinPath path e.1) e.1 else [] := by
  obtain ⟨entries⟩ := tree
  rw [Entry.sourceFiles, groupedFiles_eq_map, inNameOrder,
    ← List.map_mergeSort (r := fun a b => !(b.1 < a.1)) (fun _ _ _ _ => rfl), List.flatMap_map]
  rfl

/-! ### What is listed -/

/-- A file and the names that lead to it. -/
structure Source where
  names : List String
  content : ByteArray

/-- The source as it is found from a path. -/
def Source.found (path : String) (source : Source) : FoundFile :=
  { path := source.names.foldl joinPath path, content := source.content }

/-- The source from the directory that holds an entry. -/
def Source.below (name : String) (source : Source) : Source :=
  { source with names := name :: source.names }

/-- A file at or below an entry that is to be listed. -/
structure Entry.HasSource (entry : Entry) (name : String) (source : Source) : Prop where
  node : entry.node? source.names = some (.file source.content)
  isSource : isSourceName (source.names.getLastD name) = true
  visited : ∀ directory ∈ source.names.dropLast, isSkippedName directory = false

/-- All sources at or below an entry, in order. -/
structure Entry.Lists (entry : Entry) (name : String) (sources : List Source) : Prop where
  mem_iff : ∀ source, source ∈ sources ↔ entry.HasSource name source
  increasing : sources.Pairwise fun a b => a.names < b.names

lemma hasSource_leaf_iff {entry : Entry} (h : entry.isDirectory = false) {name : String}
    {source : Source} :
    entry.HasSource name source ↔
      isSourceName name = true ∧ source.names = [] ∧ entry = .file source.content := by
  obtain ⟨names, content⟩ := source
  constructor
  · rintro ⟨hnode, hsource, -⟩
    cases names with
    | cons outer names =>
      rw [Entry.node?_cons_of_not_directory h] at hnode
      cases hnode
    | nil =>
      cases entry with
      | file content' =>
        cases hnode
        exact ⟨hsource, rfl, rfl⟩
      | _ => cases hnode
  · rintro ⟨hsource, hnames, hentry⟩
    cases hnames
    cases hentry
    exact ⟨rfl, hsource, by simp⟩

/-- The sources of a directory are those of the entries that are visited. -/
lemma hasSource_directory_iff {tree : FileTree} (h : tree.keys.Nodup) {name : String}
    {source : Source} :
    Entry.HasSource (.directory tree) name source ↔
      ∃ e ∈ tree.entries, isVisited e = true ∧
        ∃ inner, e.2.HasSource e.1 inner ∧ inner.below e.1 = source := by
  constructor
  · rintro ⟨hnode, hsource, hvisited⟩
    obtain ⟨names, content⟩ := source
    cases names with
    | nil => cases hnode
    | cons outer names =>
      obtain ⟨entry, hget, hentry⟩ := Option.bind_eq_some_iff.mp hnode
      rw [List.getLastD_cons] at hsource
      refine ⟨(outer, entry), OrderedMap.mem_entries_of_get? hget, ?_, ⟨names, content⟩, ?_, rfl⟩
      · cases entry with
        | file content => rfl
        | special => rfl
        | directory inner =>
          cases names with
          | nil => cases hentry
          | cons next names => simp [isVisited, hvisited outer (by simp)]
      · refine ⟨hentry, hsource, fun directory hdirectory => hvisited directory ?_⟩
        cases names with
        | nil => cases hdirectory
        | cons next names => exact List.mem_cons_of_mem _ hdirectory
  · rintro ⟨⟨outer, entry⟩, hmem, hvisit, ⟨names, content⟩, ⟨hnode, hsource, hvisited⟩, rfl⟩
    have hget := OrderedMap.get?_of_mem h hmem
    refine ⟨Option.bind_eq_some_iff.mpr ⟨entry, hget, hnode⟩, ?_, ?_⟩
    · rw [Source.below, List.getLastD_cons]
      exact hsource
    · intro directory hdirectory
      cases names with
      | nil => cases hdirectory
      | cons next names =>
        rcases List.mem_cons.mp hdirectory with rfl | hdirectory
        · cases entry with
          | directory inner => simpa [isVisited, Entry.isDirectory] using hvisit
          | _ => cases hnode
        · exact hvisited directory hdirectory

/-- The scan of an entry lists its sources, whatever path leads to it. -/
lemma Entry.Distinct.exists_lists {entry : Entry} (h : entry.Distinct) (name : String) :
    ∃ sources, entry.Lists name sources ∧
      ∀ path, entry.sourceFiles path name = sources.map (Source.found path) := by
  induction h generalizing name with
  | @leaf entry hentry =>
    cases entry with
    | directory entries => cases hentry
    | special =>
      refine ⟨[], ⟨fun source => ?_, .nil⟩, fun path => rfl⟩
      simp [hasSource_leaf_iff hentry]
    | file content =>
      refine ⟨if isSourceName name then [⟨[], content⟩] else [], ⟨fun source => ?_, ?_⟩, ?_⟩
      · obtain ⟨names, content'⟩ := source
        rw [hasSource_leaf_iff hentry]
        split_ifs with hname <;> simp [hname, eq_comm]
      · split_ifs <;> simp
      · intro path
        rw [Entry.sourceFiles]
        split_ifs <;> rfl
  | @directory tree hkeys h ih =>
    choose! listed hlists hfiles using fun e he => ih e he e.1
    refine ⟨tree.inOrder.flatMap fun e => if isVisited e then (listed e).map (Source.below e.1)
      else [], ⟨fun source => ?_, ?_⟩, fun path => ?_⟩
    · rw [hasSource_directory_iff hkeys, List.mem_flatMap]
      refine exists_congr fun e => ?_
      rw [FileTree.mem_inOrder]
      refine and_congr_right fun he => ?_
      by_cases hvisit : isVisited e = true
      · simp [hvisit, (hlists e he).mem_iff]
      · simp [hvisit]
    · have hhead {e : String × Entry} {source : Source}
          (h : source ∈ if isVisited e then (listed e).map (Source.below e.1) else []) :
          ∃ names, source.names = e.1 :: names := by
        split_ifs at h
        · obtain ⟨inner, -, rfl⟩ := List.mem_map.mp h
          exact ⟨inner.names, rfl⟩
        · cases h
      rw [List.pairwise_flatMap]
      constructor
      · intro e he
        split_ifs
        · rw [List.pairwise_map]
          refine (hlists e (FileTree.mem_inOrder.mp he)).increasing.imp fun hlt => ?_
          exact List.cons_lt_cons_iff.mpr (.inr ⟨rfl, hlt⟩)
        · exact .nil
      · refine (FileTree.pairwise_inOrder hkeys).imp fun hlt source hsource source' hsource' => ?_
        obtain ⟨names, hnames⟩ := hhead hsource
        obtain ⟨names', hnames'⟩ := hhead hsource'
        rw [hnames, hnames']
        exact List.cons_lt_cons_iff.mpr (.inl hlt)
    · rw [sourceFiles_directory, List.map_flatMap]
      refine List.flatMap_congr fun e he => ?_
      split_ifs
      · rw [hfiles e (FileTree.mem_inOrder.mp he), List.map_map]
        rfl
      · rfl

lemma Entry.HasSource.of_node? {entry entry' : Entry} (h : entry.node? = entry'.node?)
    {name : String} {source : Source} (hsource : entry.HasSource name source) :
    entry'.HasSource name source :=
  ⟨h ▸ hsource.node, hsource.isSource, hsource.visited⟩

/-- The nodes of an entry determine the list. -/
lemma Entry.Lists.unique {entry entry' : Entry} (hnode : entry.node? = entry'.node?)
    {name : String} {sources sources' : List Source} (h : entry.Lists name sources)
    (h' : entry'.Lists name sources') : sources = sources' := by
  have hirrefl : Std.Irrefl fun a b : Source => a.names < b.names := ⟨fun a => lt_irrefl a.names⟩
  have hantisymm : Std.Antisymm fun a b : Source => a.names < b.names :=
    ⟨fun a b hab hba => absurd hba hab.asymm⟩
  refine h.increasing.eq_of_mem_iff h'.increasing fun source => ?_
  rw [h.mem_iff, h'.mem_iff]
  exact ⟨.of_node? hnode, .of_node? hnode.symm⟩

/-! ### The entry at the root -/

namespace FileTree

variable {tree tree' : FileTree}

/-- Trees with the same nodes have the same entries, as far as nodes tell. -/
lemma exists_get?_of_node? (h : tree.node? = tree'.node?) {name : String} {entry : Entry}
    (hget : tree.get? name = some entry) :
    ∃ entry', tree'.get? name = some entry' ∧ entry.node? = entry'.node? := by
  have hnode (names : List String) :
      entry.node? names = (tree'.get? name).bind (·.node? names) := by
    have hnames := congrFun h (name :: names)
    rwa [node?_cons, node?_cons, hget, Option.bind_some] at hnames
  cases hget' : tree'.get? name with
  | none =>
    have hroot := hnode []
    rw [hget'] at hroot
    cases entry <;> cases hroot
  | some entry' =>
    rw [hget'] at hnode
    exact ⟨entry', rfl, funext hnode⟩

variable {directory directory' : FileTree} {above above' : List FileTree} {entry : Entry}

/-- A name leads into a directory, or to something else at the end of the way. -/
lemma walk_name_cases {part : String} {parts : List String} (hname : isName part)
    (h : walk directory above (part :: parts) = some entry) :
    (∃ inner, directory.get? part = some (.directory inner) ∧
      walk inner (directory :: above) parts = some entry) ∨
    directory.get? part = some entry ∧ entry.isDirectory = false ∧ parts = [] := by
  obtain ⟨hvacuous, hup⟩ := isName_iff.mp hname
  have hwalk := h
  cases hget : directory.get? part with
  | none => cases above <;> rw [walk, if_neg hvacuous, if_neg hup, hget] at hwalk <;> cases hwalk
  | some found =>
    by_cases hfound : found.isDirectory = true
    · obtain ⟨inner, rfl⟩ := Entry.isDirectory_iff.mp hfound
      exact .inl ⟨inner, rfl, walk_of_directory hname hget ▸ h⟩
    · rw [Bool.not_eq_true] at hfound
      rw [walk_of_not_directory hname hget hfound] at h
      cases parts with
      | nil =>
        cases h
        exact .inr ⟨rfl, hfound, rfl⟩
      | cons next parts => cases h

/-- A walk depends on the nodes only. -/
lemma exists_walk_of_node? {parts : List String} (h : directory.node? = directory'.node?)
    (habove : above.map node? = above'.map node?)
    (hwalk : walk directory above parts = some entry) :
    ∃ entry', walk directory' above' parts = some entry' ∧ entry.node? = entry'.node? := by
  induction parts generalizing directory directory' above above' with
  | nil =>
    cases hwalk
    exact ⟨.directory directory', rfl, h⟩
  | cons part parts ih =>
    by_cases hvacuous : part = "" ∨ part = "."
    · rw [walk_of_vacuous hvacuous] at hwalk ⊢
      exact ih h habove hwalk
    by_cases hup : part = ".."
    · subst hup
      cases above with
      | nil =>
        rw [List.map_eq_nil_iff.mp habove.symm]
        exact ih h rfl hwalk
      | cons parent above =>
        obtain ⟨parent', above', rfl, hparent, habove⟩ := List.map_eq_cons_iff.mp habove.symm
        exact ih hparent.symm habove.symm hwalk
    · have hname := isName_iff.mpr ⟨hvacuous, hup⟩
      rcases walk_name_cases hname hwalk with ⟨inner, hget, hwalk⟩ | ⟨hget, hentry, rfl⟩
      · obtain ⟨entry', hget', hnode⟩ := exists_get?_of_node? h hget
        cases entry' with
        | file content => cases congrFun hnode []
        | special => cases congrFun hnode []
        | directory inner' =>
          have houter : (directory :: above).map node? = (directory' :: above').map node? := by
            rw [List.map_cons, List.map_cons, h, habove]
          rw [walk_of_directory hname hget']
          exact ih hnode houter hwalk
      · obtain ⟨entry', hget', hnode⟩ := exists_get?_of_node? h hget
        have hentry' : entry'.isDirectory = false := by
          rw [← Entry.isDirectory_eq_of_node? hnode, hentry]
        exact ⟨entry', walk_of_not_directory hname hget' hentry', hnode⟩

/-- What a walk finds stands at the place it leads to. The last part on the way to what is no
directory is its name. -/
lemma Inside.of_walk {names parts : List String}
    (h : Inside tree names directory above) (hwalk : walk directory above parts = some entry) :
    (∀ rest, tree.node? (parts.foldl enter names ++ rest) = entry.node? rest) ∧
      (entry.isDirectory = false → ∃ last, parts.getLast? = some last ∧
        (parts.foldl enter names).getLast? = some last) := by
  induction parts generalizing names directory above with
  | nil =>
    cases hwalk
    exact ⟨h.node?_append, fun hfile => by cases hfile⟩
  | cons part parts ih =>
    have hstep {names' : List String} {directory' : FileTree} {above' : List FileTree}
        (henter : enter names part = names') (h' : Inside tree names' directory' above')
        (hwalk' : walk directory' above' parts = some entry) :
        (∀ rest, tree.node? ((part :: parts).foldl enter names ++ rest) = entry.node? rest) ∧
          (entry.isDirectory = false → ∃ last, (part :: parts).getLast? = some last ∧
            ((part :: parts).foldl enter names).getLast? = some last) := by
      obtain ⟨hnode, hlast⟩ := ih h' hwalk'
      rw [List.foldl_cons, henter]
      refine ⟨hnode, fun hfile => ?_⟩
      obtain ⟨last, hparts, hplace⟩ := hlast hfile
      exact ⟨last, by rw [List.getLast?_cons, hparts]; rfl, hplace⟩
    by_cases hvacuous : part = "" ∨ part = "."
    · rw [walk_of_vacuous hvacuous] at hwalk
      exact hstep (if_pos hvacuous) h hwalk
    by_cases hup : part = ".."
    · subst hup
      have henter : enter names ".." = names.dropLast := rfl
      cases h with
      | root => exact hstep henter .root hwalk
      | entered h hget => exact hstep (by rw [henter, List.dropLast_concat]) h hwalk
    · have hname := isName_iff.mpr ⟨hvacuous, hup⟩
      have henter : enter names part = names ++ [part] := by rw [enter, if_neg hvacuous, if_neg hup]
      rcases walk_name_cases hname hwalk with ⟨inner, hget, hwalk⟩ | ⟨hget, hentry, rfl⟩
      · exact hstep henter (h.entered hget) hwalk
      · rw [List.foldl_cons, List.foldl_nil, henter]
        refine ⟨fun rest => ?_, fun _ => ⟨part, rfl, List.getLast?_concat⟩⟩
        rw [List.append_assoc, h.node?_append, List.singleton_append, node?_cons, hget]
        rfl

lemma Distinct.walk (hdirectory : directory.Distinct) (habove : ∀ d ∈ above, Distinct d)
    {parts : List String} (hwalk : walk directory above parts = some entry) :
    entry.Distinct := by
  induction parts generalizing directory above with
  | nil =>
    cases hwalk
    exact hdirectory
  | cons part parts ih =>
    by_cases hvacuous : part = "" ∨ part = "."
    · rw [walk_of_vacuous hvacuous] at hwalk
      exact ih hdirectory habove hwalk
    by_cases hup : part = ".."
    · subst hup
      cases above with
      | nil => exact ih hdirectory habove hwalk
      | cons parent above =>
        obtain ⟨hparent, habove⟩ := List.forall_mem_cons.mp habove
        exact ih hparent habove hwalk
    · have hname := isName_iff.mpr ⟨hvacuous, hup⟩
      rcases walk_name_cases hname hwalk with ⟨inner, hget, hwalk⟩ | ⟨hget, hentry, rfl⟩
      · have hinner : Distinct inner := by
          cases hdirectory with
          | leaf h => cases h
          | directory hkeys h => exact h _ (OrderedMap.mem_entries_of_get? hget)
        exact ih hinner (List.forall_mem_cons.mpr ⟨hdirectory, habove⟩) hwalk
      · exact .leaf hentry

end FileTree

/-! ### Scans -/

open FileTree (Inside exists_walk_of_node?)

variable {tree : FileTree} {root : String} {entry : Entry}

lemma walk_eq_of_entry (h : tree.entry? root = some entry) :
    tree.walk [] (pathParts root) = some entry := by
  unfold FileTree.entry? at h
  split_ifs at h
  exact h

lemma ne_empty_of_entry (h : tree.entry? root = some entry) : root ≠ "" := by
  rintro rfl
  cases h

/-- The sources of the entry at the root, told by the places of the tree. -/
lemma hasSource_iff_place (h : tree.entry? root = some entry) {source : Source} :
    entry.HasSource ((pathParts root).getLastD "") source ↔
      tree.node? (place root ++ source.names) = some (.file source.content) ∧
      (∃ stem, stem ≠ "" ∧ (place root ++ source.names).getLast? = some (stem ++ ".rs")) ∧
      ∀ directory ∈ source.names.dropLast,
        directory ≠ "target" ∧ ¬ ['.'] <+: directory.toList := by
  obtain ⟨hnode, hlast⟩ := Inside.root.of_walk (walk_eq_of_entry h)
  have hplace (rest : List String) : tree.node? (place root ++ rest) = entry.node? rest :=
    hnode rest
  have hname (hfile : entry.node? source.names = some (.file source.content)) :
      (place root ++ source.names).getLast? =
        some (source.names.getLastD ((pathParts root).getLastD "")) := by
    rw [List.getLast?_append, List.getLastD_eq_getLast?, List.getLastD_eq_getLast?]
    cases hnames : source.names.getLast? with
    | some last => rfl
    | none =>
      rw [List.getLast?_eq_none_iff.mp hnames] at hfile
      cases entry with
      | file content =>
        obtain ⟨last, hparts, hroot⟩ := hlast rfl
        rw [hparts]
        exact hroot
      | _ => cases hfile
  constructor
  · rintro ⟨hfile, hsource, hvisited⟩
    obtain ⟨stem, hstem, hsource⟩ := isSourceName_iff.mp hsource
    refine ⟨(hplace _).trans hfile, ⟨stem, hstem, by rw [hname hfile, hsource]⟩, ?_⟩
    exact fun directory hdirectory => isSkippedName_eq_false_iff.mp (hvisited directory hdirectory)
  · rintro ⟨hfile, ⟨stem, hstem, hsource⟩, hvisited⟩
    rw [hplace] at hfile
    rw [hname hfile, Option.some.injEq] at hsource
    refine ⟨hfile, isSourceName_iff.mpr ⟨stem, hstem, hsource⟩, ?_⟩
    exact fun directory hdirectory =>
      isSkippedName_eq_false_iff.mpr (hvisited directory hdirectory)

lemma exists_scan_eq (hdistinct : tree.Distinct) (h : tree.entry? root = some entry) :
    ∃ sources, entry.Lists ((pathParts root).getLastD "") sources ∧
      scan tree root = .ok (sources.map (Source.found root)) := by
  have hentry : entry.Distinct := hdistinct.walk (List.forall_mem_nil _) (walk_eq_of_entry h)
  obtain ⟨sources, hlists, hfiles⟩ := hentry.exists_lists ((pathParts root).getLastD "")
  refine ⟨sources, hlists, ?_⟩
  rw [scan, h, ← hfiles]

/-- A scan of an existing root lists the files at or below it whose names end in `.rs` after
something else, unless a directory between the root and the file is hidden or is for build output.
Each is listed once, in the order of the bytes of the names. Trees with the same files and
directories are scanned alike. -/
theorem scan_lists_sources_in_order (hdistinct : tree.Distinct)
    (hentry : tree.entry? root = some entry) :
    (∃ sources : List Source,
      scan tree root = .ok (sources.map (Source.found root)) ∧
      (∀ source, source ∈ sources ↔
        tree.node? (place root ++ source.names) = some (.file source.content) ∧
        (∃ stem, stem ≠ "" ∧ (place root ++ source.names).getLast? = some (stem ++ ".rs")) ∧
        ∀ directory ∈ source.names.dropLast,
          directory ≠ "target" ∧ ¬ ['.'] <+: directory.toList) ∧
      sources.Pairwise fun a b => a.names.map Text.utf8Bytes < b.names.map Text.utf8Bytes) ∧
    ∀ tree' : FileTree, tree'.Distinct → tree'.node? = tree.node? →
      scan tree' root = scan tree root := by
  obtain ⟨sources, hlists, hscan⟩ := exists_scan_eq hdistinct hentry
  refine ⟨⟨sources, hscan, fun source => ?_, ?_⟩, ?_⟩
  · rw [hlists.mem_iff, hasSource_iff_place hentry]
  · exact hlists.increasing.imp Text.map_utf8Bytes_lt
  · intro tree' hdistinct' hnode
    obtain ⟨entry', hwalk', hsame⟩ :=
      @exists_walk_of_node? _ _ _ [] _ _ hnode.symm rfl (walk_eq_of_entry hentry)
    have hentry' : tree'.entry? root = some entry' := by
      unfold FileTree.entry?
      rw [if_neg (ne_empty_of_entry hentry), hwalk']
    obtain ⟨sources', hlists', hscan'⟩ := exists_scan_eq hdistinct' hentry'
    rw [hscan, hscan', hlists.unique hsame hlists']

/-- Two trees with the same files in different orders are scanned alike, without the hidden
directory. -/
theorem sources_in_order_at_dot :
    let source : Entry := .file .empty
    let inner : FileTree := ⟨[("x.rs", source)]⟩
    let tree : FileTree :=
      ⟨[("a.rs", source), ("a", .directory inner), (".git", .directory inner)]⟩
    let tree' : FileTree :=
      ⟨[(".git", .directory inner), ("a.rs", source), ("a", .directory inner)]⟩
    tree.Distinct ∧ tree'.Distinct ∧ tree.entry? "." = some (.directory tree) ∧
      tree'.node? = tree.node? ∧
      scan tree' "." = scan tree "." ∧
      ∃ sources : List Source, scan tree "." = .ok (sources.map (Source.found ".")) ∧
        ⟨["a", "x.rs"], .empty⟩ ∈ sources ∧ ⟨[".git", "x.rs"], .empty⟩ ∉ sources := by
  intro source inner tree tree'
  have hsource : source.Distinct := .leaf rfl
  have hinner : Entry.Distinct (.directory inner) :=
    .directory (by decide) (by simpa [inner] using hsource)
  have hdistinct : tree.Distinct :=
    .directory (by decide) (by simpa [tree] using ⟨hsource, hinner⟩)
  have hdistinct' : tree'.Distinct :=
    .directory (by decide) (by simpa [tree'] using ⟨hinner, hsource, hinner⟩)
  have hnode : tree'.node? = tree.node? := by
    funext names
    cases names with
    | nil => rfl
    | cons name names =>
      have hget : tree'.get? name = tree.get? name := by
        by_cases hname : name = ".git"
        · subst hname
          rfl
        · simp [tree, tree', OrderedMap.get?, OrderedMap.lookup, Ne.symm hname]
      rw [FileTree.node?_cons, FileTree.node?_cons, hget]
  obtain ⟨⟨sources, hscan, hmem, -⟩, hsame⟩ := @scan_lists_sources_in_order tree "." _ hdistinct rfl
  refine ⟨hdistinct, hdistinct', rfl, hnode, hsame tree' hdistinct' hnode, sources, hscan, ?_, ?_⟩
  · rw [hmem]
    exact ⟨rfl, ⟨"x", by decide, by decide +kernel⟩, by decide⟩
  · rw [hmem]
    rintro ⟨-, -, hvisited⟩
    exact (hvisited ".git" (by decide)).2 (by decide)

end Project

end ApiScribe
