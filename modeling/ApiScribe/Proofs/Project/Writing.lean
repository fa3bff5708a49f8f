import ApiScribe.Proofs.Project.Places

/-!
# What writing changes

Writing puts a file at the place of its path, and directories at the places on the way where nothing
was. When it fails, it has made some of these directories and nothing else.
-/

namespace ApiScribe.Project.FileTree

variable {tree made written : FileTree} {names names' parts : List String} {name : String}

/-! ### Single places -/

/-- Replacing what is no directory changes a single place, if nothing comes with the new entry. -/
lemma node?_put (entry : Entry) (hentry : ∀ x xs, entry.node? (x :: xs) = none)
    (h : tree.node? names = some .directory)
    (hfree : tree.node? (names ++ [name]) ≠ some .directory) (names' : List String) :
    (tree.put name entry names).node? names' =
      if names' = names ++ [name] then entry.node? [] else tree.node? names' := by
  induction names generalizing tree names' with
  | nil =>
    cases names' with
    | nil => rfl
    | cons x xs =>
      rw [put, node?_cons, OrderedMap.get?_insert]
      by_cases hx : name = x
      · subst hx
        cases xs with
        | nil => simp
        | cons y ys =>
          have hnone : tree.node? (name :: y :: ys) = none := by
            rw [List.nil_append, node?_cons] at hfree
            rw [node?_cons]
            cases hget : tree.get? name with
            | none => rfl
            | some old =>
              cases old with
              | directory inner => exact absurd (by rw [hget]; rfl) hfree
              | _ => rfl
          simp [hentry, hnone]
      · simp [hx, Ne.symm hx, node?_cons]
  | cons outer names ih =>
    cases names' with
    | nil => rfl
    | cons x xs =>
      rw [put, node?_cons, OrderedMap.get?_modify]
      by_cases hx : outer = x
      · subst hx
        rw [node?_cons] at h
        obtain ⟨entry', hget, hentry'⟩ := Option.bind_eq_some_iff.mp h
        cases entry' with
        | file content => cases names <;> cases hentry'
        | special => cases names <;> cases hentry'
        | directory inner =>
          have hfree' : node? inner (names ++ [name]) ≠ some .directory := by
            simpa [node?_cons, hget] using hfree
          simpa [hget, node?_cons] using ih hentry' hfree' xs
      · simp [hx, Ne.symm hx, node?_cons]

/-! ### Making directories -/

/-- The second tree has directories at some of the places where the first one has nothing, and is
like the first one otherwise. -/
def Grows (places : List (List String)) (tree made : FileTree) : Prop :=
  ∀ names, made.node? names = tree.node? names ∨
    names ∈ places ∧ tree.node? names = none ∧ made.node? names = some .directory

section Grows

variable {places places' : List (List String)}

lemma Grows.refl (places : List (List String)) (tree : FileTree) : Grows places tree tree :=
  fun _ => .inl rfl

lemma Grows.mono (h : Grows places tree made) (hsub : places ⊆ places') :
    Grows places' tree made := by
  intro names
  exact (h names).imp_right fun ⟨hmem, hgrown⟩ => ⟨hsub hmem, hgrown⟩

lemma Grows.trans (h : Grows places tree made) (h' : Grows places made written) :
    Grows places tree written := by
  intro names
  rcases h names with hsame | ⟨hmem, hnone, hdirectory⟩
  · rw [← hsame]
    exact h' names
  · rcases h' names with hsame | ⟨-, hnone', -⟩
    · exact .inr ⟨hmem, hnone, hsame.trans hdirectory⟩
    · rw [hdirectory] at hnone'
      cases hnone'

lemma Grows.directory (h : Grows places tree made) (hnames : tree.node? names = some .directory) :
    made.node? names = some .directory := by
  rcases h names with hsame | ⟨-, hnone, -⟩
  · exact hsame.trans hnames
  · rw [hnone] at hnames
    cases hnames

/-- What is in the way of a directory stays there. -/
lemma Grows.free_iff (h : Grows places tree made) :
    (∀ node ∈ made.node? names, node = .directory) ↔
      ∀ node ∈ tree.node? names, node = .directory := by
  rcases h names with hsame | ⟨-, hnone, hdirectory⟩
  · rw [hsame]
  · simp [hnone, hdirectory]

/-- Where directories are at all of the places, only those are new that were not there. -/
lemma Grows.node?_eq (h : Grows places tree made)
    (hplaces : ∀ names ∈ places, made.node? names = some .directory) (names : List String) :
    made.node? names =
      if names ∈ places ∧ tree.node? names = none then some .directory else tree.node? names := by
  split_ifs with hnew
  · exact hplaces names hnew.1
  · exact (h names).resolve_right fun ⟨hmem, hnone, _⟩ => hnew ⟨hmem, hnone⟩

end Grows

/-- Making directories fails at what is none, and otherwise goes on from one at the next place. -/
lemma makeParts_cons (h : tree.node? names = some .directory) (part : String)
    (parts : List String) :
    (∃ node, tree.node? (enter names part) = some node ∧ node ≠ .directory ∧
        makeParts tree names (part :: parts) = (tree, none)) ∨
      ∃ made, makeParts tree names (part :: parts) = makeParts made (enter names part) parts ∧
        Grows [enter names part] tree made ∧
        made.node? (enter names part) = some .directory := by
  rw [makeParts, enter]
  split_ifs with hvacuous hup
  · exact .inr ⟨tree, rfl, .refl _ _, h⟩
  · exact .inr ⟨tree, rfl, .refl _ _, node?_dropLast h⟩
  · obtain ⟨directory, hdirectory⟩ := Option.isSome_iff_exists.mp (isSome_descend_iff.mpr h)
    have hnode : tree.node? (names ++ [part]) = (directory.get? part).bind (·.node? []) := by
      rw [node?_append_cons, hdirectory]
      rfl
    rw [hdirectory, hnode]
    cases hget : directory.get? part with
    | none =>
      have hnone : tree.node? (names ++ [part]) = none := by
        rw [hnode, hget]
        rfl
      have hfree : tree.node? (names ++ [part]) ≠ some .directory := by simp [hnone]
      have hput := node?_put (.directory {}) (fun _ _ => rfl) h hfree
      refine .inr ⟨tree.put part (.directory {}) names, by simp [hget], fun names' => ?_, ?_⟩
      · rw [hput]
        split_ifs with heq
        · subst heq
          exact .inr ⟨List.mem_singleton_self _, hnone, rfl⟩
        · exact .inl rfl
      · rw [hput, if_pos rfl]
        rfl
    | some entry =>
      cases entry with
      | file content => exact .inl ⟨.file content, rfl, by simp, by simp [hget]⟩
      | special => exact .inl ⟨.special, rfl, by simp, by simp [hget]⟩
      | directory inner =>
        refine .inr ⟨tree, by simp [hget], .refl _ _, ?_⟩
        rw [hnode, hget]
        rfl

lemma makeParts_grows (h : tree.node? names = some .directory) (parts : List String) :
    Grows (parts.scanl enter names) tree (makeParts tree names parts).1 := by
  induction parts generalizing tree names with
  | nil => exact .refl _ _
  | cons part parts ih =>
    rcases makeParts_cons h part parts with ⟨node, -, -, heq⟩ | ⟨made, heq, hgrows, hmade⟩
    · rw [heq]
      exact .refl _ _
    · rw [heq, List.scanl_cons]
      refine .mono ?_ (List.subset_cons_self _ _)
      refine (hgrows.mono ?_).trans (ih hmade)
      exact List.cons_subset.mpr ⟨mem_scanl_self _ _, List.nil_subset _⟩

lemma makeParts_eq_some (h : tree.node? names = some .directory)
    (hmade : (makeParts tree names parts).2 = some names') :
    names' = parts.foldl enter names ∧
      ∀ l ∈ parts.scanl enter names, (makeParts tree names parts).1.node? l = some .directory := by
  induction parts generalizing tree names with
  | nil =>
    cases hmade
    exact ⟨rfl, by simpa [makeParts] using h⟩
  | cons part parts ih =>
    have hgrown := (makeParts_grows h (part :: parts)).directory h
    rcases makeParts_cons h part parts with ⟨node, -, -, heq⟩ | ⟨made, heq, hgrows, hdirectory⟩
    · rw [heq] at hmade
      cases hmade
    · rw [heq] at hmade hgrown ⊢
      obtain ⟨hnames', hdirectories⟩ := ih hdirectory hmade
      refine ⟨hnames', ?_⟩
      rw [List.scanl_cons]
      exact List.forall_mem_cons.mpr ⟨hgrown, hdirectories⟩

lemma isSome_makeParts_iff (h : tree.node? names = some .directory) :
    (makeParts tree names parts).2.isSome ↔
      ∀ l ∈ parts.scanl enter names, ∀ node ∈ tree.node? l, node = .directory := by
  induction parts generalizing tree names with
  | nil => simp [makeParts, h]
  | cons part parts ih =>
    rw [List.scanl_cons, List.forall_mem_cons]
    rcases makeParts_cons h part parts with
      ⟨node, hnode, hblocked, heq⟩ | ⟨made, heq, hgrows, hmade⟩
    · rw [heq]
      simp only [Option.isSome_none, Bool.false_eq_true, false_iff]
      exact fun hfree => hblocked (hfree.2 _ (mem_scanl_self _ _) node hnode)
    · have hroot : ∀ node ∈ tree.node? names, node = .directory := by simp [h]
      rw [heq, ih hmade, and_iff_right hroot]
      exact forall₂_congr fun _ _ => hgrows.free_iff

/-! ### Writing files -/

/-- A path can be written to if its last part is a name, only directories are on the way and only a
file is at the place, which is not one of a directory that is made on the way. -/
structure Writable (tree : FileTree) (path : String) : Prop where
  name : EndsInName path
  way : ∀ names ∈ passed path, ∀ node ∈ tree.node? names, node = .directory
  fresh : place path ∉ passed path
  place : ∀ node ∈ tree.node? (place path), node.isFile = true

instance (tree : FileTree) (path : String) : Decidable (tree.Writable path) :=
  decidable_of_iff (EndsInName path ∧
      (∀ names ∈ passed path, ∀ node ∈ tree.node? names, node = .directory) ∧
      Project.place path ∉ passed path ∧
      ∀ node ∈ tree.node? (Project.place path), node.isFile = true)
    ⟨fun ⟨hname, hway, hfresh, hplace⟩ => ⟨hname, hway, hfresh, hplace⟩,
      fun ⟨hname, hway, hfresh, hplace⟩ => ⟨hname, hway, hfresh, hplace⟩⟩

lemma Grows.writable_iff {path : String} (h : Grows (passed path) tree made) :
    made.Writable path ↔ tree.Writable path := by
  have hplace (hfresh : Project.place path ∉ passed path) :
      made.node? (Project.place path) = tree.node? (Project.place path) :=
    (h _).resolve_right fun hgrown => hfresh hgrown.1
  constructor
  · rintro ⟨hname, hway, hfresh, hnode⟩
    refine ⟨hname, fun names hnames => ?_, hfresh, hplace hfresh ▸ hnode⟩
    exact h.free_iff.mp (hway names hnames)
  · rintro ⟨hname, hway, hfresh, hnode⟩
    refine ⟨hname, fun names hnames => ?_, hfresh, (hplace hfresh).symm ▸ hnode⟩
    exact h.free_iff.mpr (hway names hnames)

lemma endsInName_of_putFile {path : String} {content : ByteArray}
    (h : tree.putFile path content = some written) : EndsInName path := by
  intro name hlast
  rw [putFile, Option.mem_def.mp hlast] at h
  simp only [Option.bind_eq_bind, Option.bind_some, Option.bind_eq_some_iff] at h
  obtain ⟨names, -, h⟩ := h
  split_ifs at h with hname
  exact (Bool.and_eq_true_iff.mp hname).1

lemma all_isFile_get? {directory : FileTree} (h : tree.descend names = some directory) :
    (directory.get? name).all Entry.isFile = true ↔
      ∀ node ∈ tree.node? (names ++ [name]), node.isFile = true := by
  rw [node?_append_cons, h, Option.bind_some, node?_cons]
  cases directory.get? name with
  | none => simp
  | some entry => cases entry <;> simp [Entry.isFile, Entry.node?, Node.isFile]

/-- Putting a file fails if the directories cannot be made or something else is at its place, and
otherwise changes this place only. -/
lemma putFile_cases {path : String} (h : EndsInName path) (content : ByteArray) :
    let made := makeParts tree [] (pathParts path).dropLast
    (tree.putFile path content = none ∧
        (made.2 = none ∨ ¬ ∀ node ∈ made.1.node? (place path), node.isFile = true)) ∨
      ∃ written, tree.putFile path content = some written ∧ made.2.isSome ∧
        (∀ node ∈ made.1.node? (place path), node.isFile = true) ∧
        ∀ names, written.node? names =
          if names = place path then some (.file content) else made.1.node? names := by
  intro made
  obtain ⟨name, hlast, hname, hplace⟩ := h.place_eq
  cases hmade : made.2 with
  | none => exact .inl ⟨by simp [putFile, hlast, made, hmade], .inl rfl⟩
  | some names =>
    obtain ⟨hnames, hdirectories⟩ := makeParts_eq_some node?_nil hmade
    have hparent : made.1.node? names = some .directory :=
      hdirectories names (hnames ▸ List.mem_of_mem_getLast? List.getLast?_scanl)
    rw [← hnames] at hplace
    obtain ⟨directory, hdirectory⟩ := Option.isSome_iff_exists.mp (isSome_descend_iff.mpr hparent)
    have hput : tree.putFile path content =
        if (directory.get? name).all Entry.isFile then
          some (made.1.put name (.file content) names)
        else none := by
      simp [putFile, hlast, hname, hmade, made, hdirectory]
    have hall : (directory.get? name).all Entry.isFile = true ↔
        ∀ node ∈ made.1.node? (place path), node.isFile = true := by
      rw [hplace]
      exact all_isFile_get? hdirectory
    by_cases hfree : ∀ node ∈ made.1.node? (place path), node.isFile = true
    · refine .inr ⟨_, hput.trans (if_pos (hall.mpr hfree)), rfl, hfree, ?_⟩
      have hplaced : made.1.node? (place path) ≠ some .directory := by
        intro hnode
        exact absurd (hfree _ hnode) (by decide)
      rw [hplace] at hplaced ⊢
      exact node?_put (.file content) (fun _ _ => rfl) hparent hplaced
    · exact .inl ⟨hput.trans (if_neg (mt hall.mp hfree)), .inr hfree⟩

lemma putFile_eq_some {path : String} {content : ByteArray}
    (h : tree.putFile path content = some written) :
    tree.Writable path ∧ ∀ names, written.node? names =
      if names = place path then some (.file content)
      else if names ∈ passed path ∧ tree.node? names = none then some .directory
      else tree.node? names := by
  have hname := endsInName_of_putFile h
  have hgrows : Grows (passed path) tree (makeParts tree [] (pathParts path).dropLast).1 :=
    makeParts_grows node?_nil _
  rcases putFile_cases hname content with ⟨hnone, -⟩ | ⟨written', hsome, hmade, hfree, hnode⟩
  · rw [hnone] at h
    cases h
  · obtain rfl : written' = written := Option.some.inj (hsome.symm.trans h)
    obtain ⟨names', hnames'⟩ := Option.isSome_iff_exists.mp hmade
    have hdirectories := (makeParts_eq_some node?_nil hnames').2
    have hfresh : place path ∉ passed path := by
      intro hmem
      exact absurd (hfree _ (hdirectories _ hmem)) (by decide)
    refine ⟨⟨hname, (isSome_makeParts_iff node?_nil).mp hmade, hfresh, ?_⟩, fun names => ?_⟩
    · rwa [← (hgrows _).resolve_right fun hgrown => hfresh hgrown.1]
    · rw [hnode, hgrows.node?_eq hdirectories]

lemma Writable.exists_putFile {path : String} (h : tree.Writable path) (content : ByteArray) :
    ∃ written, tree.putFile path content = some written := by
  have hgrows : Grows (passed path) tree (makeParts tree [] (pathParts path).dropLast).1 :=
    makeParts_grows node?_nil _
  have hmade := (isSome_makeParts_iff node?_nil).mpr h.way
  rcases putFile_cases h.name content with ⟨-, hnone | hblocked⟩ | ⟨written, hsome, -⟩
  · rw [hnone] at hmade
    cases hmade
  · exact absurd (hgrows.writable_iff.mpr h).place hblocked
  · exact ⟨written, hsome⟩

/-- Writing makes the directories on the way and, if the path can be written to, puts the file. -/
lemma write_cases (tree : FileTree) (path text : String) :
    ∃ made, Grows (passed path) tree made ∧
      ((tree.Writable path ∧ ∃ written, made.putFile path text.toUTF8 = some written ∧
          tree.write path text = (written, .ok ())) ∨
        ¬ tree.Writable path ∧ ∃ error, tree.write path text = (made, .error error)) := by
  have hsub := scanl_parentPath_subset path
  have hgrows : Grows (passed path) tree (tree.makeParts [] (pathParts (parentPath path))).1 :=
    (makeParts_grows node?_nil _).mono hsub
  refine ⟨_, hgrows, ?_⟩
  rw [write]
  by_cases h : tree.Writable path
  · refine .inl ⟨h, ?_⟩
    have hmade : (tree.makeParts [] (pathParts (parentPath path))).2.isSome :=
      (isSome_makeParts_iff node?_nil).mpr fun names hnames => h.way names (hsub hnames)
    obtain ⟨written, hwritten⟩ := (hgrows.writable_iff.mpr h).exists_putFile text.toUTF8
    refine ⟨written, hwritten, ?_⟩
    dsimp only
    rw [if_neg (by simpa using Option.isSome_iff_ne_none.mp hmade), hwritten]
  · refine .inr ⟨h, ?_⟩
    dsimp only
    split_ifs
    · exact ⟨_, rfl⟩
    · split
      next written hwritten =>
        exact absurd (hgrows.writable_iff.mp (putFile_eq_some hwritten).1) h
      next => exact ⟨_, rfl⟩

lemma write_eq_ok_iff {path text : String} :
    (tree.write path text).2 = .ok () ↔ tree.Writable path := by
  obtain ⟨made, -, ⟨h, written, -, hwrite⟩ | ⟨h, error, hwrite⟩⟩ := write_cases tree path text
  · simp [hwrite, h]
  · simp [hwrite, h]

lemma Writable.node?_write {path : String} (h : tree.Writable path) (text : String)
    (names : List String) :
    (tree.write path text).1.node? names =
      if names = Project.place path then some (.file text.toUTF8)
      else if names ∈ passed path ∧ tree.node? names = none then some .directory
      else tree.node? names := by
  obtain ⟨made, hgrows, ⟨-, written, hput, hwrite⟩ | ⟨h', -⟩⟩ := write_cases tree path text
  · rw [hwrite, (putFile_eq_some hput).2]
    rcases hgrows names with hsame | ⟨hmem, hnone, hdirectory⟩
    · rw [hsame]
    · simp [hmem, hnone, hdirectory]
  · exact absurd h h'

/-- A failed write leaves all files as they are. -/
lemma write_grows {path : String} (h : ¬ tree.Writable path) (text : String) :
    Grows (passed path) tree (tree.write path text).1 := by
  obtain ⟨made, hgrows, ⟨h', -⟩ | ⟨-, error, hwrite⟩⟩ := write_cases tree path text
  · exact absurd h' h
  · rw [hwrite]
    exact hgrows

lemma Writable.text?_write {path : String} (h : tree.Writable path) (text : String) :
    (tree.write path text).1.text? path = some text := by
  have hnode := h.node?_write text
  refine text?_of_node? h.name (fun names hnames => ?_) (by rw [hnode, if_pos rfl])
  have hne : names ≠ Project.place path := by
    rintro rfl
    exact h.fresh hnames
  rw [hnode, if_neg hne]
  cases hold : tree.node? names with
  | none => rw [if_pos ⟨hnames, rfl⟩]
  | some node =>
    rw [h.way names hnames node hold]
    exact if_neg nofun

end ApiScribe.Project.FileTree
