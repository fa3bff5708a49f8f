import ApiScribe.Proofs.Annotation.Splitting

/-!
# Splitting undoes rendering

A comment has well-formed annotations only, and a comment that is rendered from well-formed
annotations, with any blanks around its lines, has just these. Splitting and rendering are thus
inverse to each other, up to how a comment is laid out and what stands in front of its first
annotation.
-/

namespace ApiScribe.Annotation

open Text

/-! ### Lines that open an annotation -/

/-- The line consists of `@`, a tag for the kind and, separated by blanks, the argument if there is
one. -/
inductive Opens (kind : Kind) (argument line : String) : Prop
  | intro {tag gap : List Char} (hline : line.toList = '@' :: (tag ++ (gap ++ argument.toList)))
    (hkind : Kind.ofTag? (.ofList tag) = some kind) (htag : ∀ c ∈ tag, isBlank c = false)
    (hgap : ∀ c ∈ gap, isBlank c = true)
    (hargument : ∀ c ∈ argument.toList.head?, isBlank c = false)
    (hsep : gap = [] → argument = "")

variable {kind : Kind} {argument line : String}

lemma Opens.of_header? (h : header? line = some (kind, argument)) : Opens kind argument line := by
  rw [header?] at h
  split at h
  next rest hline =>
    dsimp only at h
    split_ifs at h
    obtain ⟨kind', hkind, heq⟩ := Option.map_eq_some_iff.mp h
    cases heq
    have hblank := head?_dropWhile (!isBlank ·) rest
    refine @Opens.intro _ _ _ _ ((rest.dropWhile (!isBlank ·)).takeWhile isBlank) ?_ hkind
      ?_ ?_ ?_ ?_
    · rw [hline, String.toList_ofList, List.takeWhile_append_dropWhile,
        List.takeWhile_append_dropWhile]
    · intro c hc
      simpa using List.all_eq_true.mp List.all_takeWhile c hc
    · exact List.all_eq_true.mp List.all_takeWhile
    · rw [String.toList_ofList]
      exact head?_dropWhile isBlank _
    · -- what follows the tag starts with a blank
      intro hgap
      cases hrest : rest.dropWhile (!isBlank ·) with
      | nil => rfl
      | cons c cs =>
        rw [hrest] at hgap hblank
        have hc : isBlank c = true := by simpa using hblank c rfl
        rw [List.takeWhile_cons, if_pos hc] at hgap
        cases hgap
  next => cases h

lemma Opens.header?_eq (h : Opens kind argument line) (hsingle : '\n' ∉ line.toList) :
    header? line = some (kind, argument) := by
  obtain ⟨hline, hkind, htag, hgap, hargument, hsep⟩ := h
  rename_i tag gap
  have htag' : ∀ c ∈ tag, (!isBlank c) = true := fun c hc => by rw [htag c hc]; rfl
  -- the tag ends at the first blank, or with the line
  have hrest : ∀ c ∈ (gap ++ argument.toList).head?, isBlank c = true := by
    cases gap with
    | nil =>
      rw [hsep rfl]
      exact fun c hc => by cases hc
    | cons b gap =>
      intro c hc
      cases hc
      exact hgap _ List.mem_cons_self
  have htake : (gap ++ argument.toList).takeWhile (!isBlank ·) = [] := by
    cases hcs : gap ++ argument.toList with
    | nil => rfl
    | cons c cs =>
      rw [hcs] at hrest
      simp [hrest c rfl]
  have hdrop : (gap ++ argument.toList).dropWhile (!isBlank ·) = gap ++ argument.toList := by
    have happend :=
      List.takeWhile_append_dropWhile (p := (!isBlank ·)) (l := gap ++ argument.toList)
    rwa [htake] at happend
  have hargument' : (gap ++ argument.toList).dropWhile isBlank = argument.toList := by
    rw [List.dropWhile_append_of_pos hgap]
    exact dropWhile_isBlank_eq_self_iff.mpr hargument
  have hsingle' : '\n' ∉ argument.toList := by
    intro hmem
    rw [hline] at hsingle
    exact hsingle (by simp [hmem])
  rw [header?, hline]
  simp only [List.takeWhile_append_of_pos htag', List.dropWhile_append_of_pos htag', htake, hdrop,
    hargument', hsingle', List.append_nil, hkind, String.ofList_toList]
  rfl

lemma header?_eq_none_iff (hsingle : '\n' ∉ line.toList) :
    header? line = none ↔ ∀ kind argument, ¬Opens kind argument line := by
  constructor
  · intro hnone kind argument hopens
    rw [hopens.header?_eq hsingle] at hnone
    cases hnone
  · intro hplain
    cases hheader : header? line with
    | none => rfl
    | some opened => exact absurd (.of_header? hheader) (hplain opened.1 opened.2)

/-! ### Well-formed annotations -/

/-- The argument and the lines of the body are tidy, no line of the body opens an annotation, and
the body neither starts nor ends with an empty line. -/
structure WellFormed (a : Annotation) : Prop where
  argument : Text.Tidy a.argument
  lines : ∀ line ∈ a.body, Text.Tidy line
  plain : ∀ line ∈ a.body, ∀ kind argument, ¬Opens kind argument line
  first : a.body.head? ≠ some ""
  last : a.body.getLast? ≠ some ""

variable {a : Annotation}

lemma wellFormed_iff_tidy : a.WellFormed ↔ a.Tidy := by
  constructor
  · rintro ⟨hargument, hlines, hplain, hfirst, hlast⟩
    refine ⟨hargument, hlines, fun line hline => ?_, hfirst, hlast⟩
    exact (header?_eq_none_iff (hlines line hline).single).mpr (hplain line hline)
  · rintro ⟨hargument, hlines, hplain, hfirst, hlast⟩
    refine ⟨hargument, hlines, fun line hline => ?_, hfirst, hlast⟩
    exact (header?_eq_none_iff (hlines line hline).single).mp (hplain line hline)

/-! ### Annotations of a comment -/

/-- The argument ends where the line ends. -/
lemma Opens.tidy_argument (h : Opens kind argument line) (hline : Text.Tidy line) :
    Text.Tidy argument := by
  obtain ⟨hchars, -, -, -, hargument, -⟩ := h
  have hlast := hline.last
  have hsingle := hline.single
  rw [hchars] at hlast hsingle
  refine tidy_iff.mpr ⟨⟨hargument, fun c hc => hlast c ?_⟩, fun hmem => hsingle (by simp [hmem])⟩
  rw [← List.cons_append, ← List.append_assoc, List.getLast?_append, Option.mem_def.mp hc]
  rfl

lemma isBody_trimLines {lines : List String}
    (h : ∀ line ∈ lines, Text.Tidy line ∧ header? line = none) : IsBody (trimLines lines) := by
  have hmem {line : String} (hline : line ∈ trimLines lines) : line ∈ lines :=
    (trimEnds_sublist (· = "") lines).subset hline
  refine ⟨fun line hline => (h line (hmem hline)).1, fun line hline => (h line (hmem hline)).2,
    fun hempty => ?_, fun hempty => ?_⟩
  · simpa using head?_trimEnds (· = "") lines "" hempty
  · simpa using getLast?_trimEnds (· = "") lines "" hempty

lemma splitTrimmed_tidy {lines : List String} (h : ∀ line ∈ lines, Text.Tidy line) :
    (∀ line ∈ (splitTrimmed lines).1, Text.Tidy line ∧ header? line = none) ∧
      ∀ a ∈ (splitTrimmed lines).2, a.Tidy := by
  induction lines with
  | nil => exact ⟨List.forall_mem_nil _, List.forall_mem_nil _⟩
  | cons line rest ih =>
    obtain ⟨hline, hrest⟩ := List.forall_mem_cons.mp h
    obtain ⟨hbody, hannotations⟩ := ih hrest
    rw [splitTrimmed]
    cases hheader : header? line with
    | none => exact ⟨List.forall_mem_cons.mpr ⟨⟨hline, hheader⟩, hbody⟩, hannotations⟩
    | some opened =>
      have hargument := (Opens.of_header? hheader).tidy_argument hline
      refine ⟨List.forall_mem_nil _, List.forall_mem_cons.mpr ⟨?_, hannotations⟩⟩
      exact ⟨hargument, isBody_trimLines hbody⟩

lemma tidy_of_mem_ofComment {text : String} (h : a ∈ ofComment text) : a.Tidy := by
  refine (splitTrimmed_tidy fun trimmed htrimmed => ?_).2 a h
  obtain ⟨inner, hinner, rfl⟩ := List.mem_map.mp htrimmed
  obtain ⟨line, hline, rfl⟩ := List.mem_map.mp hinner
  exact tidy_trim (tidy_trim (notMem_of_mem_lines hline)).single

/-- The annotations of a comment are well formed, and well-formed annotations are those of the
comment that consists of their lines, whatever blanks there are around each line. -/
theorem ofComment_inverse :
    (∀ text, ∀ a ∈ ofComment text, a.WellFormed) ∧
      ∀ annotations lines, (∀ a ∈ annotations, a.WellFormed) →
        List.Forall₂ Padded (annotations.flatMap render) lines →
        ofComment ("\n".intercalate lines) = annotations := by
  refine ⟨fun text a ha => wellFormed_iff_tidy.mpr (tidy_of_mem_ofComment ha), ?_⟩
  intro annotations lines hannotations hlines
  have htidy (a : Annotation) (ha : a ∈ annotations) : a.Tidy :=
    wellFormed_iff_tidy.mp (hannotations a ha)
  have hrendered : ∀ line ∈ annotations.flatMap render, Text.Tidy line := by
    intro line hline
    obtain ⟨a, ha, hline⟩ := List.mem_flatMap.mp hline
    exact (htidy a ha).render line hline
  obtain ⟨htrim, hsingle⟩ := map_trim_of_padded hlines hrendered
  exact ofComment_intercalate htidy hsingle htrim

/-- A response with an empty line and a tag that is none in its body. -/
def doneResponse : Annotation :=
  { kind := .response, argument := "200", body := ["Done.", "", "@ok"] }

/-- The lines of the response in a comment, with blanks around them. -/
def doneLines : List String := [" @Response 200\r", "Done.", "\t", "@ok "]

/-- The lines of the response are read as this response. -/
theorem ofComment_doneLines :
    doneResponse.WellFormed ∧ List.Forall₂ Padded ([doneResponse].flatMap render) doneLines ∧
      ofComment ("\n".intercalate doneLines) = [doneResponse] := by
  have hresponse : doneResponse.WellFormed := wellFormed_iff_tidy.mpr ⟨by decide, by decide⟩
  have hnone : ∀ c ∈ ([] : List Char), isBlank c ∧ c ≠ '\n' := List.forall_mem_nil _
  have hone {b : Char} (hb : isBlank b ∧ b ≠ '\n') : ∀ c ∈ [b], isBlank c ∧ c ≠ '\n' :=
    List.forall_mem_singleton.mpr hb
  have hlines : List.Forall₂ Padded ([doneResponse].flatMap render) doneLines := by
    refine .cons ⟨[' '], ['\r'], hone (by decide), hone (by decide), by decide⟩ (.cons ?_ (.cons ?_
      (.cons ?_ .nil)))
    · exact ⟨[], [], hnone, hnone, rfl⟩
    · exact ⟨['\t'], [], hone (by decide), hnone, rfl⟩
    · exact ⟨[], [' '], hnone, hone (by decide), rfl⟩
  refine ⟨hresponse, hlines, ofComment_inverse.2 _ _ ?_ hlines⟩
  exact List.forall_mem_singleton.mpr hresponse

end ApiScribe.Annotation
