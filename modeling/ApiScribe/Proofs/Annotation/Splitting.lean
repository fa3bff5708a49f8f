import ApiScribe.Annotation.Split
import ApiScribe.Proofs.Text.Lines

/-!
# Comments made of annotations

A comment that consists of the lines of tidy annotations, with any blanks around each line, is split
into just these annotations.
-/

namespace ApiScribe.Annotation

open Text

/-! ### Tidy annotations -/

/-- Lines as they stand below the header of an annotation. -/
structure IsBody (lines : List String) : Prop where
  tidy : ∀ line ∈ lines, Text.Tidy line
  plain : ∀ line ∈ lines, header? line = none
  first : lines.head? ≠ some ""
  last : lines.getLast? ≠ some ""

instance : DecidablePred IsBody := fun lines =>
  decidable_of_iff ((∀ line ∈ lines, Text.Tidy line) ∧ (∀ line ∈ lines, header? line = none) ∧
      lines.head? ≠ some "" ∧ lines.getLast? ≠ some "")
    ⟨fun h => ⟨h.1, h.2.1, h.2.2.1, h.2.2.2⟩, fun h => ⟨h.tidy, h.plain, h.first, h.last⟩⟩

/-- An annotation as it comes out of a comment. -/
structure Tidy (a : Annotation) : Prop where
  argument : Text.Tidy a.argument
  body : IsBody a.body

lemma IsBody.nil : IsBody [] where
  tidy := List.forall_mem_nil _
  plain := List.forall_mem_nil _
  first h := by cases h
  last h := by cases h

lemma IsBody.singleton {line : String} (htidy : Text.Tidy line) (hplain : header? line = none)
    (hne : line ≠ "") : IsBody [line] where
  tidy := List.forall_mem_singleton.mpr htidy
  plain := List.forall_mem_singleton.mpr hplain
  first h := hne (Option.some.inj h)
  last h := hne (Option.some.inj h)

lemma trimLines_eq_trimEnds (lines : List String) : trimLines lines = trimEnds (· = "") lines := rfl

lemma trimStartLines_eq_self {lines : List String} (h : lines.head? ≠ some "") :
    trimStartLines lines = lines := by
  cases lines with
  | nil => rfl
  | cons line lines =>
    have hne : line ≠ "" := fun hempty => h (congrArg some hempty)
    simp [trimStartLines, hne]

lemma IsBody.trimLines_eq {lines : List String} (h : IsBody lines) : trimLines lines = lines := by
  have hlast : lines.reverse.head? ≠ some "" := by rw [List.head?_reverse]; exact h.last
  rw [trimLines, trimStartLines_eq_self h.first, trimStartLines_eq_self hlast, List.reverse_reverse]

/-! ### Header lines -/

lemma Kind.ofTag?_name (kind : Kind) : ofTag? kind.name = some kind := by
  cases kind <;> decide

lemma Kind.bare_name (kind : Kind) : Bare kind.name := by
  cases kind <;> decide

lemma Kind.bare_tag (kind : Kind) : Bare ("@" ++ kind.name) where
  ne_empty := by simp
  not_blank c hc := by
    rw [String.toList_append] at hc
    rcases List.mem_append.mp hc with hc | hc
    · rw [List.mem_singleton.mp hc]
      decide
    · exact kind.bare_name.not_blank c hc

variable {a : Annotation}

lemma Tidy.headerLine (h : a.Tidy) : Text.Tidy a.headerLine := by
  unfold Annotation.headerLine
  split_ifs with hempty
  · exact a.kind.bare_tag.tidy
  · have hne : a.argument ≠ "" := by simpa using hempty
    exact a.kind.bare_tag.tidy.join a.kind.bare_tag.ne_empty h.argument hne

/-- The line that introduces an annotation is read as such. -/
lemma Tidy.header?_headerLine (h : a.Tidy) : header? a.headerLine = some (a.kind, a.argument) := by
  have hname : ∀ c ∈ a.kind.name.toList, (!isBlank c) = true := fun c hc => by
    rw [a.kind.bare_name.not_blank c hc]
    rfl
  have hchars : a.headerLine.toList = '@' :: (a.kind.name.toList ++
      if a.argument = "" then [] else ' ' :: a.argument.toList) := by
    unfold Annotation.headerLine
    by_cases hempty : a.argument = "" <;> simp [hempty]
  have hargument : a.argument.toList.dropWhile isBlank = a.argument.toList :=
    dropWhile_isBlank_eq_self_iff.mpr h.argument.head
  simp only [header?, hchars, List.takeWhile_append_of_pos hname,
    List.dropWhile_append_of_pos hname]
  by_cases hempty : a.argument = ""
  · simp [hempty, Kind.ofTag?_name]
  · simp [hempty, hargument, h.argument.single, Kind.ofTag?_name]

/-! ### Splitting -/

lemma splitTrimmed_append {body : List String} (h : ∀ line ∈ body, header? line = none)
    (rest : List String) :
    splitTrimmed (body ++ rest) = (body ++ (splitTrimmed rest).1, (splitTrimmed rest).2) := by
  induction body with
  | nil => rfl
  | cons line body ih =>
    obtain ⟨hline, hbody⟩ := List.forall_mem_cons.mp h
    rw [List.cons_append, splitTrimmed, ih hbody, hline]
    rfl

variable {kind : Kind} {argument : String}

/-- Plain lines below a header are the body of one annotation. -/
lemma splitTrimmed_of_plain {line : String} {body : List String}
    (hline : header? line = some (kind, argument)) (hbody : ∀ l ∈ body, header? l = none) :
    splitTrimmed (line :: body) = ([], [{ kind, argument, body := trimLines body }]) := by
  have hsplit := splitTrimmed_append hbody []
  rw [List.append_nil] at hsplit
  rw [splitTrimmed, hsplit, hline, splitTrimmed, List.append_nil]

/-- The lines of tidy annotations are split into the annotations. -/
lemma splitTrimmed_flatMap_render {annotations : List Annotation} (h : ∀ a ∈ annotations, a.Tidy) :
    splitTrimmed (annotations.flatMap render) = ([], annotations) := by
  induction annotations with
  | nil => rfl
  | cons a rest ih =>
    obtain ⟨ha, hrest⟩ := List.forall_mem_cons.mp h
    rw [List.flatMap_cons, render, List.cons_append, splitTrimmed,
      splitTrimmed_append ha.body.plain, ih hrest, ha.header?_headerLine, List.append_nil]
    simp only [ha.body.trimLines_eq]

lemma Tidy.render (h : a.Tidy) : ∀ line ∈ a.render, Text.Tidy line :=
  List.forall_mem_cons.mpr ⟨h.headerLine, h.body.tidy⟩

lemma headerLine_ne_empty (a : Annotation) : a.headerLine ≠ "" := by
  unfold Annotation.headerLine
  split_ifs <;> simp

lemma Tidy.getLast?_render (h : a.Tidy) : a.render.getLast? ≠ some "" := by
  unfold Annotation.render
  cases hbody : a.body with
  | nil => simpa using a.headerLine_ne_empty
  | cons line body =>
    rw [List.getLast?_cons_cons, ← hbody]
    exact h.body.last

lemma getLast?_flatMap_render {annotations : List Annotation} (h : ∀ a ∈ annotations, a.Tidy) :
    (annotations.flatMap render).getLast? ≠ some "" := by
  rcases List.eq_nil_or_concat annotations with rfl | ⟨front, a, rfl⟩
  · exact fun h => by cases h
  · have ha : a.Tidy := h a (by simp)
    obtain ⟨line, hline⟩ := Option.ne_none_iff_exists'.mp
      (mt List.getLast?_eq_none_iff.mp (List.cons_ne_nil a.headerLine a.body))
    have hlast := ha.getLast?_render
    rw [render, hline] at hlast
    rw [List.concat_eq_append, List.flatMap_append, List.flatMap_singleton, List.getLast?_append,
      render, hline]
    exact hlast

/-- A comment that consists of the lines of tidy annotations, up to the blanks around each line, has
these annotations. -/
lemma ofComment_intercalate {annotations : List Annotation} {lines : List String}
    (h : ∀ a ∈ annotations, a.Tidy) (hsingle : ∀ line ∈ lines, '\n' ∉ line.toList)
    (hlines : lines.map trim = annotations.flatMap render) :
    ofComment ("\n".intercalate lines) = annotations := by
  have htrim : (annotations.flatMap render).map trim = annotations.flatMap render := by
    refine List.map_congr_left (fun line hline => ?_) |>.trans (List.map_id _)
    obtain ⟨a, ha, hline⟩ := List.mem_flatMap.mp hline
    exact ((h a ha).render line hline).trimmed
  have hlast : lines.getLast? ≠ some "" := by
    intro hempty
    refine getLast?_flatMap_render h ?_
    rw [← hlines, List.getLast?_map, hempty]
    rfl
  rw [ofComment, commentLines, map_trim_lines_intercalate hsingle hlast, hlines, split, htrim,
    splitTrimmed_flatMap_render h]

lemma commentLines_trimmed {text line : String} (h : line ∈ commentLines text) :
    trim line = line := by
  obtain ⟨l, hl, rfl⟩ := List.mem_map.mp h
  exact (tidy_trim (notMem_of_mem_lines hl)).trimmed

/-- A header and plain lines below it are one annotation. -/
lemma ofComment_of_plain {header : String} {ls : List String}
    (hsingle : ∀ l ∈ header :: ls, '\n' ∉ l.toList)
    (hheader : header? (trim header) = some (kind, argument))
    (hplain : ∀ l ∈ ls, header? (trim l) = none) :
    ofComment ("\n".intercalate (header :: ls)) =
      [{ kind, argument, body := trimLines (ls.map trim) }] := by
  have htrim : (commentLines ("\n".intercalate (header :: ls))).map trim =
      commentLines ("\n".intercalate (header :: ls)) :=
    (List.map_congr_left fun l hl => commentLines_trimmed hl).trans (List.map_id _)
  -- an empty last line is not a line of the comment
  obtain ⟨tail, htail, hlines⟩ : ∃ tail, (tail = [] ∨ tail = [""]) ∧
      commentLines ("\n".intercalate (header :: ls)) ++ tail = trim header :: ls.map trim := by
    refine ⟨_, ?_, map_lines_intercalate_append hsingle fun l _ => trim_chomp l⟩
    split_ifs
    · exact .inr rfl
    · exact .inl rfl
  rw [ofComment, split, htrim]
  cases hcomment : commentLines ("\n".intercalate (header :: ls)) with
  | nil =>
    rw [hcomment, List.nil_append] at hlines
    have hempty : trim header = "" := by
      rcases htail with rfl | rfl
      · cases hlines
      · exact (List.cons.inj hlines).1.symm
    rw [hempty] at hheader
    cases hheader
  | cons line body =>
    rw [hcomment, List.cons_append, List.cons.injEq] at hlines
    obtain ⟨rfl, hbody⟩ := hlines
    have hplain' : ∀ l ∈ body, header? l = none := by
      intro l hl
      have hmem : l ∈ ls.map trim := hbody ▸ List.mem_append_left tail hl
      obtain ⟨l', hl', rfl⟩ := List.mem_map.mp hmem
      exact hplain l' hl'
    have htrimLines : trimLines (body ++ tail) = trimLines body := by
      rcases htail with rfl | rfl
      · rw [List.append_nil]
      · rw [trimLines_eq_trimEnds, trimEnds_concat _ _ rfl, trimLines_eq_trimEnds]
    rw [splitTrimmed_of_plain hheader hplain', ← hbody, htrimLines]

/-- The text of annotations in a comment. -/
def comment (annotations : List Annotation) : String :=
  "\n".intercalate (annotations.flatMap render)

lemma ofComment_comment {annotations : List Annotation} (h : ∀ a ∈ annotations, a.Tidy) :
    ofComment (comment annotations) = annotations := by
  have htidy : ∀ line ∈ annotations.flatMap render, Text.Tidy line := by
    intro line hline
    obtain ⟨a, ha, hline⟩ := List.mem_flatMap.mp hline
    exact (h a ha).render line hline
  refine ofComment_intercalate h (fun line hline => (htidy line hline).single) ?_
  exact List.map_congr_left (fun line hline => (htidy line hline).trimmed) |>.trans (List.map_id _)

end ApiScribe.Annotation
