import ApiScribe.Proofs.Annotation.Rendering
import Mathlib.Data.List.Basic

/-!
# Annotations by position

The lines that introduce an annotation cut a comment into its annotations: each takes its kind and
its argument from its own line, and its body from the lines up to the next such line.
-/

namespace ApiScribe.Annotation

open Text

/-! ### Tags -/

namespace Kind

/-- The short tags of the security annotations. -/
def shortForms : Kind → List String
  | securityRequirement => ["Security"]
  | apiKeyScheme => ["SecurityAPIKey"]
  | httpScheme => ["SecurityHTTP"]
  | _ => []

/-- The tags that stand for a kind. -/
def spellings (kind : Kind) : List String := kind.name :: kind.shortForms

lemma exists_spelling_of_mem_tags :
    ∀ entry ∈ tags, ∃ name ∈ entry.2.spellings, lowered name.toList = entry.1.toList := by
  decide

lemma lookup_tags_spelling (kind : Kind) :
    ∀ name ∈ kind.spellings, tags.lookup (.ofList (lowered name.toList)) = some kind := by
  cases kind <;> decide

/-- A tag stands for a kind if it is one of its spellings but for the case of the letters. -/
lemma ofTag?_eq_some_iff {tag : String} {kind : Kind} :
    ofTag? tag = some kind ↔ ∃ name ∈ kind.spellings, lowered tag.toList = lowered name.toList := by
  constructor
  · intro h
    obtain ⟨front, back, htags, -⟩ := List.lookup_eq_some_iff.mp h
    have hmem : (String.ofList (lowered tag.toList), kind) ∈ tags := by simp [htags]
    obtain ⟨name, hname, hlowered⟩ := exists_spelling_of_mem_tags _ hmem
    refine ⟨name, hname, ?_⟩
    rw [hlowered, String.toList_ofList]
  · rintro ⟨name, hname, hlowered⟩
    rw [ofTag?, hlowered]
    exact lookup_tags_spelling kind name hname

end Kind

/-! ### Lines that introduce an annotation -/

/-- The line consists of `@`, a run of characters that is a tag of the kind but for the case of its
letters and, after blanks, the argument if there is one. -/
inductive Introduces (kind : Kind) (argument line : String) : Prop
  | intro {tag gap : List Char} {name : String}
    (hline : line.toList = '@' :: (tag ++ (gap ++ argument.toList)))
    (htag : ∀ c ∈ tag, isBlank c = false) (hname : name ∈ kind.spellings)
    (hcase : tag.map Char.toLower = name.toList.map Char.toLower)
    (hgap : ∀ c ∈ gap, isBlank c = true)
    (hargument : ∀ c ∈ argument.toList.head?, isBlank c = false)
    (hsep : gap = [] → argument = "")

variable {kind : Kind} {argument line : String} {lines : List String} {a : Annotation}

lemma introduces_iff_opens : Introduces kind argument line ↔ Opens kind argument line := by
  constructor
  · rintro ⟨hline, htag, hname, hcase, hgap, hargument, hsep⟩
    refine .intro hline (Kind.ofTag?_eq_some_iff.mpr ⟨_, hname, ?_⟩) htag hgap hargument hsep
    rw [String.toList_ofList]
    exact hcase
  · rintro ⟨hline, hkind, htag, hgap, hargument, hsep⟩
    obtain ⟨name, hname, hcase⟩ := Kind.ofTag?_eq_some_iff.mp hkind
    rw [String.toList_ofList] at hcase
    exact .intro hline htag hname hcase hgap hargument hsep

lemma header?_eq_some_iff (hsingle : '\n' ∉ line.toList) :
    header? line = some (kind, argument) ↔ Introduces kind argument line := by
  rw [introduces_iff_opens]
  constructor
  · exact .of_header?
  · intro h
    exact h.header?_eq hsingle

/-! ### Positions -/

/-- The positions of the lines that introduce an annotation. -/
def openings (lines : List String) : List Nat := lines.findIdxs fun line => (header? line).isSome

/-- Where the annotation before the given one ends: at the line that introduces this one, or with
the lines. -/
def bound (lines : List String) (j : Nat) : Nat := (openings lines)[j]?.getD lines.length

lemma openings_cons (line : String) (lines : List String) :
    openings (line :: lines) =
      if (header? line).isSome then 0 :: (openings lines).map (· + 1)
      else (openings lines).map (· + 1) := by
  rw [openings, List.findIdxs_cons, List.findIdxs_start (s := 0 + 1)]
  rfl

lemma getD_getElem?_map_succ (positions : List Nat) (n j : Nat) :
    (positions.map (· + 1))[j]?.getD (n + 1) = positions[j]?.getD n + 1 := by
  rw [List.getElem?_map]
  cases positions[j]? <;> rfl

lemma bound_cons_of_none (h : header? line = none) (j : Nat) :
    bound (line :: lines) j = bound lines j + 1 := by
  rw [bound, openings_cons, if_neg (by simp [h]), List.length_cons, getD_getElem?_map_succ, bound]

lemma bound_cons_of_some {opened : Kind × String} (h : header? line = some opened) (j : Nat) :
    bound (line :: lines) (j + 1) = bound lines j + 1 := by
  rw [bound, openings_cons, if_pos (by simp [h]), List.length_cons, List.getElem?_cons_succ,
    getD_getElem?_map_succ, bound]

lemma mem_openings_iff (hsingle : ∀ line ∈ lines, '\n' ∉ line.toList) {i : Nat} :
    i ∈ openings lines ↔
      ∃ line kind argument, lines[i]? = some line ∧ Introduces kind argument line := by
  rw [openings, List.mem_findIdxs_iff_exists_getElem_pos]
  constructor
  · rintro ⟨hi, hsome⟩
    obtain ⟨⟨kind, argument⟩, hheader⟩ := Option.isSome_iff_exists.mp hsome
    refine ⟨lines[i], kind, argument, List.getElem?_eq_getElem hi, ?_⟩
    exact (header?_eq_some_iff (hsingle _ (List.getElem_mem hi))).mp hheader
  · rintro ⟨line, kind, argument, hline, hintroduces⟩
    obtain ⟨hi, rfl⟩ := List.getElem?_eq_some_iff.mp hline
    refine ⟨hi, ?_⟩
    rw [(header?_eq_some_iff (hsingle _ (List.getElem_mem hi))).mpr hintroduces]
    rfl

/-! ### Records -/

/-- The body is the lines but for the empty ones at both ends. -/
structure TrimsTo (lines body : List String) : Prop where
  ends : ∃ before after, (∀ line ∈ before, line = "") ∧ (∀ line ∈ after, line = "") ∧
    lines = before ++ body ++ after
  first : body.head? ≠ some ""
  last : body.getLast? ≠ some ""

/-- The annotation is introduced by the line at position `i`, and its body stands in the lines
between this one and position `stop`. -/
structure RecordAt (lines : List String) (i stop : Nat) (a : Annotation) : Prop where
  header : ∃ line, lines[i]? = some line ∧ Introduces a.kind a.argument line
  body : TrimsTo ((lines.take stop).drop (i + 1)) a.body

lemma trimsTo_trimLines (lines : List String) : TrimsTo lines (trimLines lines) where
  ends := by
    obtain ⟨before, after, hbefore, hafter, hlines⟩ := exists_append_trimEnds (· = "") lines
    refine ⟨before, after, ?_, ?_, hlines⟩
    · simpa using hbefore
    · simpa using hafter
  first h := by simpa using head?_trimEnds (· = "") lines "" h
  last h := by simpa using getLast?_trimEnds (· = "") lines "" h

lemma RecordAt.cons {i stop : Nat} (h : RecordAt lines i stop a) (line : String) :
    RecordAt (line :: lines) (i + 1) (stop + 1) a where
  header := by simpa using h.header
  body := by simpa using h.body

/-- The lines that are left over belong to the annotation in front of them. -/
lemma splitTrimmed_fst (lines : List String) :
    (splitTrimmed lines).1 = lines.take (bound lines 0) := by
  induction lines with
  | nil => rfl
  | cons line lines ih =>
    rw [splitTrimmed]
    cases h : header? line with
    | none => rw [bound_cons_of_none h, List.take_succ_cons, ← ih]
    | some opened => simp [bound, openings_cons, h]

lemma length_splitTrimmed (lines : List String) :
    (splitTrimmed lines).2.length = (openings lines).length := by
  induction lines with
  | nil => rfl
  | cons line lines ih =>
    rw [splitTrimmed, openings_cons]
    cases h : header? line <;> simp [ih]

/-- Each annotation is a record from its own position up to the next. -/
lemma recordAt_splitTrimmed {j : Nat} (h : (splitTrimmed lines).2[j]? = some a) :
    ∃ i, (openings lines)[j]? = some i ∧ RecordAt lines i (bound lines (j + 1)) a := by
  induction lines generalizing j with
  | nil => cases h
  | cons line lines ih =>
    rw [splitTrimmed] at h
    cases hheader : header? line with
    | none =>
      rw [hheader] at h
      obtain ⟨i, hi, hrecord⟩ := ih h
      refine ⟨i + 1, ?_, ?_⟩
      · simp [openings_cons, hheader, hi]
      · rw [bound_cons_of_none hheader]
        exact hrecord.cons line
    | some opened =>
      rw [hheader] at h
      cases j with
      | zero =>
        cases h
        refine ⟨0, ?_, ⟨line, rfl, ?_⟩, ?_⟩
        · simp [openings_cons, hheader]
        · exact introduces_iff_opens.mpr (.of_header? hheader)
        · rw [bound_cons_of_some hheader, List.take_succ_cons, List.drop_succ_cons, List.drop_zero,
            splitTrimmed_fst]
          exact trimsTo_trimLines _
      | succ j =>
        obtain ⟨i, hi, hrecord⟩ := ih h
        refine ⟨i + 1, ?_, ?_⟩
        · simp [openings_cons, hheader, hi]
        · rw [bound_cons_of_some hheader]
          exact hrecord.cons line

/-! ### Splitting in parts -/

/-- A line that introduces an annotation separates what is before it from what follows. -/
lemma splitTrimmed_append_header {opened : Kind × String} (h : header? line = some opened)
    (before after : List String) :
    splitTrimmed (before ++ line :: after) =
      ((splitTrimmed before).1, (splitTrimmed before).2 ++ (splitTrimmed (line :: after)).2) := by
  induction before with
  | nil => simp [splitTrimmed, h]
  | cons first before ih =>
    generalize splitTrimmed (line :: after) = tail at ih ⊢
    rw [List.cons_append, splitTrimmed, ih, splitTrimmed]
    cases header? first <;> rfl

/-- The annotations in a list of lines are the records between the lines that introduce an
annotation, in their order. The lines before the first one do not count, and at each of them the
list can be cut in two. -/
theorem split_records (hsingle : ∀ line ∈ lines, '\n' ∉ line.toList) :
    (∃ positions : List Nat, positions.Pairwise (· < ·) ∧
      (∀ i, i ∈ positions ↔ ∃ line kind argument,
        (lines.map trim)[i]? = some line ∧ Introduces kind argument line) ∧
      (split lines).length = positions.length ∧
      ∀ j a, (split lines)[j]? = some a → ∃ i, positions[j]? = some i ∧
        RecordAt (lines.map trim) i (positions[j + 1]?.getD lines.length) a) ∧
    (∀ before after, lines = before ++ after →
      (∀ line ∈ before, ∀ kind argument, ¬Introduces kind argument (trim line)) →
      split lines = split after) ∧
    ∀ before header after kind argument, lines = before ++ header :: after →
      Introduces kind argument (trim header) →
      split lines = split before ++ split (header :: after) := by
  have htrimmed : ∀ line ∈ lines.map trim, '\n' ∉ line.toList := by
    intro line hline
    obtain ⟨raw, hraw, rfl⟩ := List.mem_map.mp hline
    exact (tidy_trim (hsingle raw hraw)).single
  refine ⟨⟨openings (lines.map trim), List.pairwise_findIdxs, ?_, ?_, ?_⟩, ?_, ?_⟩
  · intro i
    exact mem_openings_iff htrimmed
  · exact length_splitTrimmed (lines.map trim)
  · intro j a h
    obtain ⟨i, hi, hrecord⟩ := recordAt_splitTrimmed h
    rw [bound, List.length_map] at hrecord
    exact ⟨i, hi, hrecord⟩
  · rintro before after rfl hplain
    have hheaders : ∀ line ∈ before.map trim, header? line = none := by
      intro line hline
      obtain ⟨raw, hraw, rfl⟩ := List.mem_map.mp hline
      have hmem : trim raw ∈ (before ++ after).map trim :=
        List.mem_map_of_mem (List.mem_append_left after hraw)
      rw [header?_eq_none_iff (htrimmed _ hmem)]
      intro kind argument hopens
      exact hplain raw hraw kind argument (introduces_iff_opens.mpr hopens)
    rw [split, List.map_append, splitTrimmed_append hheaders, split]
  · rintro before header after kind argument rfl hintroduces
    have hheader := (header?_eq_some_iff (htrimmed _ (by simp))).mpr hintroduces
    rw [split, List.map_append, List.map_cons, splitTrimmed_append_header hheader, split, split,
      List.map_cons]

/-- A requirement with an empty line and two tags that are none in its body, between other lines. -/
def keyLines : List String :=
  ["Users.", " @security  key a ", "", "@ok", "\t", "@ID:", "", "@id"]

/-- The lines are cut into the requirement and an ID. -/
theorem split_records_keyLines :
    (∀ line ∈ keyLines, '\n' ∉ line.toList) ∧
      (∃ positions : List Nat, positions.length = 2 ∧ ∃ i, positions[0]? = some i ∧
        RecordAt (keyLines.map trim) i (positions[1]?.getD keyLines.length)
          { kind := .securityRequirement, argument := "key a", body := ["@ok", "", "@ID:"] }) ∧
      split keyLines = split (keyLines.drop 1) ∧
      split keyLines = split (keyLines.take 7) ++ split ["@id"] := by
  have hsingle : ∀ line ∈ keyLines, '\n' ∉ line.toList := by decide
  have hfirst : (split keyLines)[0]? =
      some { kind := .securityRequirement, argument := "key a", body := ["@ok", "", "@ID:"] } := by
    decide
  have hplain : header? (trim "Users.") = none := by decide
  have hid : header? (trim "@id") = some (.id, "") := by decide
  obtain ⟨⟨positions, -, -, hlength, hrecords⟩, hdrop, hcut⟩ := split_records hsingle
  refine ⟨hsingle, ⟨positions, ?_, hrecords 0 _ hfirst⟩, ?_, ?_⟩
  · rw [← hlength]
    decide
  · apply hdrop ["Users."] _ rfl
    intro line hline kind argument hintroduces
    rw [List.mem_singleton.mp hline, ← header?_eq_some_iff (by decide), hplain] at hintroduces
    cases hintroduces
  · exact hcut _ "@id" [] .id "" rfl ((header?_eq_some_iff (by decide)).mp hid)

end ApiScribe.Annotation
