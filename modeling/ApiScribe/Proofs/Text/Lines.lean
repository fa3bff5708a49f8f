import ApiScribe.Proofs.Text.Words

/-!
# Tidy texts, phrases and lines

A tidy text stands on one line and has no blanks at its ends. Tidy texts can be joined to a phrase
with spaces, which is tidy, and to several lines with newlines, which are the lines of the result.
-/

namespace ApiScribe.Text

variable {s t : String}

/-! ### Tidy texts -/

/-- A text on one line without blanks at its ends. -/
structure Tidy (s : String) : Prop where
  trimmed : trim s = s
  single : '\n' ∉ s.toList

instance : DecidablePred Tidy := fun s =>
  decidable_of_iff (trim s = s ∧ '\n' ∉ s.toList)
    ⟨fun h => ⟨h.1, h.2⟩, fun h => ⟨h.trimmed, h.single⟩⟩

lemma dropWhile_isBlank_eq_self_iff {cs : List Char} :
    cs.dropWhile isBlank = cs ↔ ∀ c ∈ cs.head?, isBlank c = false := by
  cases cs with
  | nil => simp
  | cons c cs =>
    simp only [List.dropWhile_cons, List.head?_cons, Option.mem_some_iff, forall_eq']
    cases hc : isBlank c with
    | false => simp
    | true =>
      simp only [if_true, Bool.true_eq_false, iff_false]
      intro h
      have hlength := (List.dropWhile_suffix isBlank (l := cs)).length_le
      rw [h, List.length_cons] at hlength
      omega

lemma trimEndChars_eq_self_iff {cs : List Char} :
    trimEndChars cs = cs ↔ ∀ c ∈ cs.getLast?, isBlank c = false := by
  rw [trimEndChars, List.reverse_eq_iff, dropWhile_isBlank_eq_self_iff, List.head?_reverse]

lemma trimChars_eq_self_iff {cs : List Char} :
    trimChars cs = cs ↔
      (∀ c ∈ cs.head?, isBlank c = false) ∧ ∀ c ∈ cs.getLast?, isBlank c = false := by
  rw [← dropWhile_isBlank_eq_self_iff, ← trimEndChars_eq_self_iff]
  constructor
  · intro h
    -- trimming the end cannot make up for what is trimmed at the start
    have hend : (trimChars cs).length ≤ (trimStartChars cs).length := by
      rw [trimChars, trimEndChars, List.length_reverse]
      exact (List.dropWhile_suffix isBlank).length_le.trans (List.length_reverse ..).le
    have hstart : trimStartChars cs = cs :=
      (List.dropWhile_suffix isBlank).eq_of_length_le (by rwa [h] at hend)
    refine ⟨hstart, ?_⟩
    rwa [trimChars, hstart] at h
  · rintro ⟨hstart, hend⟩
    rw [trimChars, trimStartChars, hstart, hend]

lemma tidy_iff :
    Tidy s ↔ ((∀ c ∈ s.toList.head?, isBlank c = false) ∧
      ∀ c ∈ s.toList.getLast?, isBlank c = false) ∧ '\n' ∉ s.toList := by
  rw [← trimChars_eq_self_iff]
  constructor
  · rintro ⟨htrimmed, hsingle⟩
    refine ⟨?_, hsingle⟩
    rw [← String.toList_ofList (l := trimChars s.toList)]
    exact congrArg String.toList htrimmed
  · rintro ⟨htrimmed, hsingle⟩
    refine ⟨?_, hsingle⟩
    rw [trim, htrimmed, String.ofList_toList]

lemma Tidy.head (h : Tidy s) : ∀ c ∈ s.toList.head?, isBlank c = false := (tidy_iff.mp h).1.1

lemma Tidy.last (h : Tidy s) : ∀ c ∈ s.toList.getLast?, isBlank c = false := (tidy_iff.mp h).1.2

lemma tidy_empty : Tidy "" := ⟨rfl, List.not_mem_nil⟩

lemma Bare.tidy (h : Bare s) : Tidy s := by
  refine tidy_iff.mpr ⟨⟨?_, ?_⟩, ?_⟩
  · exact fun c hc => h.not_blank c (List.mem_of_mem_head? hc)
  · exact fun c hc => h.not_blank c (List.mem_of_mem_getLast? hc)
  · exact fun hmem => absurd (h.not_blank '\n' hmem) (by decide)

lemma Tidy.join (hs : Tidy s) (hs' : s ≠ "") (ht : Tidy t) (ht' : t ≠ "") :
    Tidy (s ++ " " ++ t) := by
  have hchars : (s ++ " " ++ t).toList = s.toList ++ ' ' :: t.toList := by simp
  obtain ⟨c, cs, hcs⟩ := List.exists_cons_of_ne_nil (mt String.toList_eq_nil_iff.mp hs')
  obtain ⟨ds, d, hds⟩ := List.eq_nil_or_concat t.toList |>.resolve_left
    (mt String.toList_eq_nil_iff.mp ht')
  rw [tidy_iff, hchars]
  refine ⟨⟨?_, ?_⟩, ?_⟩
  · have hhead := hs.head
    rw [hcs] at hhead ⊢
    exact hhead
  · have hlast := ht.last
    rw [hds] at hlast ⊢
    simpa [List.getLast?_cons] using hlast
  · simpa using ⟨hs.single, ht.single⟩

/-! ### Phrases -/

@[simp] lemma isBlank_space : isBlank ' ' = true := by decide

/-- Texts with single spaces between them. -/
def phrase (parts : List String) : String := " ".intercalate parts

lemma phrase_cons_cons (s t : String) (parts : List String) :
    phrase (s :: t :: parts) = s ++ " " ++ phrase (t :: parts) :=
  String.intercalate_cons_cons

lemma phrase_ne_empty {parts : List String} (hs : s ≠ "") : phrase (s :: parts) ≠ "" := by
  cases parts with
  | nil => rwa [phrase, String.intercalate_singleton]
  | cons t parts =>
    rw [phrase_cons_cons]
    simp

lemma tidy_phrase {parts : List String} (h : ∀ part ∈ parts, Tidy part ∧ part ≠ "") :
    Tidy (phrase parts) := by
  induction parts with
  | nil => exact tidy_empty
  | cons s parts ih =>
    obtain ⟨⟨htidy, hne⟩, hparts⟩ := List.forall_mem_cons.mp h
    cases parts with
    | nil => rwa [phrase, String.intercalate_singleton]
    | cons t parts =>
      rw [phrase_cons_cons]
      exact htidy.join hne (ih hparts) (phrase_ne_empty (hparts t List.mem_cons_self).2)

lemma tidy_phrase_of_bare {parts : List String} (h : ∀ part ∈ parts, Bare part) :
    Tidy (phrase parts) :=
  tidy_phrase fun part hpart => ⟨(h part hpart).tidy, (h part hpart).ne_empty⟩

/-- The characters after the first part of a phrase. -/
def partChars (parts : List String) : List Char := parts.flatMap fun part => ' ' :: part.toList

lemma toList_phrase_cons (s : String) (parts : List String) :
    (phrase (s :: parts)).toList = s.toList ++ partChars parts := by
  induction parts generalizing s with
  | nil => simp [phrase, partChars]
  | cons t parts ih =>
    rw [phrase_cons_cons, String.toList_append, String.toList_append, ih]
    simp [partChars]

/-! ### Words of a phrase -/

lemma wordChars_of_not_blank {cs : List Char} (hne : cs ≠ []) (h : ∀ c ∈ cs, isBlank c = false) :
    wordChars cs = [cs] := by
  induction cs with
  | nil => exact absurd rfl hne
  | cons c cs ih =>
    obtain ⟨hc, hcs⟩ := List.forall_mem_cons.mp h
    cases cs with
    | nil => simp [wordChars, hc]
    | cons d cs =>
      have hd := hcs d List.mem_cons_self
      rw [wordChars, if_neg (by simp [hc]), if_neg (by simp [hd]), ih (List.cons_ne_nil d cs) hcs]
      rfl

lemma wordChars_append_blank {cs rest : List Char} {b : Char} (hne : cs ≠ [])
    (h : ∀ c ∈ cs, isBlank c = false) (hb : isBlank b) :
    wordChars (cs ++ b :: rest) = cs :: wordChars (b :: rest) := by
  induction cs with
  | nil => exact absurd rfl hne
  | cons c cs ih =>
    obtain ⟨hc, hcs⟩ := List.forall_mem_cons.mp h
    cases cs with
    | nil =>
      rw [List.singleton_append, wordChars, if_neg (by simp [hc]), if_pos hb]
    | cons d cs =>
      have hd := hcs d List.mem_cons_self
      have ih' := ih (List.cons_ne_nil d cs) hcs
      rw [List.cons_append] at ih'
      rw [List.cons_append, List.cons_append, wordChars, if_neg (by simp [hc]),
        if_neg (by simp [hd]), ih']
      rfl

lemma wordChars_blank {b : Char} (hb : isBlank b) (cs : List Char) :
    wordChars (b :: cs) = wordChars cs := by
  cases cs with
  | nil => simp [wordChars, hb]
  | cons c cs => rw [wordChars, if_pos hb]

lemma words_phrase {parts : List String} (h : ∀ part ∈ parts, Bare part) :
    words (phrase parts) = parts := by
  induction parts with
  | nil => rfl
  | cons s parts ih =>
    obtain ⟨hs, hparts⟩ := List.forall_mem_cons.mp h
    have hne := mt String.toList_eq_nil_iff.mp hs.ne_empty
    rw [words, toList_phrase_cons]
    cases parts with
    | nil => simp [partChars, wordChars_of_not_blank hne hs.not_blank]
    | cons t parts =>
      have hspace : partChars (t :: parts) = ' ' :: (phrase (t :: parts)).toList := by
        rw [toList_phrase_cons]
        rfl
      rw [hspace, wordChars_append_blank hne hs.not_blank rfl, wordChars_blank rfl, List.map_cons,
        String.ofList_toList]
      exact congrArg (s :: ·) (ih hparts)

/-! ### Trimming at both ends -/

section BothEnds

variable {α : Type} (p : α → Bool) (xs : List α)

/-- A list without the elements at its ends that have a property. -/
def trimEnds : List α := ((xs.dropWhile p).reverse.dropWhile p).reverse

lemma head?_dropWhile : ∀ x ∈ (xs.dropWhile p).head?, p x = false := by
  intro x hx
  have h := List.head?_dropWhile_not p xs
  rwa [Option.mem_def.mp hx] at h

lemma trimEnds_isPrefix : trimEnds p xs <+: xs.dropWhile p := by
  rw [← List.reverse_suffix, trimEnds, List.reverse_reverse]
  exact List.dropWhile_suffix p

lemma trimEnds_sublist : (trimEnds p xs).Sublist xs :=
  (trimEnds_isPrefix p xs).sublist.trans (List.dropWhile_sublist p)

/-- What is dropped has the property. -/
lemma exists_append_trimEnds :
    ∃ before after, (∀ x ∈ before, p x) ∧ (∀ x ∈ after, p x) ∧
      xs = before ++ trimEnds p xs ++ after := by
  have hafter := List.takeWhile_append_dropWhile (p := p) (l := (xs.dropWhile p).reverse)
  refine ⟨xs.takeWhile p, ((xs.dropWhile p).reverse.takeWhile p).reverse, ?_, ?_, ?_⟩
  · exact List.all_eq_true.mp List.all_takeWhile
  · intro x hx
    exact List.all_eq_true.mp List.all_takeWhile x (List.mem_reverse.mp hx)
  · rw [trimEnds, List.append_assoc, ← List.reverse_append, hafter, List.reverse_reverse,
      List.takeWhile_append_dropWhile]

lemma head?_trimEnds : ∀ x ∈ (trimEnds p xs).head?, p x = false := by
  intro x hx
  obtain ⟨rest, hrest⟩ := trimEnds_isPrefix p xs
  apply head?_dropWhile p xs
  rw [← hrest, List.head?_append, Option.mem_def.mp hx]
  rfl

lemma getLast?_trimEnds : ∀ x ∈ (trimEnds p xs).getLast?, p x = false := by
  rw [trimEnds, List.getLast?_reverse]
  exact head?_dropWhile p _

lemma trimEnds_concat {x : α} (hx : p x) : trimEnds p (xs ++ [x]) = trimEnds p xs := by
  rw [trimEnds, trimEnds, List.dropWhile_append]
  split_ifs with hempty
  · rw [List.isEmpty_iff.mp hempty]
    simp [hx]
  · simp [hx]

/-- Elements that add nothing can be dropped. -/
lemma flatMap_trimEnds {β : Type} {f : α → List β} (hf : ∀ x, p x → f x = []) :
    (trimEnds p xs).flatMap f = xs.flatMap f := by
  have hnil {ys : List α} (hys : ∀ y ∈ ys, p y) : ys.flatMap f = [] :=
    List.flatMap_eq_nil_iff.mpr fun y hy => hf y (hys y hy)
  obtain ⟨before, after, hbefore, hafter, hxs⟩ := exists_append_trimEnds p xs
  conv_rhs => rw [hxs, List.flatMap_append, List.flatMap_append, hnil hbefore, hnil hafter]
  simp

end BothEnds

/-! ### Lines -/

/-- A line without the carriage return at its end. -/
def chomp (line : List Char) : List Char :=
  if line.getLast? = some '\r' then line.dropLast else line

lemma chomp_cons_cons (c d : Char) (cs : List Char) :
    chomp (c :: d :: cs) = c :: chomp (d :: cs) := by
  rw [chomp, chomp, List.getLast?_cons_cons]
  split_ifs <;> rfl

/-- The end of a line that is not the last. -/
lemma lineChars_newline {line : List Char} (h : '\n' ∉ line) (rest : List Char) :
    lineChars (line ++ '\n' :: rest) = chomp line :: lineChars rest := by
  induction line with
  | nil => rfl
  | cons c cs ih =>
    obtain ⟨hc, hcs⟩ := not_or.mp (mt List.mem_cons.mpr h)
    cases cs with
    | nil =>
      by_cases hreturn : c = '\r'
      · subst hreturn
        rfl
      · have hchomp : chomp [c] = [c] := by simp [chomp, hreturn]
        rw [hchomp, List.singleton_append, lineChars]
        · rfl
        · exact Ne.symm hc
        · exact fun _ h => absurd h hreturn
    | cons d cs =>
      have hd := (not_or.mp (mt List.mem_cons.mpr hcs)).1
      rw [chomp_cons_cons, List.cons_append, lineChars, ih hcs]
      · rfl
      · exact Ne.symm hc
      · rintro _ _ h
        injection h with h
        exact hd h.symm

lemma lineChars_of_notMem {line : List Char} (hne : line ≠ []) (h : '\n' ∉ line) :
    lineChars line = [line] := by
  induction line with
  | nil => exact absurd rfl hne
  | cons c cs ih =>
    obtain ⟨hc, hcs⟩ := not_or.mp (mt List.mem_cons.mpr h)
    rw [lineChars]
    · cases cs with
      | nil => rfl
      | cons d cs => rw [ih (List.cons_ne_nil d cs) hcs]; rfl
    · exact Ne.symm hc
    · rintro cs' _ rfl
      exact hcs List.mem_cons_self

lemma trimChars_append_blank {b : Char} (hb : isBlank b) (cs : List Char) :
    trimChars (cs ++ [b]) = trimChars cs :=
  trimEnds_concat isBlank cs hb

lemma trimChars_chomp (line : List Char) : trimChars (chomp line) = trimChars line := by
  rw [chomp]
  split_ifs with hlast
  · obtain ⟨cs, rfl⟩ := List.getLast?_eq_some_iff.mp hlast
    rw [List.dropLast_concat, trimChars_append_blank rfl]
  · rfl

lemma Tidy.chomp_eq (h : Tidy s) : chomp s.toList = s.toList := by
  rw [chomp, if_neg]
  intro hlast
  exact absurd (h.last '\r' hlast) (by decide)

lemma toList_intercalate_cons_cons (l l' : String) (ls : List String) :
    ("\n".intercalate (l :: l' :: ls)).toList =
      l.toList ++ '\n' :: ("\n".intercalate (l' :: ls)).toList := by
  rw [String.intercalate_cons_cons, String.toList_append, String.toList_append]
  simp

/-- What does not depend on carriage returns at the ends of lines can be read off the lines of a
text that is joined from lines, except for an empty last line. -/
lemma map_lines_intercalate_append {β : Type} {f : String → β} {ls : List String}
    (hsingle : ∀ l ∈ ls, '\n' ∉ l.toList) (hf : ∀ l ∈ ls, f (.ofList (chomp l.toList)) = f l) :
    (lines ("\n".intercalate ls)).map f ++ (if ls.getLast? = some "" then [f ""] else []) =
      ls.map f := by
  induction ls with
  | nil => rfl
  | cons l ls ih =>
    obtain ⟨hl, hls⟩ := List.forall_mem_cons.mp hsingle
    obtain ⟨hfl, hfls⟩ := List.forall_mem_cons.mp hf
    cases ls with
    | nil =>
      by_cases hempty : l = ""
      · subst hempty
        rfl
      · have hne : l.toList ≠ [] := mt String.toList_eq_nil_iff.mp hempty
        rw [String.intercalate_singleton, lines, lineChars_of_notMem hne hl, if_neg (by simpa)]
        simp
    | cons l' ls =>
      rw [List.getLast?_cons_cons, lines, toList_intercalate_cons_cons, lineChars_newline hl,
        List.map_cons, List.map_cons, List.map_cons, List.cons_append, hfl]
      exact congrArg (f l :: ·) (ih hls hfls)

lemma map_lines_intercalate {β : Type} {f : String → β} {ls : List String}
    (hsingle : ∀ l ∈ ls, '\n' ∉ l.toList) (hf : ∀ l ∈ ls, f (.ofList (chomp l.toList)) = f l)
    (hlast : ls.getLast? ≠ some "") : (lines ("\n".intercalate ls)).map f = ls.map f := by
  rw [← map_lines_intercalate_append hsingle hf, if_neg hlast, List.append_nil]

lemma trim_chomp (l : String) : trim (.ofList (chomp l.toList)) = trim l := by
  rw [trim, trim, String.toList_ofList, trimChars_chomp]

lemma map_trim_lines_intercalate {ls : List String} (hsingle : ∀ l ∈ ls, '\n' ∉ l.toList)
    (hlast : ls.getLast? ≠ some "") : (lines ("\n".intercalate ls)).map trim = ls.map trim :=
  map_lines_intercalate hsingle (fun l _ => trim_chomp l) hlast

lemma lines_intercalate {ls : List String} (h : ∀ l ∈ ls, Tidy l) (hlast : ls.getLast? ≠ some "") :
    lines ("\n".intercalate ls) = ls := by
  have hmap := map_lines_intercalate (f := id) (fun l hl => (h l hl).single)
    (fun l hl => by rw [(h l hl).chomp_eq, String.ofList_toList]) hlast
  rwa [List.map_id, List.map_id] at hmap

lemma notMem_of_mem_lineChars {cs line : List Char} (h : line ∈ lineChars cs) : '\n' ∉ line := by
  fun_induction lineChars cs generalizing line with
  | case1 => cases h
  | case2 cs ih =>
    rcases List.mem_cons.mp h with rfl | h
    · exact List.not_mem_nil
    · exact ih h
  | case3 cs ih =>
    rcases List.mem_cons.mp h with rfl | h
    · exact List.not_mem_nil
    · exact ih h
  | case4 c cs hc _ ih =>
    have hne : '\n' ≠ c := fun heq => hc heq.symm
    cases hlines : lineChars cs with
    | nil =>
      rw [hlines] at h
      rw [List.mem_singleton.mp h]
      simpa using hne
    | cons first others =>
      rw [hlines] at h ih
      rcases List.mem_cons.mp h with rfl | h
      · exact fun hmem => (List.mem_cons.mp hmem).elim hne (ih List.mem_cons_self)
      · exact ih (List.mem_cons_of_mem _ h)

lemma notMem_of_mem_lines {text line : String} (h : line ∈ lines text) : '\n' ∉ line.toList := by
  obtain ⟨cs, hcs, rfl⟩ := List.mem_map.mp h
  rw [String.toList_ofList]
  exact notMem_of_mem_lineChars hcs

lemma tidy_trim (h : '\n' ∉ s.toList) : Tidy (trim s) := by
  rw [tidy_iff, trim, String.toList_ofList]
  refine ⟨⟨head?_trimEnds isBlank _, getLast?_trimEnds isBlank _⟩, fun hmem => h ?_⟩
  exact (trimEnds_sublist isBlank s.toList).subset hmem

/-! ### Blanks around a text -/

/-- The text with blanks around it that stand on the same line. -/
def Padded (s padded : String) : Prop :=
  ∃ before after : List Char, (∀ c ∈ before, isBlank c ∧ c ≠ '\n') ∧
    (∀ c ∈ after, isBlank c ∧ c ≠ '\n') ∧ padded.toList = before ++ s.toList ++ after

lemma trimChars_append_blanks {blanks : List Char} (h : ∀ c ∈ blanks, isBlank c) (cs : List Char) :
    trimChars (cs ++ blanks) = trimChars cs := by
  induction blanks generalizing cs with
  | nil => rw [List.append_nil]
  | cons b blanks ih =>
    obtain ⟨hb, hblanks⟩ := List.forall_mem_cons.mp h
    rw [List.append_cons, ih hblanks, trimChars_append_blank hb]

lemma Padded.trim_eq {padded : String} (h : Padded s padded) : trim padded = trim s := by
  obtain ⟨before, after, hbefore, hafter, hpadded⟩ := h
  have hstart : trimChars (before ++ s.toList) = trimChars s.toList := by
    rw [trimChars, trimStartChars, List.dropWhile_append_of_pos fun c hc => (hbefore c hc).1]
    rfl
  rw [trim, hpadded, trimChars_append_blanks fun c hc => (hafter c hc).1, hstart, trim]

lemma Padded.single {padded : String} (h : Padded s padded) (hs : '\n' ∉ s.toList) :
    '\n' ∉ padded.toList := by
  obtain ⟨before, after, hbefore, hafter, hpadded⟩ := h
  rw [hpadded]
  intro hmem
  rcases List.mem_append.mp hmem with hmem | hmem
  · rcases List.mem_append.mp hmem with hmem | hmem
    · exact (hbefore _ hmem).2 rfl
    · exact hs hmem
  · exact (hafter _ hmem).2 rfl

lemma map_trim_eq_of_padded {ls padded : List String} (h : List.Forall₂ Padded ls padded)
    (hls : ∀ l ∈ ls, '\n' ∉ l.toList) :
    padded.map trim = ls.map trim ∧ ∀ l ∈ padded, '\n' ∉ l.toList := by
  induction h with
  | nil => exact ⟨rfl, List.forall_mem_nil _⟩
  | cons hpadded _ ih =>
    obtain ⟨hl, hrest⟩ := List.forall_mem_cons.mp hls
    obtain ⟨htrim, hsingle⟩ := ih hrest
    refine ⟨?_, List.forall_mem_cons.mpr ⟨hpadded.single hl, hsingle⟩⟩
    rw [List.map_cons, List.map_cons, hpadded.trim_eq, htrim]

lemma map_trim_of_padded {ls padded : List String} (h : List.Forall₂ Padded ls padded)
    (hls : ∀ l ∈ ls, Tidy l) : padded.map trim = ls ∧ ∀ l ∈ padded, '\n' ∉ l.toList := by
  obtain ⟨htrim, hsingle⟩ := map_trim_eq_of_padded h fun l hl => (hls l hl).single
  refine ⟨htrim.trans ?_, hsingle⟩
  exact (List.map_congr_left fun l hl => (hls l hl).trimmed).trans (List.map_id ls)

/-! ### Blanks around the lines of a text -/

/-- The pieces of a text between its newlines. -/
def rows (s : String) : List String := (s.toList.splitOn '\n').map .ofList

lemma intercalate_rows (s : String) : "\n".intercalate (rows s) = s := by
  have hid : String.toList ∘ String.ofList = id := funext fun _ => String.toList_ofList
  rw [← String.toList_inj, String.toList_intercalate, rows, List.map_map, hid, List.map_id]
  exact List.intercalate_splitOn '\n'

lemma rows_ne_nil (s : String) : rows s ≠ [] := by simp [rows]

lemma notMem_of_mem_splitOn {cs row : List Char} (h : row ∈ cs.splitOn '\n') : '\n' ∉ row := by
  induction cs generalizing row with
  | nil => simp_all
  | cons c cs ih =>
    rw [List.splitOn_cons_eq_if_modifyHead] at h
    split_ifs at h with hc
    · rcases List.mem_cons.mp h with rfl | h
      · exact List.not_mem_nil
      · exact ih h
    · cases hrows : cs.splitOn '\n' with
      | nil => simp [hrows] at h
      | cons first rest =>
        rw [hrows, List.modifyHead_cons] at h
        rw [hrows] at ih
        rcases List.mem_cons.mp h with rfl | h
        · rw [List.mem_cons, not_or]
          exact ⟨fun heq => hc (by simpa using heq.symm), ih List.mem_cons_self⟩
        · exact ih (List.mem_cons_of_mem _ h)

lemma notMem_of_mem_rows {s l : String} (h : l ∈ rows s) : '\n' ∉ l.toList := by
  obtain ⟨row, hrow, rfl⟩ := List.mem_map.mp h
  rw [String.toList_ofList]
  exact notMem_of_mem_splitOn hrow

/-- The text with blanks around its lines. -/
def Relaid (s laid : String) : Prop := List.Forall₂ Padded (rows s) (rows laid)

end ApiScribe.Text
