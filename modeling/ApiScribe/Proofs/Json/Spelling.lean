import ApiScribe.Proofs.Json.Scanning

/-!
# Texts and the tokens they spell

A text without faults spells its tokens: words with blanks around them. Such a text can be cut at
its newlines and joined again, and the blanks at the ends of its lines can be dropped, without a
change to the tokens.
-/

namespace ApiScribe.Json.Token

open Text

variable {cs cs' rest rest' : List Char} {ts ts' : List Token} {b : Char}

/-- The characters are the words of the tokens, with blanks around them. -/
inductive Spells : List Char → List Token → Prop
  | nil : Spells [] []
  | space {c : Char} {cs : List Char} {ts : List Token} (hc : isSpace c) (h : Spells cs ts) :
    Spells (c :: cs) ts
  | word {word rest : List Char} {token : Token} {ts : List Token} (hword : Word word token rest)
    (h : Spells rest ts) : Spells (word ++ rest) (token :: ts)

/-! ### Spelling and cutting into tokens -/

/-- A text whose tokens are sound spells them. -/
lemma spells_of_lex {p : Position} (h : ∀ t ∈ lex p cs, t.token.Sound) :
    Spells cs ((lex p cs).map (·.token)) := by
  fun_induction lex p cs with
  | case1 => exact .nil
  | case2 p c cs hc ih => exact .space hc (ih h)
  | case3 p c cs hc next ih =>
    obtain ⟨hfirst, hrest⟩ := List.forall_mem_cons.mp h
    obtain ⟨word, hcs, hword⟩ := word_of_scan hfirst
    rw [hcs]
    exact .word hword (ih hrest)

/-- A text is cut into the tokens that it spells. -/
lemma Spells.lexes (h : Spells cs ts) : Lexes cs ts [] := by
  induction h with
  | nil => exact .nil []
  | space hc _ ih => exact Lexes.append (.space hc _) ih
  | word hword _ ih =>
    refine Lexes.append (hword.lexes _ ?_) ih
    rw [List.append_nil]
    exact .refl _

lemma Spells.map_lex (h : Spells cs ts) (p : Position) : (lex p cs).map (·.token) = ts := by
  obtain ⟨located, q, hlex, htokens⟩ := h.lexes p
  rw [List.append_nil] at hlex
  rw [hlex, lex, List.append_nil, htokens]

lemma Spells.eq_nil (h : Spells [] ts) : ts = [] := by
  rw [← h.map_lex {}, lex, List.map_nil]

/-! ### Blanks -/

lemma ends_of_blank (hb : isBlank b) (rest : List Char) : Ends (b :: rest) := by
  rintro c ⟨⟩
  refine ⟨?_, ?_, ?_, ?_⟩
  · cases hdigit : b.isDigit with
    | false => rfl
    | true => exact absurd hb (by simp [isBlank_of_isDigit hdigit])
  all_goals
    rintro rfl
    exact absurd hb (by decide)

/-- A number cannot tell whether the text ends or goes on with a blank. -/
lemma alike_append_blank (hb : isBlank b) :
    Alike (rest ++ b :: cs) rest' ↔ Alike rest rest' := by
  cases rest with
  | cons c rest => exact Iff.rfl
  | nil =>
    constructor
    · rintro (hhead | hends)
      · obtain ⟨cs', rfl⟩ := List.head?_eq_some_iff.mp hhead
        exact .inr (ends_of_blank hb cs')
      · exact .inr hends
    · rintro (hhead | hends)
      · refine .inr fun c hc => ?_
        rw [hhead] at hc
        cases hc
      · exact .inr hends

lemma Word.append_blank_iff {word : List Char} {token : Token} (hb : isBlank b) :
    Word word token (rest ++ b :: cs) ↔ Word word token rest := by
  constructor
  · rintro ⟨hnewline, hhead, hlast, hlexes⟩
    exact ⟨hnewline, hhead, hlast, fun rest' h => hlexes rest' ((alike_append_blank hb).mpr h)⟩
  · rintro ⟨hnewline, hhead, hlast, hlexes⟩
    exact ⟨hnewline, hhead, hlast, fun rest' h => hlexes rest' ((alike_append_blank hb).mp h)⟩

/-- Texts with a blank between them. -/
lemma Spells.join (h : Spells cs ts) (hb : isSpace b) (h' : Spells cs' ts') :
    Spells (cs ++ b :: cs') (ts ++ ts') := by
  induction h with
  | nil => exact .space hb h'
  | space hc _ ih => exact .space hc ih
  | word hword _ ih =>
    rw [List.append_assoc]
    exact .word ((Word.append_blank_iff (isBlank_of_isSpace hb)).mpr hword) ih

/-- A word does not reach over a newline, or into the blanks at the end of the text. -/
lemma Word.rest_of_append_eq {word : List Char} {token : Token} (h : Word word token rest)
    (hb : isBlank b) (hbreak : b = '\n' ∨ ∀ c ∈ cs', isBlank c)
    (heq : word ++ rest = cs ++ b :: cs') :
    ∃ before, cs = word ++ before ∧ rest = before ++ b :: cs' := by
  rcases List.append_eq_append_iff.mp heq with ⟨before, rfl, hrest⟩ | ⟨excess, hword, hrest⟩
  · exact ⟨before, rfl, hrest⟩
  · cases excess with
    | nil => exact ⟨[], by simpa using hword.symm, hrest.symm⟩
    | cons d excess =>
      obtain rfl : b = d := (List.cons.inj hrest).1
      exfalso
      rcases hbreak with rfl | hblanks
      · exact h.newline_notMem (by simp [hword])
      · obtain ⟨c, hc, hblank⟩ := h.last
        rw [hword, List.getLast?_append_cons] at hc
        have hmem : c ∈ b :: cs' := by
          rw [hrest]
          exact List.mem_append_left _ (List.mem_of_getLast? hc)
        have hblank' : isBlank c := by
          rcases List.mem_cons.mp hmem with rfl | hmem
          · exact hb
          · exact hblanks c hmem
        rw [hblank'] at hblank
        cases hblank

/-- A text can be cut at a newline, and before the blanks at its end. -/
lemma Spells.cut (h : Spells (cs ++ b :: cs') ts) (hb : isBlank b)
    (hbreak : b = '\n' ∨ ∀ c ∈ cs', isBlank c) :
    ∃ front back, ts = front ++ back ∧ Spells cs front ∧ Spells cs' back := by
  generalize htext : cs ++ b :: cs' = text at h
  induction h generalizing cs with
  | nil => simp at htext
  | space hc h ih =>
    cases cs with
    | nil =>
      obtain ⟨rfl, rfl⟩ := List.cons.inj htext
      exact ⟨[], _, rfl, .nil, h⟩
    | cons d cs =>
      obtain ⟨rfl, hrest⟩ := List.cons.inj htext
      obtain ⟨front, back, rfl, hfront, hback⟩ := ih hrest
      exact ⟨front, back, rfl, .space hc hfront, hback⟩
  | word hword h ih =>
    obtain ⟨before, rfl, rfl⟩ := hword.rest_of_append_eq hb hbreak htext.symm
    obtain ⟨front, back, rfl, hfront, hback⟩ := ih rfl
    exact ⟨_ :: front, back, rfl, .word ((Word.append_blank_iff hb).mp hword) hfront, hback⟩

/-! ### Ends of a text -/

/-- The first character of a text is a blank or starts a word. -/
lemma Spells.of_cons {c : Char} (h : Spells (c :: cs) ts) :
    c ≠ '@' ∧ (isBlank c → Spells cs ts) := by
  generalize htext : c :: cs = text at h
  cases h with
  | nil => cases htext
  | space hc h =>
    obtain ⟨rfl, rfl⟩ := List.cons.inj htext
    refine ⟨?_, fun _ => h⟩
    rintro rfl
    exact absurd hc (by decide)
  | word hword h =>
    obtain ⟨d, hd, hblank, hat⟩ := hword.head
    obtain ⟨word, rfl⟩ := List.head?_eq_some_iff.mp hd
    obtain ⟨rfl, -⟩ := List.cons.inj htext
    exact ⟨hat, fun hc => absurd hc (by simp [hblank])⟩

lemma Spells.of_blanks_append {blanks : List Char} (h : Spells (blanks ++ cs) ts)
    (hblanks : ∀ c ∈ blanks, isBlank c) : Spells cs ts := by
  induction blanks with
  | nil => exact h
  | cons c blanks ih =>
    obtain ⟨hc, hblanks⟩ := List.forall_mem_cons.mp hblanks
    exact ih (h.of_cons.2 hc) hblanks

lemma Spells.of_append_blanks {blanks : List Char} (h : Spells (cs ++ blanks) ts)
    (hblanks : ∀ c ∈ blanks, isBlank c) : Spells cs ts := by
  cases blanks with
  | nil => rwa [List.append_nil] at h
  | cons b blanks =>
    obtain ⟨hb, hblanks⟩ := List.forall_mem_cons.mp hblanks
    obtain ⟨front, back, rfl, hfront, hback⟩ := h.cut hb (.inr hblanks)
    rw [← List.append_nil blanks] at hback
    rwa [(hback.of_blanks_append hblanks).eq_nil, List.append_nil]

lemma Spells.trimChars (h : Spells cs ts) : Spells (trimChars cs) ts := by
  obtain ⟨before, after, hbefore, hafter, hcs⟩ := exists_append_trimEnds isBlank cs
  rw [hcs, List.append_assoc] at h
  exact (h.of_blanks_append hbefore).of_append_blanks hafter

/-! ### Lines -/

/-- The tokens of a line. -/
def ofLine (line : String) : List Token := (lex {} line.toList).map (·.token)

/-- The line spells its tokens. -/
def SpelledOut (line : String) : Prop := Spells line.toList (ofLine line)

lemma Spells.ofLine_eq {line : String} (h : Spells line.toList ts) : ofLine line = ts :=
  h.map_lex {}

lemma spelledOut_trim {line : String} (h : SpelledOut line) :
    SpelledOut (trim line) ∧ ofLine (trim line) = ofLine line := by
  have htrim : Spells (trim line).toList (ofLine line) := by
    rw [trim, String.toList_ofList]
    exact Spells.trimChars h
  refine ⟨?_, htrim.ofLine_eq⟩
  rwa [SpelledOut, htrim.ofLine_eq]

/-- Newlines stand between tokens only. -/
lemma spells_intercalate_iff {ls : List String} :
    Spells ("\n".intercalate ls).toList ts ↔ (∀ l ∈ ls, SpelledOut l) ∧ ts = ls.flatMap ofLine := by
  induction ls generalizing ts with
  | nil =>
    constructor
    · intro h
      exact ⟨List.forall_mem_nil _, h.eq_nil⟩
    · rintro ⟨-, rfl⟩
      exact .nil
  | cons l ls ih =>
    cases ls with
    | nil =>
      rw [String.intercalate_singleton, List.forall_mem_singleton, List.flatMap_singleton]
      constructor
      · intro h
        rw [SpelledOut, h.ofLine_eq]
        exact ⟨h, rfl⟩
      · rintro ⟨h, rfl⟩
        exact h
    | cons l' ls =>
      rw [toList_intercalate_cons_cons, List.forall_mem_cons, List.flatMap_cons]
      constructor
      · intro h
        obtain ⟨front, back, rfl, hfront, hback⟩ := h.cut (by decide) (.inl rfl)
        obtain ⟨hls, rfl⟩ := ih.mp hback
        rw [SpelledOut, hfront.ofLine_eq]
        exact ⟨⟨hfront, hls⟩, rfl⟩
      · rintro ⟨⟨hl, hls⟩, rfl⟩
        exact Spells.join hl (by decide) (ih.mpr ⟨hls, rfl⟩)

end ApiScribe.Json.Token
