import ApiScribe.Proofs.Text.Words
import ApiScribe.Text.Pattern

/-!
# Matches of patterns

A repetition gives nothing back if what follows it cannot start with a character of its class, and
it gives back one character if what follows takes just one. A pattern in which words, keywords and
blanks take turns is therefore matched in one pass from left to right, and its groups are words.
-/

namespace ApiScribe.Text

/-! ### Reading from left to right -/

/-- The word at the start of a text, and what follows it. -/
def word? (cs : List Char) : Option (List Char × List Char) :=
  if cs.takeWhile (!isBlank ·) = [] then none
  else some (cs.takeWhile (!isBlank ·), cs.dropWhile (!isBlank ·))

/-- The word at the start of a text without its last character, if this is the given one and not the
only one, and what follows it. -/
def closedWord? (close : Char) (cs : List Char) : Option (List Char × List Char) := do
  let (word, cs) ← word? cs
  if word.getLast? = some close ∧ word.dropLast ≠ [] then some (word.dropLast, cs) else none

/-- What follows the blanks at the start of a text. -/
def afterBlanks? : List Char → Option (List Char)
  | [] => none
  | c :: cs => if isBlank c then some (cs.dropWhile isBlank) else none

/-- What follows the blanks and a word after them. -/
def nextWord? (cs : List Char) : Option (List Char × List Char) := do
  let cs ← afterBlanks? cs
  word? cs

/-- What follows the blanks and the given word after them. -/
def keyword? (keyword : List Char) (cs : List Char) : Option (List Char) := do
  let (word, cs) ← nextWord? cs
  if word = keyword then some cs else none

/-- The text after the blanks, up to the end of the line and of the argument. If there are only
blanks, the last of them is the text. -/
def remainder? : List Char → Option (List Char)
  | [] => none
  | c :: cs =>
    if isBlank c then
      (remainder? cs).or (if cs = [] ∨ '\n' ∈ cs then none else some cs)
    else none

variable {cs rest word : List Char}

lemma word?_eq_some_iff :
    word? cs = some (word, rest) ↔
      cs.takeWhile (!isBlank ·) ≠ [] ∧ cs.takeWhile (!isBlank ·) = word ∧
        cs.dropWhile (!isBlank ·) = rest := by
  rw [word?]
  split_ifs with hnil <;> simp [hnil]

lemma closedWord?_eq_some_iff {close : Char} :
    closedWord? close cs = some (word, rest) ↔
      word ≠ [] ∧ word? cs = some (word ++ [close], rest) := by
  constructor
  · intro h
    obtain ⟨⟨label, rest'⟩, hlabel, h⟩ := Option.bind_eq_some_iff.mp h
    dsimp only at h
    split_ifs at h with hclose
    cases h
    obtain ⟨front, rfl⟩ := List.getLast?_eq_some_iff.mp hclose.1
    rw [List.dropLast_concat] at hclose ⊢
    exact ⟨hclose.2, hlabel⟩
  · rintro ⟨hne, hword⟩
    simp [closedWord?, hword, hne]

lemma word?_append {s : String} (h : Bare s) (hrest : ∀ c ∈ rest.head?, isBlank c = true) :
    word? (s.toList ++ rest) = some (s.toList, rest) := by
  have hsolid : ∀ c ∈ s.toList, (!isBlank c) = true := by simpa using h.not_blank
  rw [word?_eq_some_iff, List.takeWhile_append_of_pos hsolid, List.dropWhile_append_of_pos hsolid]
  have hne := mt String.toList_eq_nil_iff.mp h.ne_empty
  cases rest with
  | nil => simp [hne]
  | cons c rest => simp [hne, hrest c rfl]

/-- If more than blanks is left, all of them are skipped. -/
lemma remainder?_of_afterBlanks? (h : afterBlanks? cs = some rest) (hne : rest ≠ [])
    (hline : '\n' ∉ rest) : remainder? cs = some rest := by
  induction cs with
  | nil => cases h
  | cons c cs ih =>
    rw [afterBlanks?] at h
    split_ifs at h with hc
    obtain rfl := Option.some.inj h
    rw [remainder?, if_pos hc]
    cases cs with
    | nil => exact absurd rfl hne
    | cons d ds =>
      by_cases hd : isBlank d
      · rw [ih (by simp [afterBlanks?, hd]), Option.some_or]
      · rw [List.dropWhile_cons_of_neg hd] at hline ⊢
        simp [remainder?, hd, hline]

/-! ### Repetitions -/

namespace CharClass

lemma accepts_blank : blank.accepts = isBlank := rfl

lemma accepts_solid : solid.accepts = (!isBlank ·) := rfl

lemma accepts_inLine : inLine.accepts = (· != '\n') := rfl

variable {β : Type} {cls : CharClass} {f : List Char → List β}

/-- A repetition gives nothing back to what fails on its characters. -/
lemma flatMap_rests (hf : ∀ c cs, cls.accepts c → f (c :: cs) = []) (cs : List Char) :
    (cls.rests cs).flatMap f =
      if cs.takeWhile cls.accepts = [] then [] else f (cs.dropWhile cls.accepts) := by
  induction cs with
  | nil => rfl
  | cons c cs ih =>
    by_cases hc : cls.accepts c
    · rw [rests, if_pos hc, List.flatMap_append, ih]
      cases cs with
      | nil => simp [hc]
      | cons d ds =>
        by_cases hd : cls.accepts d
        · simp [hc, hd, hf d ds hd]
        · simp [hc, hd]
    · simp [rests, hc]

/-- A repetition gives one character back to what takes just one. -/
lemma flatMap_rests_of_last
    (hf : ∀ cs, f cs ≠ [] → ∃ c rest, cs = c :: rest ∧ cls.accepts c ∧
      ∀ d ∈ rest.head?, cls.accepts d = false) (cs : List Char) :
    (cls.rests cs).flatMap f =
      if (cs.takeWhile cls.accepts).dropLast = [] then []
      else f ((cs.takeWhile cls.accepts).getLast?.toList ++ cs.dropWhile cls.accepts) := by
  have hnil : f [] = [] := by
    by_contra hne
    obtain ⟨c, rest, heq, -⟩ := hf [] hne
    cases heq
  have hstop {c : Char} {rest : List Char} (hc : ¬cls.accepts c) : f (c :: rest) = [] := by
    by_contra hne
    obtain ⟨c', rest', heq, hc', -⟩ := hf _ hne
    cases heq
    exact hc hc'
  have hgoing {c d : Char} {rest : List Char} (hd : cls.accepts d) : f (c :: d :: rest) = [] := by
    by_contra hne
    obtain ⟨c', rest', heq, -, hhead⟩ := hf _ hne
    cases heq
    rw [hhead d rfl] at hd
    cases hd
  induction cs with
  | nil => rfl
  | cons c cs ih =>
    by_cases hc : cls.accepts c
    · rw [rests, if_pos hc, List.flatMap_append, ih]
      -- the repetition goes on for no, one or more characters
      cases cs with
      | nil => simp [hc, hnil]
      | cons d ds =>
        by_cases hd : cls.accepts d
        · cases ds with
          | nil => simp [hc, hd]
          | cons e es =>
            by_cases he : cls.accepts e
            · simp [hc, hd, he, hgoing he]
            · simp [hc, hd, he]
        · simp [hc, hd, hstop hd]
    · simp [rests, hc]

end CharClass

/-! ### Ends of matches -/

namespace Pattern

variable {p q : Pattern} {cls cls' : CharClass} {s : Cursor} {number : Nat}

@[simp]
lemma ends_empty : empty.ends s = [s] := rfl

@[simp]
lemma ends_start : start.ends s = if s.atStart then [s] else [] := rfl

@[simp]
lemma ends_finish : finish.ends s = if s.rest = [] then [s] else [] := rfl

lemma ends_one_of_nil (h : s.rest = []) : (one cls).ends s = [] := by
  obtain ⟨atStart, rest, captures⟩ := s
  cases h
  rfl

lemma ends_one_of_cons {c : Char} {cs : List Char} (h : s.rest = c :: cs) :
    (one cls).ends s = if cls.accepts c then [s.advance cs] else [] := by
  obtain ⟨atStart, rest, captures⟩ := s
  cases h
  rfl

@[simp]
lemma ends_many : (many cls).ends s = (cls.rests s.rest).map s.advance := rfl

@[simp]
lemma ends_option : p.option.ends s = p.ends s ++ [s] := rfl

@[simp]
lemma ends_group : (p.group number).ends s = (p.ends s).map (s.capture number) := rfl

@[simp]
lemma ends_seq : (p.seq q).ends s = (p.ends s).flatMap q.ends := rfl

/-- The pattern does not match where a character of the class stands. -/
def Refuses (p : Pattern) (cls : CharClass) : Prop :=
  ∀ (s : Cursor) (c : Char) (cs : List Char), s.rest = c :: cs → cls.accepts c → p.ends s = []

lemma refuses_finish (cls : CharClass) : finish.Refuses cls := by
  intro s c cs hrest _
  simp [hrest]

lemma refuses_one {d : Char} (h : cls.accepts d = false) : (one (.only d)).Refuses cls := by
  intro s c cs hrest hc
  have hne : c ≠ d := by
    rintro rfl
    rw [h] at hc
    cases hc
  simp [ends_one_of_cons hrest, CharClass.accepts, hne]

lemma refuses_many (h : ∀ c, cls.accepts c → cls'.accepts c = false) : (many cls').Refuses cls := by
  intro s c cs hrest hc
  simp [hrest, CharClass.rests, h c hc]

namespace Refuses

lemma seq (h : p.Refuses cls) (q : Pattern) : (p.seq q).Refuses cls := by
  intro s c cs hrest hc
  rw [ends_seq, h s c cs hrest hc, List.flatMap_nil]

lemma group (h : p.Refuses cls) (number : Nat) : (p.group number).Refuses cls := by
  intro s c cs hrest hc
  rw [ends_group, h s c cs hrest hc, List.map_nil]

lemma option_seq (hp : p.Refuses cls) (hq : q.Refuses cls) : (p.option.seq q).Refuses cls := by
  intro s c cs hrest hc
  rw [ends_seq, ends_option, hp s c cs hrest hc, List.nil_append, List.flatMap_singleton,
    hq s c cs hrest hc]

end Refuses

/-! ### First matches -/

/-- Where the first match from a place on ends. -/
def first? (p : Pattern) (s : Cursor) : Option Cursor := (p.ends s).head?

lemma first?_finish : (finish.seq empty).first? s = if s.rest = [] then some s else none := by
  rw [first?, ends_seq, ends_finish]
  split_ifs <;> simp

lemma first?_all_seq (ps : List Pattern) :
    ((all ps).seq q).first? s = (ps.foldr seq q).first? s := by
  have hends (s : Cursor) : ((all ps).seq q).ends s = (ps.foldr seq q).ends s := by
    induction ps generalizing s with
    | nil => simp [all]
    | cons p ps ih =>
      simp only [all, List.foldr_cons, ends_seq, List.flatMap_assoc]
      exact congrArg (List.flatMap · _) (funext ih)
  rw [first?, first?, hends]

lemma search_start_false (cs : List Char) : (start.seq p).search false cs = [] := by
  induction cs with
  | nil => rfl
  | cons c cs ih => simp [search, ih]

/-- A pattern that is bound to the start of the text is matched there or not at all. -/
lemma captures?_start (text : String) :
    (start.seq p).captures? text =
      (p.first? { atStart := true, rest := text.toList }).map (·.captures) := by
  rw [captures?, first?]
  cases text.toList with
  | nil => simp [search]
  | cons c cs => simp [search, search_start_false]

end Pattern

/-- The place after a group: its text has been kept, and the rest follows. -/
def Cursor.after (s : Cursor) (number : Nat) (part : List Char × List Char) : Cursor :=
  { atStart := false, rest := part.2, captures := (number, part.1) :: s.captures }

@[simp]
lemma Captures.text?_nil (number : Nat) : Captures.text? [] number = none := rfl

@[simp]
lemma Captures.text?_cons (number number' : Nat) (text : List Char) (captures : Captures) :
    Captures.text? ((number', text) :: captures) number =
      if number = number' then some (.ofList text) else captures.text? number := by
  rw [Captures.text?, List.lookup_cons]
  split_ifs with h
  · simp [h]
  · simp [beq_false_of_ne h, Captures.text?]

namespace Cursor

variable (s : Cursor) (rest : List Char) (number : Nat) (part : List Char × List Char)

@[simp]
lemma rest_advance : (s.advance rest).rest = rest := rfl

@[simp]
lemma captures_advance : (s.advance rest).captures = s.captures := rfl

@[simp]
lemma advance_advance (rest' : List Char) :
    (s.advance rest).advance rest' = s.advance rest' := rfl

@[simp]
lemma rest_after : (s.after number part).rest = part.2 := rfl

@[simp]
lemma captures_after : (s.after number part).captures = (number, part.1) :: s.captures := rfl

@[simp]
lemma after_advance : (s.advance rest).after number part = s.after number part := rfl

@[simp]
lemma advance_after : (s.after number part).advance rest = s.after number (part.1, rest) := rfl

lemma capture_advance {s : Cursor} {text rest : List Char} (h : s.rest = text ++ rest)
    (number : Nat) : s.capture number (s.advance rest) = s.after number (text, rest) := by
  simp [capture, advance, after, h]

end Cursor

namespace Pattern

variable {p q : Pattern} {cls : CharClass} {s : Cursor} {number : Nat}

lemma ends_group_many_seq :
    ((group number (many cls)).seq q).ends s =
      (cls.rests s.rest).flatMap fun rest => q.ends (s.capture number (s.advance rest)) := by
  rw [ends_seq, ends_group, ends_many, List.map_map, List.flatMap_map]
  rfl

/-- A word ends where what follows cannot go on with it. -/
lemma first?_word_seq (h : q.Refuses .solid) :
    ((group number (many .solid)).seq q).first? s =
      (word? s.rest).bind fun next => q.first? (s.after number next) := by
  rw [first?, ends_group_many_seq, CharClass.flatMap_rests fun c cs hc => h _ c cs rfl hc,
    CharClass.accepts_solid, Cursor.capture_advance List.takeWhile_append_dropWhile.symm, word?]
  split_ifs <;> rfl

lemma ends_one_seq {c d : Char} {cs : List Char} (hrest : s.rest = c :: cs) :
    ((one (.only d)).seq q).ends s = if c = d then q.ends (s.advance cs) else [] := by
  rw [ends_seq, ends_one_of_cons hrest]
  by_cases hc : c = d <;> simp [CharClass.accepts, hc]

lemma first?_one_seq {d : Char} :
    ((one (.only d)).seq q).first? s =
      if s.rest.head? = some d then q.first? (s.advance s.rest.tail) else none := by
  cases hrest : s.rest with
  | nil => simp [first?, ends_one_of_nil hrest]
  | cons c cs =>
    rw [first?, ends_one_seq hrest]
    by_cases hc : c = d <;> simp [hc, first?]

/-- Before a pattern that cannot go on with a word, a character matches as the last of a word. -/
lemma exists_rest_of_ends_one_seq {close : Char} (h : q.Refuses .solid)
    (hne : ((one (.only close)).seq q).ends s ≠ []) :
    ∃ rest, s.rest = close :: rest ∧ ∀ d ∈ rest.head?, CharClass.solid.accepts d = false := by
  cases hrest : s.rest with
  | nil => simp [ends_one_of_nil hrest] at hne
  | cons c rest =>
    rw [ends_one_seq hrest] at hne
    split_ifs at hne with hc
    · subst hc
      refine ⟨rest, rfl, fun d hd => ?_⟩
      obtain ⟨rest', rfl⟩ := List.head?_eq_some_iff.mp hd
      by_contra hsolid
      exact hne (h _ d rest' rfl (by simpa using hsolid))
    · exact absurd rfl hne

/-- A word in front of its own last character ends before it. -/
lemma first?_word_one_seq {close : Char} (hclose : isBlank close = false) (h : q.Refuses .solid) :
    ((group number (many .solid)).seq ((one (.only close)).seq q)).first? s =
      (closedWord? close s.rest).bind fun next => q.first? (s.after number next) := by
  rw [first?, ends_group_many_seq, CharClass.flatMap_rests_of_last, CharClass.accepts_solid,
    closedWord?]
  · rcases List.eq_nil_or_concat (s.rest.takeWhile (!isBlank ·)) with hnil | ⟨front, last, hword⟩
    · rw [word?, hnil]
      rfl
    · rw [List.concat_eq_append] at hword
      have hsplit := List.takeWhile_append_dropWhile (p := (!isBlank ·)) (l := s.rest)
      rw [hword, List.append_assoc] at hsplit
      have hword? : word? s.rest = some (front ++ [last], s.rest.dropWhile (!isBlank ·)) :=
        word?_eq_some_iff.mpr ⟨by simp [hword], hword, rfl⟩
      rw [hword, hword?, List.dropLast_concat, List.getLast?_concat, Option.toList_some,
        Cursor.capture_advance hsplit.symm, ends_one_seq rfl]
      by_cases hfront : front = []
      · simp [hfront]
      by_cases hlast : last = close
      · simp [hfront, hlast, first?]
      · simp [hfront, hlast]
  · intro cs hne
    obtain ⟨rest, hrest, hend⟩ := exists_rest_of_ends_one_seq h hne
    exact ⟨close, rest, hrest, by simp [CharClass.accepts_solid, hclose], hend⟩

lemma first?_blanks_seq (h : q.Refuses .blank) :
    ((many .blank).seq q).first? s =
      (afterBlanks? s.rest).bind fun rest => q.first? (s.advance rest) := by
  rw [first?, ends_seq, ends_many, List.flatMap_map,
    CharClass.flatMap_rests fun c cs hc => h _ c cs rfl hc, CharClass.accepts_blank]
  cases hrest : s.rest with
  | nil => rfl
  | cons c cs =>
    by_cases hc : isBlank c
    · simp [afterBlanks?, hc, first?]
    · simp [afterBlanks?, hc]

lemma first?_nextWord_seq (h : q.Refuses .solid) :
    ((many .blank).seq ((group number (many .solid)).seq q)).first? s =
      (nextWord? s.rest).bind fun next => q.first? (s.after number next) := by
  have hword : (group number (many .solid)).Refuses .blank :=
    (refuses_many (by simp [CharClass.accepts])).group number
  rw [first?_blanks_seq (hword.seq q), nextWord?, Option.bind_eq_bind, Option.bind_assoc]
  refine Option.bind_congr fun rest _ => ?_
  rw [first?_word_seq h]
  rfl

/-! ### Keywords -/

lemma ends_all_ones (keyword : List Char) (s : Cursor) (hne : keyword ≠ []) :
    (all (keyword.map fun c => one (.only c))).ends s =
      if keyword <+: s.rest then [s.advance (s.rest.drop keyword.length)] else [] := by
  induction keyword generalizing s with
  | nil => exact absurd rfl hne
  | cons c keyword ih =>
    rw [List.map_cons, all, List.foldr_cons]
    cases hrest : s.rest with
    | nil => simp [ends_one_of_nil hrest]
    | cons d rest =>
      rw [ends_one_seq hrest]
      by_cases hd : d = c
      · subst hd
        by_cases hnil : keyword = []
        · simp [hnil]
        · have hrec := ih (s.advance rest) hnil
          rw [all] at hrec
          by_cases hprefix : keyword <+: rest <;> simp [hrec, hprefix]
      · simp [hd, Ne.symm hd]

/-- A keyword is a whole word if what follows cannot go on with a word. -/
lemma first?_literal_seq {keyword : String} (hbare : Bare keyword) (h : q.Refuses .solid) :
    ((literal keyword).seq q).first? s =
      (word? s.rest).bind fun next =>
        if next.1 = keyword.toList then q.first? (s.advance next.2) else none := by
  have hne := mt String.toList_eq_nil_iff.mp hbare.ne_empty
  rw [first?, ends_seq, literal, ends_all_ones _ _ hne]
  split_ifs with hprefix
  · obtain ⟨rest, hrest⟩ := hprefix
    rw [← hrest, List.drop_left, List.flatMap_singleton]
    by_cases hblank : ∀ c ∈ rest.head?, isBlank c = true
    · rw [word?_append hbare hblank, Option.bind_some, if_pos rfl, first?]
    · -- the word goes on
      push Not at hblank
      obtain ⟨c, hc, hsolid⟩ := hblank
      obtain ⟨rest', rfl⟩ := List.head?_eq_some_iff.mp hc
      have hsolid' : CharClass.solid.accepts c := by simpa [CharClass.accepts] using hsolid
      rw [h _ c rest' rfl hsolid', word?,
        List.takeWhile_append_of_pos fun d hd => by rw [hbare.not_blank d hd]; rfl]
      simp [hne, hsolid]
  · cases hword : word? s.rest with
    | none => rfl
    | some next =>
      obtain ⟨word, rest⟩ := next
      obtain ⟨-, rfl, -⟩ := word?_eq_some_iff.mp hword
      have hother : s.rest.takeWhile (!isBlank ·) ≠ keyword.toList := by
        intro heq
        exact hprefix (heq ▸ List.takeWhile_prefix _)
      rw [Option.bind_some, if_neg hother]
      rfl

lemma first?_keyword_seq {keyword : String} (hbare : Bare keyword) (h : q.Refuses .solid) :
    ((many .blank).seq ((literal keyword).seq q)).first? s =
      (keyword? keyword.toList s.rest).bind fun rest => q.first? (s.advance rest) := by
  have hliteral : (literal keyword).Refuses .blank := by
    intro s c cs hrest hc
    obtain ⟨d, keyword', hkeyword⟩ :=
      List.exists_cons_of_ne_nil (mt String.toList_eq_nil_iff.mp hbare.ne_empty)
    have hd : CharClass.blank.accepts d = false := hbare.not_blank d (by simp [hkeyword])
    rw [literal, hkeyword]
    exact (refuses_one hd).seq _ s c cs hrest hc
  rw [first?_blanks_seq (hliteral.seq q), keyword?, nextWord?]
  simp only [Option.bind_eq_bind, Option.bind_assoc]
  refine Option.bind_congr fun rest _ => ?_
  rw [first?_literal_seq hbare h]
  refine Option.bind_congr fun next _ => ?_
  split_ifs <;> rfl

/-! ### Options and remainders -/

lemma first?_option_seq :
    (p.option.seq q).first? s = ((p.seq q).first? s).or (q.first? s) := by
  simp [first?]

/-- The text up to the end is on one line. -/
lemma ends_inLine_finish :
    ((group number (many .inLine)).seq (finish.seq empty)).ends s =
      if s.rest = [] ∨ '\n' ∈ s.rest then [] else [s.after number (s.rest, [])] := by
  rw [ends_group_many_seq, CharClass.flatMap_rests fun c cs hc =>
    (refuses_finish .inLine).seq empty _ c cs rfl hc, CharClass.accepts_inLine,
    Cursor.capture_advance List.takeWhile_append_dropWhile.symm]
  cases hrest : s.rest with
  | nil => rfl
  | cons c cs =>
    by_cases hline : '\n' ∈ c :: cs
    · have hstop : (c :: cs).dropWhile (· != '\n') ≠ [] := by
        rw [Ne, List.dropWhile_eq_nil_iff]
        exact fun hall => absurd (hall _ hline) (by decide)
      simp [hline, hstop]
    · have hall : ∀ d ∈ c :: cs, (d != '\n') = true := by
        intro d hd
        rw [bne_iff_ne]
        rintro rfl
        exact hline hd
      rw [List.takeWhile_eq_self_iff.mpr hall, List.dropWhile_eq_nil_iff.mpr hall]
      simp [hline]

lemma first?_remainder :
    ((many .blank).seq ((group number (many .inLine)).seq (finish.seq empty))).first? s =
      (remainder? s.rest).map fun text => s.after number (text, []) := by
  rw [first?, ends_seq, ends_many, List.flatMap_map]
  simp only [ends_inLine_finish, Cursor.rest_advance, Cursor.after_advance]
  induction s.rest with
  | nil => rfl
  | cons c cs ih =>
    rw [CharClass.rests, CharClass.accepts_blank, remainder?]
    by_cases hc : isBlank c
    · rw [if_pos hc, if_pos hc, List.flatMap_append, List.head?_append, ih,
        List.flatMap_singleton, Option.map_or]
      by_cases hline : cs = [] ∨ '\n' ∈ cs <;> simp [hline]
    · rw [if_neg hc, if_neg hc]
      rfl

end Pattern

end ApiScribe.Text
