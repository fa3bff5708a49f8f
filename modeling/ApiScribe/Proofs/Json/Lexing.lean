import ApiScribe.Json.Token
import ApiScribe.Json.Write
import ApiScribe.Proofs.Json.Value

/-!
# Tokens of written values

The text of a value, compact or over several lines, is cut into the tokens of the value.
-/

namespace ApiScribe.Json

/-! ### Tokens of a value -/

mutual
/-- The tokens that a value is written with. -/
def tokens : Json → List Token
  | .null => [.literal .null]
  | .bool b => [.literal (.bool b)]
  | .number n => [.literal (.number n)]
  | .string s => [.text (.string s)]
  | .array [] => [.openBracket, .closeBracket]
  | .array (item :: items) => .openBracket :: tokens item ++ tokensOfItems items
  | .object ⟨[]⟩ => [.openBrace, .closeBrace]
  | .object ⟨(key, value) :: fields⟩ =>
    .openBrace :: .text (.string key) :: .colon :: tokens value ++ tokensOfFields fields

/-- The tokens of the items after the first one. -/
def tokensOfItems : List Json → List Token
  | [] => [.closeBracket]
  | item :: items => .comma :: tokens item ++ tokensOfItems items

/-- The tokens of the fields after the first one. -/
def tokensOfFields : List (String × Json) → List Token
  | [] => [.closeBrace]
  | (key, value) :: fields =>
    .comma :: .text (.string key) :: .colon :: tokens value ++ tokensOfFields fields
end

namespace Token

/-! ### Pieces of text -/

/-- In front of the rest, the text is cut into the tokens. -/
def Lexes (text : List Char) (tokens : List Token) (rest : List Char) : Prop :=
  ∀ p, ∃ located q, lex p (text ++ rest) = located ++ lex q rest ∧
    located.map (·.token) = tokens

namespace Lexes

variable {text text' rest : List Char} {tokens tokens' : List Token}

lemma nil (rest : List Char) : Lexes [] [] rest := fun p => ⟨[], p, rfl, rfl⟩

lemma append (h : Lexes text tokens (text' ++ rest)) (h' : Lexes text' tokens' rest) :
    Lexes (text ++ text') (tokens ++ tokens') rest := by
  intro p
  obtain ⟨located, q, hlex, rfl⟩ := h p
  obtain ⟨located', q', hlex', rfl⟩ := h' q
  refine ⟨located ++ located', q', ?_, List.map_append⟩
  rw [List.append_assoc, hlex, hlex', List.append_assoc]

/-- Blanks are skipped. -/
lemma space {c : Char} (hc : isSpace c) (rest : List Char) : Lexes [c] [] rest := by
  intro p
  refine ⟨[], p.advance c, ?_, rfl⟩
  rw [List.singleton_append, lex, if_pos hc, List.nil_append]

/-- A text that is scanned as one token. -/
lemma of_scan {c : Char} {cs : List Char} {token : Token} (hc : isSpace c = false)
    (h : ∀ p, ∃ q, scan p c (cs ++ rest) = { token, stop := q, rest }) :
    Lexes (c :: cs) [token] rest := by
  intro p
  obtain ⟨q, hscan⟩ := h p
  refine ⟨[{ token, start := p, stop := q }], q, ?_, rfl⟩
  rw [List.cons_append, lex, if_neg (by simp [hc]), hscan]
  rfl

end Lexes

/-! ### Marks and words -/

lemma lexes_mark {c : Char} {token : Token} (hc : isSpace c = false)
    (h : ∀ p cs, scan p c cs = { token, stop := p.skip 1, rest := cs }) (rest : List Char) :
    Lexes [c] [token] rest :=
  .of_scan hc fun p => ⟨p.skip 1, h p rest⟩

lemma scanWord_append (value : Tree) (p : Position) (letters rest : List Char) :
    ∃ q, scanWord value p letters (letters ++ rest) =
      { token := .literal value, stop := q, rest } := by
  induction letters generalizing p with
  | nil =>
    refine ⟨p, ?_⟩
    rw [List.nil_append, scanWord.eq_def]
  | cons letter letters ih =>
    obtain ⟨q, hq⟩ := ih (p.skip 1)
    exact ⟨q, by rw [List.cons_append, scanWord, if_pos rfl, hq]⟩

lemma lexes_null (rest : List Char) : Lexes "null".toList [.literal .null] rest :=
  .of_scan rfl fun p => scanWord_append .null (p.skip 1) ['u', 'l', 'l'] rest

lemma lexes_true (rest : List Char) : Lexes "true".toList [.literal (.bool true)] rest :=
  .of_scan rfl fun p => scanWord_append (.bool true) (p.skip 1) ['r', 'u', 'e'] rest

lemma lexes_false (rest : List Char) : Lexes "false".toList [.literal (.bool false)] rest :=
  .of_scan rfl fun p => scanWord_append (.bool false) (p.skip 1) ['a', 'l', 's', 'e'] rest

/-! ### Strings -/

lemma hexValue?_hexDigit (n : Nat) : hexValue? (hexDigit n) = some (n % 16) := by
  have hlt : n % 16 < 16 := Nat.mod_lt n (by decide)
  have hall : ∀ k < 16, hexValue? (Nat.digitChar k) = some k := by decide
  exact hall _ hlt

lemma unit?_hexDigit {n : Nat} (h : n < 0x20) :
    unit? '0' '0' (hexDigit (n / 16)) (hexDigit n) = some n := by
  have hzero : hexValue? '0' = some 0 := by decide
  simp only [unit?, hzero, hexValue?_hexDigit, Option.bind_eq_bind, Option.bind_some]
  exact congrArg some (by omega)

/-- A character of a string is read as it was written. -/
lemma scanString_escape (chars : List Char) (p : Position) (c : Char) (rest : List Char) :
    ∃ q, scanString { chars } p (escape c ++ rest) = scanString { chars := c :: chars } q rest := by
  by_cases h₁ : c = '"'
  · subst h₁; exact ⟨_, rfl⟩
  by_cases h₂ : c = '\\'
  · subst h₂; exact ⟨_, rfl⟩
  by_cases h₃ : c = '\x08'
  · subst h₃; exact ⟨_, rfl⟩
  by_cases h₄ : c = '\x0c'
  · subst h₄; exact ⟨_, rfl⟩
  by_cases h₅ : c = '\n'
  · subst h₅; exact ⟨_, rfl⟩
  by_cases h₆ : c = '\r'
  · subst h₆; exact ⟨_, rfl⟩
  by_cases h₇ : c = '\t'
  · subst h₇; exact ⟨_, rfl⟩
  rw [escape, if_neg h₁, if_neg h₂, if_neg h₃, if_neg h₄, if_neg h₅, if_neg h₆, if_neg h₇]
  by_cases h₈ : c.toNat < 0x20
  · refine ⟨p.skip 6, ?_⟩
    have htrailing : Content.isTrailing c.toNat = false := by
      simp only [Content.isTrailing, Bool.and_eq_false_iff, decide_eq_false_iff_not]
      omega
    have hleading : Content.isLeading c.toNat = false := by
      simp only [Content.isLeading, Bool.and_eq_false_iff, decide_eq_false_iff_not]
      omega
    simp only [if_pos h₈, List.cons_append, List.nil_append, scanString, unit?_hexDigit h₈,
      Content.takeUnit, htrailing, hleading, Content.push, Char.ofNat_toNat]
    rfl
  · refine ⟨p.advance c, ?_⟩
    rw [if_neg h₈, List.singleton_append, scanString, if_neg h₁, if_neg h₈]
    · rfl
    all_goals simp [h₂]

lemma scanString_flatMap_escape (cs chars : List Char) (p : Position) (rest : List Char) :
    ∃ q, scanString { chars } p (cs.flatMap escape ++ '"' :: rest) =
      { token := .text (.string (.ofList (chars.reverse ++ cs))), stop := q, rest } := by
  induction cs generalizing chars p with
  | nil =>
    refine ⟨p.skip 1, ?_⟩
    rw [List.flatMap_nil, List.nil_append, scanString, if_pos rfl, List.append_nil]
    · rfl
    all_goals simp
  | cons c cs ih =>
    obtain ⟨q, hq⟩ := scanString_escape chars p c (cs.flatMap escape ++ '"' :: rest)
    obtain ⟨q', hq'⟩ := ih (c :: chars) q
    refine ⟨q', ?_⟩
    rw [List.flatMap_cons, List.append_assoc, hq, hq']
    simp

lemma lexes_quoted (s : String) (rest : List Char) :
    Lexes (quoted s) [.text (.string s)] rest := by
  change Lexes ('"' :: (s.toList.flatMap escape ++ ['"'])) _ rest
  refine .of_scan rfl fun p => ?_
  obtain ⟨q, hq⟩ := scanString_flatMap_escape s.toList [] (p.skip 1) rest
  refine ⟨q, ?_⟩
  rw [List.append_assoc]
  exact hq.trans (by simp)

/-! ### Numbers -/

/-- The text cannot go on with a number that stands in front of it. -/
def Ends (rest : List Char) : Prop :=
  ∀ c ∈ rest.head?, c.isDigit = false ∧ c ≠ '.' ∧ c ≠ 'e' ∧ c ≠ 'E'

lemma le_ofDigitChars (n : Nat) (cs : List Char) : n ≤ Nat.ofDigitChars 10 cs n := by
  rw [Nat.ofDigitChars_eq_ofDigitChars_zero]
  have hpow : 0 < 10 ^ cs.length := Nat.pow_pos (by decide)
  exact Nat.le_add_right_of_le (Nat.le_mul_of_pos_left n hpow)

lemma gather_eq {n : Nat} {cs : List Char}
    (h : Nat.ofDigitChars 10 cs n ≤ Numeral.significandLimit) :
    Numeral.gather n cs = (Nat.ofDigitChars 10 cs n, 0) := by
  induction cs generalizing n with
  | nil => rw [Numeral.gather, Nat.ofDigitChars_nil]
  | cons c cs ih =>
    have hnext : n * 10 + Numeral.digitValue c = 10 * n + (c.toNat - '0'.toNat) := by
      rw [Nat.mul_comm]
      rfl
    rw [Nat.ofDigitChars_cons, ← hnext] at h ⊢
    have hle := Nat.le_trans (le_ofDigitChars _ cs) h
    rw [Numeral.gather]
    exact (if_neg (Nat.not_lt.mpr hle)).trans (ih h)

lemma gather_toDigits {n : Nat} (h : n < 2 ^ 64) :
    Numeral.gather 0 (Nat.toDigits 10 n) = (n, 0) := by
  have hvalue : Nat.ofDigitChars 10 (Nat.toDigits 10 n) 0 = n := Nat.ofDigitChars_ten_toDigits
  rw [gather_eq, hvalue]
  rw [hvalue]
  exact Nat.le_sub_one_of_lt h

lemma value_toDigits {n : Nat} (h : n < 2 ^ 64) :
    Numeral.value { negative := false, whole := Nat.toDigits 10 n } = .ok (.integer n) := by
  simp [Numeral.value, Numeral.integer?, gather_toDigits h]

lemma value_neg_toDigits {n : Nat} (hpos : 0 < n) (hle : n ≤ 2 ^ 63) :
    Numeral.value { negative := true, whole := Nat.toDigits 10 n } = .ok (.integer (-n)) := by
  have hlt : n < 2 ^ 64 := Nat.lt_of_le_of_lt hle (by decide)
  simp only [Numeral.value, Numeral.integer?, gather_toDigits hlt]
  rw [if_neg (by decide), if_neg (by decide), if_pos ⟨hpos, hle⟩]

lemma isDigit_of_mem_toDigits {n : Nat} {c : Char} (h : c ∈ Nat.toDigits 10 n) : c.isDigit :=
  Nat.isDigit_of_mem_toDigits (by decide) (by decide) h

/-- Only zero is written with a zero in front. -/
lemma head_toDigits {n : Nat} (h : 0 < n) : ∃ d ds, Nat.toDigits 10 n = d :: ds ∧ d ≠ '0' := by
  induction n using Nat.strongRecOn with
  | ind n ih =>
    rw [Nat.toDigits_eq_if (by decide)]
    split_ifs with hlt
    · have hall : ∀ k < 10, 0 < k → Nat.digitChar k ≠ '0' := by decide
      exact ⟨_, [], rfl, hall n hlt h⟩
    · obtain ⟨d, ds, hdigits, hd⟩ := ih (n / 10) (by omega) (by omega)
      exact ⟨d, ds ++ [Nat.digitChar (n % 10)], by rw [hdigits, List.cons_append], hd⟩

lemma takeWhile_isDigit_append {ds rest : List Char} (hds : ∀ c ∈ ds, c.isDigit)
    (hrest : ∀ c ∈ rest.head?, c.isDigit = false) :
    (ds ++ rest).takeWhile Char.isDigit = ds ∧ (ds ++ rest).dropWhile Char.isDigit = rest := by
  rw [List.takeWhile_append_of_pos hds, List.dropWhile_append_of_pos hds]
  cases rest with
  | nil => simp
  | cons c rest => simp [hrest c rfl]

/-- A number ends where its digits end. -/
lemma scanFraction_of_ends (n : Numeral) (p : Position) {rest : List Char} (hrest : Ends rest) :
    Numeral.scanFraction n p rest = Numeral.finish n p p rest := by
  cases rest with
  | nil => rfl
  | cons c rest =>
    obtain ⟨-, hpoint, he, hE⟩ := hrest c rfl
    simp [Numeral.scanFraction, Numeral.scanExponent, hpoint, he, hE]

lemma scanWhole_toDigits (negative : Bool) (p : Position) (n : Nat) {rest : List Char}
    (hrest : Ends rest) :
    ∃ q, Numeral.scanWhole negative p (Nat.toDigits 10 n ++ rest) =
      Numeral.finish { negative, whole := Nat.toDigits 10 n } q q rest := by
  rcases Nat.eq_zero_or_pos n with rfl | hpos
  · refine ⟨p.skip 1, ?_⟩
    rw [Nat.toDigits_zero, ← scanFraction_of_ends _ _ hrest]
    cases rest with
    | nil => rfl
    | cons c rest => simp [Numeral.scanWhole, (hrest c rfl).1]
  · obtain ⟨d, ds, hdigits, hzero⟩ := head_toDigits hpos
    have hall : ∀ c ∈ d :: ds, c.isDigit := fun c hc =>
      isDigit_of_mem_toDigits (n := n) (by rwa [hdigits])
    obtain ⟨htake, hdrop⟩ :=
      takeWhile_isDigit_append (List.forall_mem_cons.mp hall).2 fun c hc => (hrest c hc).1
    have hd : d.isDigit := hall d List.mem_cons_self
    refine ⟨p.skip (d :: ds).length, ?_⟩
    rw [hdigits, ← scanFraction_of_ends _ _ hrest]
    simp [Numeral.scanWhole, hd, htake, hdrop]

lemma scan_eq_scanNumeral {c : Char} (hc : c = '-' ∨ c.isDigit) (p : Position) (cs : List Char) :
    scan p c cs = scanNumeral p (c :: cs) := by
  unfold scan
  split
  all_goals first
    | exact absurd hc (by decide)
    | skip
  rw [if_pos hc]

lemma isSpace_eq_false {c : Char} (hc : c = '-' ∨ c.isDigit) : isSpace c = false := by
  cases hspace : isSpace c with
  | false => rfl
  | true =>
    simp only [isSpace, Bool.or_eq_true, decide_eq_true_eq] at hspace
    rcases hspace with ((rfl | rfl) | rfl) | rfl <;> exact absurd hc (by decide)

lemma Lexes.of_scanNumeral {c : Char} {cs rest : List Char} {n : Number}
    (hc : c = '-' ∨ c.isDigit)
    (h : ∀ p, ∃ q, Numeral.scan p (c :: (cs ++ rest)) = { tree := .number n, stop := q, rest }) :
    Lexes (c :: cs) [.literal (.number n)] rest := by
  refine .of_scan (isSpace_eq_false hc) fun p => ?_
  obtain ⟨q, hq⟩ := h p
  exact ⟨q, by rw [scan_eq_scanNumeral hc, scanNumeral, hq]⟩

lemma lexes_number {n : Number} (h : n.IsInteger) {rest : List Char} (hrest : Ends rest) :
    Lexes n.chars [.literal (.number n)] rest := by
  cases n with
  | double x => cases h
  | integer value =>
    obtain ⟨hlow, hhigh⟩ := h
    rw [Number.chars, integerChars]
    split_ifs with hsign
    · refine .of_scanNumeral (.inl rfl) fun p => ?_
      obtain ⟨q, hq⟩ := scanWhole_toDigits true (p.skip 1) value.natAbs hrest
      refine ⟨q, ?_⟩
      have hvalue : -(value.natAbs : Int) = value := by omega
      rw [Numeral.scan, hq, Numeral.finish,
        value_neg_toDigits (by omega) (by omega), hvalue]
    · have hall : ∀ c ∈ Nat.toDigits 10 value.natAbs, c.isDigit := fun _ => isDigit_of_mem_toDigits
      have hscan := fun p => scanWhole_toDigits false p value.natAbs hrest
      have hvalue : (value.natAbs : Int) = value := by omega
      have hnumber := value_toDigits (n := value.natAbs) (by omega)
      cases hdigits : Nat.toDigits 10 value.natAbs with
      | nil => exact absurd hdigits Nat.toDigits_ne_nil
      | cons d ds =>
        rw [hdigits] at hall hscan hnumber
        have hd : d.isDigit := hall d List.mem_cons_self
        refine .of_scanNumeral (.inr hd) fun p => ?_
        obtain ⟨q, hq⟩ := hscan p
        refine ⟨q, ?_⟩
        rw [Numeral.scan, ← List.cons_append, hq, Numeral.finish, hnumber, hvalue]
        rintro cs heq
        cases heq
        exact absurd hd (by decide)

/-! ### Values -/

/-- A way to write values: marks and values, with blanks in front of the items and fields of a
container and of its end, and in front of the value of a field. -/
structure Layout where
  write : Nat → Json → List Char
  writeItems : Nat → List Json → List Char
  writeFields : Nat → List (String × Json) → List Char
  gap : Nat → List Char
  pad : List Char
  isSpace_gap : ∀ depth, ∀ c ∈ gap depth, isSpace c
  isSpace_pad : ∀ c ∈ pad, isSpace c
  null (depth : Nat) : write depth .null = "null".toList
  true (depth : Nat) : write depth (.bool true) = "true".toList
  false (depth : Nat) : write depth (.bool false) = "false".toList
  number (depth : Nat) (n : Number) : write depth (.number n) = n.chars
  string (depth : Nat) (s : String) : write depth (.string s) = quoted s
  emptyArray (depth : Nat) : write depth (.array []) = ['[', ']']
  array (depth : Nat) (item : Json) (items : List Json) :
    write depth (.array (item :: items)) =
      ['['] ++ (gap (depth + 1) ++ (write (depth + 1) item ++ writeItems depth items))
  lastItem (depth : Nat) : writeItems depth [] = gap depth ++ [']']
  nextItem (depth : Nat) (item : Json) (items : List Json) :
    writeItems depth (item :: items) =
      [','] ++ (gap (depth + 1) ++ (write (depth + 1) item ++ writeItems depth items))
  emptyObject (depth : Nat) : write depth (.object ⟨[]⟩) = ['\x7b', '\x7d']
  object (depth : Nat) (key : String) (value : Json) (fields : List (String × Json)) :
    write depth (.object ⟨(key, value) :: fields⟩) =
      ['\x7b'] ++ (gap (depth + 1) ++ (quoted key ++ ([':'] ++ (pad ++
        (write (depth + 1) value ++ writeFields depth fields)))))
  lastField (depth : Nat) : writeFields depth [] = gap depth ++ ['\x7d']
  nextField (depth : Nat) (key : String) (value : Json) (fields : List (String × Json)) :
    writeFields depth ((key, value) :: fields) =
      [','] ++ (gap (depth + 1) ++ (quoted key ++ ([':'] ++ (pad ++
        (write (depth + 1) value ++ writeFields depth fields)))))

/-- Without blanks. -/
def Layout.compact : Layout where
  write _ := compactChars
  writeItems _ := compactItems
  writeFields _ := compactFields
  gap _ := []
  pad := []
  isSpace_gap _ _ h := by cases h
  isSpace_pad _ h := by cases h
  null _ := rfl
  true _ := rfl
  false _ := rfl
  number _ _ := rfl
  string _ _ := rfl
  emptyArray _ := rfl
  array _ _ _ := rfl
  lastItem _ := rfl
  nextItem _ _ _ := rfl
  emptyObject _ := rfl
  object _ _ _ _ := by simp [compactChars]
  lastField _ := rfl
  nextField _ _ _ _ := by simp [compactFields]

/-- On lines of their own. -/
def Layout.pretty : Layout where
  write := prettyChars
  writeItems := prettyItems
  writeFields := prettyFields
  gap := newline
  pad := [' ']
  isSpace_gap depth c h := by
    rcases List.mem_cons.mp h with rfl | h
    · rfl
    · rw [List.eq_of_mem_replicate h]
      rfl
  isSpace_pad c h := by rw [List.mem_singleton.mp h]; rfl
  null _ := rfl
  true _ := rfl
  false _ := rfl
  number _ _ := rfl
  string _ _ := rfl
  emptyArray _ := rfl
  array _ _ _ := by simp [prettyChars]
  lastItem _ := rfl
  nextItem _ _ _ := by simp [prettyItems]
  emptyObject _ := rfl
  object _ _ _ _ := by simp [prettyChars]
  lastField _ := rfl
  nextField _ _ _ _ := by simp [prettyFields]

lemma lexes_blanks {blanks : List Char} (h : ∀ c ∈ blanks, isSpace c) (rest : List Char) :
    Lexes blanks [] rest := by
  induction blanks with
  | nil => exact .nil rest
  | cons c blanks ih =>
    obtain ⟨hc, hblanks⟩ := List.forall_mem_cons.mp h
    exact (Lexes.space hc _).append (ih hblanks)

lemma ends_of_space {c : Char} (hc : isSpace c) (rest : List Char) : Ends (c :: rest) := by
  rintro _ ⟨⟩
  simp only [isSpace, Bool.or_eq_true, decide_eq_true_eq] at hc
  rcases hc with ((rfl | rfl) | rfl) | rfl <;> decide

lemma ends_blanks {blanks rest : List Char} (h : ∀ c ∈ blanks, isSpace c) (hrest : Ends rest) :
    Ends (blanks ++ rest) := by
  cases blanks with
  | nil => exact hrest
  | cons c blanks => exact ends_of_space (h c List.mem_cons_self) _

namespace Layout

variable (layout : Layout) (depth : Nat) (rest : List Char)

lemma lexes_gap : Lexes (layout.gap depth) [] rest := lexes_blanks (layout.isSpace_gap depth) rest

lemma lexes_pad : Lexes layout.pad [] rest := lexes_blanks layout.isSpace_pad rest

lemma ends_writeItems (items : List Json) : Ends (layout.writeItems depth items ++ rest) := by
  cases items with
  | nil =>
    rw [layout.lastItem, List.append_assoc]
    exact ends_blanks (layout.isSpace_gap depth) (by rintro _ ⟨⟩; decide)
  | cons item items =>
    rw [layout.nextItem]
    rintro _ ⟨⟩
    decide

lemma ends_writeFields (fields : List (String × Json)) :
    Ends (layout.writeFields depth fields ++ rest) := by
  cases fields with
  | nil =>
    rw [layout.lastField, List.append_assoc]
    exact ends_blanks (layout.isSpace_gap depth) (by rintro _ ⟨⟩; decide)
  | cons e fields =>
    rw [layout.nextField]
    rintro _ ⟨⟩
    decide

/-- The value is cut into its tokens wherever it stands. -/
def Reads (json : Json) : Prop :=
  ∀ depth rest, Ends rest → Lexes (layout.write depth json) json.tokens rest

variable {layout}

lemma lexes_writeItems {items : List Json} (h : ∀ item ∈ items, layout.Reads item) :
    Lexes (layout.writeItems depth items) (tokensOfItems items) rest := by
  induction items with
  | nil =>
    rw [layout.lastItem]
    exact (layout.lexes_gap depth _).append (lexes_mark rfl (fun _ _ => rfl) rest)
  | cons item items ih =>
    obtain ⟨hitem, hitems⟩ := List.forall_mem_cons.mp h
    have htext := (hitem (depth + 1) _ (layout.ends_writeItems depth rest items)).append (ih hitems)
    rw [layout.nextItem]
    exact (lexes_mark rfl (fun _ _ => rfl) _).append ((layout.lexes_gap _ _).append htext)

lemma lexes_field (key : String) {text : List Char} {tokens : List Token}
    (h : Lexes text tokens rest) :
    Lexes (layout.gap depth ++ (quoted key ++ ([':'] ++ (layout.pad ++ text))))
      (.text (.string key) :: .colon :: tokens) rest := by
  have hcolon : ∀ rest, Lexes [':'] [.colon] rest := lexes_mark rfl fun _ _ => rfl
  have hvalue := (hcolon _).append ((layout.lexes_pad _).append h)
  exact (layout.lexes_gap depth _).append ((lexes_quoted key _).append hvalue)

lemma lexes_writeFields {fields : List (String × Json)} (h : ∀ e ∈ fields, layout.Reads e.2) :
    Lexes (layout.writeFields depth fields) (tokensOfFields fields) rest := by
  induction fields with
  | nil =>
    rw [layout.lastField]
    exact (layout.lexes_gap depth _).append (lexes_mark rfl (fun _ _ => rfl) rest)
  | cons e fields ih =>
    obtain ⟨hvalue, hfields⟩ := List.forall_mem_cons.mp h
    have htext :=
      (hvalue (depth + 1) _ (layout.ends_writeFields depth rest fields)).append (ih hfields)
    rw [layout.nextField]
    exact (lexes_mark rfl (fun _ _ => rfl) _).append (lexes_field (depth + 1) rest e.1 htext)

variable (layout) in
/-- A written value is cut into its tokens. -/
lemma reads {json : Json} (h : json.Integral) : layout.Reads json := by
  induction json using Json.induction with
  | null => exact fun depth rest _ => layout.null depth ▸ lexes_null rest
  | bool b =>
    cases b with
    | false => exact fun depth rest _ => layout.false depth ▸ lexes_false rest
    | true => exact fun depth rest _ => layout.true depth ▸ lexes_true rest
  | number n =>
    cases h with
    | number h => exact fun depth rest hrest => layout.number depth n ▸ lexes_number h hrest
  | string s => exact fun depth rest _ => layout.string depth s ▸ lexes_quoted s rest
  | array items ih =>
    cases h with
    | array h =>
      intro depth rest _
      have hitems := fun item hitem => ih item hitem (h item hitem)
      have hopen : ∀ rest, Lexes ['['] [.openBracket] rest := lexes_mark rfl fun _ _ => rfl
      cases items with
      | nil =>
        rw [layout.emptyArray]
        exact (hopen _).append (lexes_mark rfl (fun _ _ => rfl) rest)
      | cons item items =>
        obtain ⟨hitem, hitems⟩ := List.forall_mem_cons.mp hitems
        have htext := (hitem (depth + 1) _ (layout.ends_writeItems depth rest items)).append
          (lexes_writeItems depth rest hitems)
        rw [layout.array]
        exact (hopen _).append ((layout.lexes_gap _ _).append htext)
  | object fields ih =>
    cases h with
    | object h =>
      intro depth rest _
      have hfields := fun e he => ih e he (h e he)
      have hopen : ∀ rest, Lexes ['\x7b'] [.openBrace] rest := lexes_mark rfl fun _ _ => rfl
      obtain ⟨fields⟩ := fields
      cases fields with
      | nil =>
        rw [layout.emptyObject]
        exact (hopen _).append (lexes_mark rfl (fun _ _ => rfl) rest)
      | cons e fields =>
        obtain ⟨hvalue, hfields⟩ := List.forall_mem_cons.mp hfields
        have htext := (hvalue (depth + 1) _ (layout.ends_writeFields depth rest fields)).append
          (lexes_writeFields depth rest hfields)
        rw [layout.object]
        exact (hopen _).append (lexes_field (depth + 1) rest e.1 htext)

end Layout

end Token

end ApiScribe.Json
