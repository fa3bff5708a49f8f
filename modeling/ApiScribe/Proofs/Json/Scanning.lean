import ApiScribe.Proofs.Json.OneLine

/-!
# Tokens wherever they stand

A token without faults is read off the same characters wherever they stand, whatever follows them
that does not go on with a number. None of these characters is a newline, and neither the first nor
the last one is a blank.
-/

namespace ApiScribe.Json

open Text

/-- The tree has a value. -/
def Tree.Good (tree : Tree) : Prop := ∃ json, tree.toJson = .ok json

namespace Tree

variable {tree : Tree} {stop : Option Fault}

lemma not_good_broken (fault : Fault) : ¬(broken fault).Good := by
  rintro ⟨json, h⟩
  cases h

lemma not_good_guarded (fault : Fault) (tree : Tree) : ¬(guarded fault tree).Good := by
  rintro ⟨json, h⟩
  cases h

lemma good_guardWith_iff : (guardWith stop tree).Good ↔ stop = none ∧ tree.Good := by
  cases stop with
  | none => simp [guardWith]
  | some fault => simp [guardWith, not_good_guarded]

end Tree

namespace Token

variable {rest rest' : List Char}

/-- The second text starts like the first, or cannot go on with a number. -/
def Alike (rest rest' : List Char) : Prop := rest'.head? = rest.head? ∨ Ends rest'

lemma Alike.refl (rest : List Char) : Alike rest rest := .inl rfl

lemma Alike.append (h : Alike rest rest') (word : List Char) :
    Alike (word ++ rest) (word ++ rest') := by
  cases word with
  | nil => exact h
  | cons c word => exact .inl rfl

/-- A property of first characters that only digits and the signs in numbers can lack. -/
lemma Alike.head (h : Alike rest rest') {P : Char → Prop}
    (hP : ∀ c, c.isDigit = false ∧ c ≠ '.' ∧ c ≠ 'e' ∧ c ≠ 'E' → P c)
    (hrest : ∀ c ∈ rest.head?, P c) : ∀ c ∈ rest'.head?, P c := by
  intro c hc
  rcases h with hhead | hends
  · exact hrest c (hhead ▸ hc)
  · exact hP c (hends c hc)

lemma Alike.not_digit (h : Alike rest rest') (hrest : ∀ c ∈ rest.head?, c.isDigit = false) :
    ∀ c ∈ rest'.head?, c.isDigit = false :=
  h.head (fun _ hc => hc.1) hrest

end Token

open Token

/-! ### Numbers -/

namespace Numeral

variable {n : Numeral} {negative : Bool} {p : Position} {cs : List Char}

/-- The characters of the word are read as the number in front of everything like the rest. -/
structure Reads (scan : Position → List Char → Scan) (word : List Char) (number : Number)
    (rest : List Char) : Prop where
  not_blank : ∀ c ∈ word, isBlank c = false
  reads : ∀ q rest', Alike rest rest' →
    ∃ stop, scan q (word ++ rest') = { tree := .number number, stop, rest := rest' }

/-- The text starts with a word that is read as a number. -/
def Starts (scan : Position → List Char → Scan) (cs rest : List Char) : Prop :=
  ∃ word number, cs = word ++ rest ∧ Reads scan word number rest

lemma Reads.prepend {scan scan' : Position → List Char → Scan} {word rest : List Char}
    {number : Number} (h : Reads scan' word number rest) {front : List Char}
    (hfront : ∀ c ∈ front, isBlank c = false)
    (heq : ∀ q rest', Alike rest rest' →
      ∃ q', scan q (front ++ (word ++ rest')) = scan' q' (word ++ rest')) :
    Reads scan (front ++ word) number rest where
  not_blank := List.forall_mem_append.mpr ⟨hfront, h.not_blank⟩
  reads q rest' halike := by
    obtain ⟨q', hq'⟩ := heq q rest' halike
    obtain ⟨stop, hstop⟩ := h.reads q' rest' halike
    exact ⟨stop, by rw [List.append_assoc, hq', hstop]⟩

lemma not_good_ended (p : Position) : ¬(Scan.ended p).tree.Good := Tree.not_good_guarded _ _

lemma not_good_scanBroken (cause : Cause) (p : Position) : ¬(Scan.broken cause p).tree.Good :=
  Tree.not_good_broken _

lemma value_of_finish {q : Position} {rest : List Char} (h : (finish n p q rest).tree.Good) :
    ∃ number, n.value = .ok number := by
  unfold finish at h
  dsimp only at h
  split at h
  next number hvalue => exact ⟨number, hvalue⟩
  next => exact absurd h (Tree.not_good_guarded _ _)
  next => exact absurd h (Tree.not_good_guarded _ _)

lemma finish_of_value {number : Number} (h : n.value = .ok number) (p q : Position)
    (rest : List Char) : finish n p q rest = { tree := .number number, stop := q, rest } := by
  rw [finish, h]

/-- The digits at the start of a text. -/
lemma digits_reads {c : Char} (hc : c.isDigit) (cs : List Char) :
    (∀ d ∈ c :: cs.takeWhile Char.isDigit, isBlank d = false) ∧
      ∀ rest', Alike (cs.dropWhile Char.isDigit) rest' →
        (cs.takeWhile Char.isDigit ++ rest').takeWhile Char.isDigit = cs.takeWhile Char.isDigit ∧
        (cs.takeWhile Char.isDigit ++ rest').dropWhile Char.isDigit = rest' := by
  have hdigits : ∀ d ∈ cs.takeWhile Char.isDigit, d.isDigit :=
    List.all_eq_true.mp List.all_takeWhile
  constructor
  · rw [List.forall_mem_cons]
    exact ⟨isBlank_of_isDigit hc, fun d hd => isBlank_of_isDigit (hdigits d hd)⟩
  · intro rest' halike
    exact takeWhile_isDigit_append hdigits (halike.not_digit (head?_dropWhile _ _))

lemma starts_scanExponentDigits (h : (scanExponentDigits n negative p cs).tree.Good) :
    ∃ c word number, cs = c :: word ++ (scanExponentDigits n negative p cs).rest ∧ c.isDigit ∧
      Reads (scanExponentDigits n negative) (c :: word) number
        (scanExponentDigits n negative p cs).rest := by
  cases cs with
  | nil => exact absurd h (not_good_ended p)
  | cons c cs =>
    by_cases hc : c.isDigit
    · rw [scanExponentDigits, if_pos hc] at h ⊢
      obtain ⟨number, hnumber⟩ := value_of_finish h
      obtain ⟨hblank, hdigits⟩ := digits_reads hc cs
      refine ⟨c, cs.takeWhile Char.isDigit, number, ?_, hc, hblank, fun q rest' halike => ?_⟩
      · exact congrArg (c :: ·) List.takeWhile_append_dropWhile.symm
      · obtain ⟨htake, hdrop⟩ := hdigits rest' halike
        rw [List.cons_append, scanExponentDigits, if_pos hc, htake, hdrop]
        exact ⟨_, finish_of_value hnumber _ _ _⟩
    · rw [scanExponentDigits, if_neg hc] at h
      exact absurd h (not_good_scanBroken _ _)

lemma scanExponent_of_head {rest : List Char} (h : ∀ c ∈ rest.head?, ¬(c = 'e' ∨ c = 'E'))
    (n : Numeral) (p : Position) : scanExponent n p rest = finish n p p rest := by
  cases rest with
  | nil => rfl
  | cons c rest =>
    unfold scanExponent
    exact if_neg (h c rfl)

lemma reads_nil {rest : List Char} (h : (finish n p p rest).tree.Good)
    (hrest : ∀ c ∈ rest.head?, ¬(c = 'e' ∨ c = 'E')) :
    Starts (scanExponent n) rest rest := by
  obtain ⟨number, hnumber⟩ := value_of_finish h
  refine ⟨[], number, rfl, List.forall_mem_nil _, fun q rest' halike => ?_⟩
  have hrest' := halike.head (fun c hc => by simp [hc]) hrest
  exact ⟨q, by rw [List.nil_append, scanExponent_of_head hrest', finish_of_value hnumber]⟩

lemma starts_exponent (front : List Char) (hfront : ∀ c ∈ front, isBlank c = false)
    (heq : ∀ q d ds, d.isDigit →
      ∃ q', scanExponent n q (front ++ d :: ds) = scanExponentDigits n negative q' (d :: ds))
    (h : (scanExponentDigits n negative p cs).tree.Good) :
    Starts (scanExponent n) (front ++ cs) (scanExponentDigits n negative p cs).rest := by
  obtain ⟨d, word, number, hcs, hd, hreads⟩ := starts_scanExponentDigits h
  refine ⟨front ++ d :: word, number, ?_, hreads.prepend hfront fun q rest' _ => heq q d _ hd⟩
  rw [List.append_assoc, ← hcs]

lemma starts_scanExponent (h : (scanExponent n p cs).tree.Good) :
    Starts (scanExponent n) cs (scanExponent n p cs).rest := by
  have hblank : ∀ {e : Char}, e = 'e' ∨ e = 'E' → isBlank e = false := by
    rintro e (rfl | rfl) <;> decide
  revert h
  fun_cases scanExponent n p cs with
  | case1 =>
    intro h
    exact reads_nil h fun c hc => by cases hc
  | case2 e he cs =>
    refine starts_exponent [e, '+'] (by simp [hblank he]; decide) fun q d ds _ => ?_
    exact ⟨q.skip 2, by simp [scanExponent, he]⟩
  | case3 e he cs =>
    refine starts_exponent [e, '-'] (by simp [hblank he]; decide) fun q d ds _ => ?_
    exact ⟨q.skip 2, by simp [scanExponent, he]⟩
  | case4 e he cs =>
    refine starts_exponent [e] (by simp [hblank he]) fun q d ds hd => ⟨q.skip 1, ?_⟩
    have hplus : d ≠ '+' := by rintro rfl; exact absurd hd (by decide)
    have hminus : d ≠ '-' := by rintro rfl; exact absurd hd (by decide)
    simp [scanExponent, he, hplus, hminus]
  | case5 e cs he =>
    intro h
    refine reads_nil h ?_
    rintro c ⟨⟩
    exact he

lemma scanFraction_of_head {rest : List Char} (h : ∀ c ∈ rest.head?, c ≠ '.') (n : Numeral)
    (p : Position) : scanFraction n p rest = scanExponent n p rest := by
  cases rest with
  | nil => rfl
  | cons c rest =>
    rw [scanFraction]
    rintro cs heq
    exact h c rfl (List.cons.inj heq).1

lemma starts_scanFraction (h : (scanFraction n p cs).tree.Good) :
    Starts (scanFraction n) cs (scanFraction n p cs).rest := by
  revert h
  fun_cases scanFraction n p cs with
  | case1 => exact fun h => absurd h (not_good_ended _)
  | case2 => exact fun h => absurd h (not_good_scanBroken _ _)
  | case3 cs fraction hne =>
    intro h
    obtain ⟨word, number, hcs, hreads⟩ := starts_scanExponent h
    have hfraction : ∀ d ∈ fraction, d.isDigit := List.all_eq_true.mp List.all_takeWhile
    refine ⟨('.' :: fraction) ++ word, number, ?_, hreads.prepend ?_ fun q rest' halike => ?_⟩
    · rw [List.append_assoc, ← hcs, List.cons_append, List.takeWhile_append_dropWhile]
    · rw [List.forall_mem_cons]
      exact ⟨by decide, fun d hd => isBlank_of_isDigit (hfraction d hd)⟩
    · have hword := halike.append word
      rw [← hcs] at hword
      obtain ⟨htake, hdrop⟩ :=
        takeWhile_isDigit_append hfraction (hword.not_digit (head?_dropWhile _ _))
      refine ⟨q.skip (1 + fraction.length), ?_⟩
      simp only [List.cons_append, scanFraction, htake, hdrop, if_neg hne]
  | case4 cs hpoint =>
    intro h
    obtain ⟨word, number, hcs, hreads⟩ := starts_scanExponent h
    refine ⟨word, number, hcs, hreads.prepend (List.forall_mem_nil _) fun q rest' halike => ⟨q, ?_⟩⟩
    have hword := halike.append word
    rw [← hcs] at hword
    refine scanFraction_of_head (hword.head (fun c hc => hc.2.1) ?_) n q
    rintro c hc rfl
    obtain ⟨cs', rfl⟩ := List.head?_eq_some_iff.mp hc
    exact hpoint cs' rfl

/-- A whole part that is read as the start of a number. -/
lemma starts_whole (whole : List Char) (hne : whole ≠ [])
    (hwhole : ∀ d ∈ whole, isBlank d = false)
    (heq : ∀ q rest', Alike cs rest' →
      ∃ q', scanWhole negative q (whole ++ rest') = scanFraction n q' rest')
    (h : (scanFraction n p cs).tree.Good) :
    ∃ word number, whole ++ cs = word ++ (scanFraction n p cs).rest ∧ word ≠ [] ∧
      Reads (scanWhole negative) word number (scanFraction n p cs).rest := by
  obtain ⟨word, number, hcs, hreads⟩ := starts_scanFraction h
  refine ⟨whole ++ word, number, ?_, by simp [hne], hreads.prepend hwhole fun q rest' halike => ?_⟩
  · rw [List.append_assoc, ← hcs]
  · have hword := halike.append word
    rw [← hcs] at hword
    exact heq q _ hword

lemma scanWhole_zero {rest : List Char} (h : ∀ c ∈ rest.head?, c.isDigit = false)
    (negative : Bool) (p : Position) :
    scanWhole negative p ('0' :: rest) =
      scanFraction { negative, whole := ['0'] } (p.skip 1) rest := by
  cases rest with
  | nil => rfl
  | cons c rest => simp [scanWhole, h c rfl]

lemma starts_scanWhole (h : (scanWhole negative p cs).tree.Good) :
    ∃ word number, cs = word ++ (scanWhole negative p cs).rest ∧ word ≠ [] ∧
      Reads (scanWhole negative) word number (scanWhole negative p cs).rest := by
  have hzero : ∀ d ∈ ['0'], isBlank d = false := by simp; decide
  revert h
  fun_cases scanWhole negative p cs with
  | case1 => exact fun h => absurd h (not_good_ended _)
  | case2 =>
    refine starts_whole ['0'] (List.cons_ne_nil _ _) hzero fun q rest' halike => ⟨q.skip 1, ?_⟩
    exact scanWhole_zero (halike.not_digit fun c hc => by cases hc) negative q
  | case3 => exact fun h => absurd h (not_good_scanBroken _ _)
  | case4 c cs hc =>
    refine starts_whole ['0'] (List.cons_ne_nil _ _) hzero fun q rest' halike => ⟨q.skip 1, ?_⟩
    refine scanWhole_zero (halike.not_digit ?_) negative q
    rintro d ⟨⟩
    exact (Bool.not_eq_true _).mp hc
  | case5 c cs hne hc =>
    obtain ⟨hblank, hdigits⟩ := digits_reads hc cs
    have heq : c :: cs = (c :: cs.takeWhile Char.isDigit) ++ cs.dropWhile Char.isDigit := by
      rw [List.cons_append, List.takeWhile_append_dropWhile]
    rw [heq]
    refine starts_whole _ (List.cons_ne_nil _ _) hblank fun q rest' halike => ?_
    obtain ⟨htake, hdrop⟩ := hdigits rest' halike
    refine ⟨q.skip (c :: cs.takeWhile Char.isDigit).length, ?_⟩
    rw [List.cons_append, scanWhole, if_pos hc, htake, hdrop]
    exact hne
  | case6 => exact fun h => absurd h (not_good_scanBroken _ _)

/-- A number is read off the same characters wherever they stand. -/
lemma starts_scan (h : (scan p cs).tree.Good) :
    ∃ word number, cs = word ++ (scan p cs).rest ∧ word ≠ [] ∧
      Reads scan word number (scan p cs).rest := by
  revert h
  fun_cases scan p cs with
  | case1 cs =>
    intro h
    obtain ⟨word, number, hcs, -, hreads⟩ := starts_scanWhole h
    refine ⟨['-'] ++ word, number, congrArg ('-' :: ·) hcs, by simp, hreads.prepend ?_ ?_⟩
    · simp
      decide
    · exact fun q rest' _ => ⟨q.skip 1, rfl⟩
  | case2 cs hminus =>
    intro h
    obtain ⟨word, number, hcs, hne, hreads⟩ := starts_scanWhole h
    obtain ⟨c, word, rfl⟩ := List.exists_cons_of_ne_nil hne
    refine ⟨c :: word, number, hcs, hne, hreads.prepend (List.forall_mem_nil _) ?_⟩
    intro q rest' _
    refine ⟨q, ?_⟩
    rw [List.nil_append, scan]
    rintro cs' heq
    obtain ⟨rfl, -⟩ := List.cons.inj heq
    exact hminus _ hcs

end Numeral

namespace Token

/-- The token is a mark, a string or another scalar with a value. -/
def Sound : Token → Prop
  | .text tree => ∃ s, tree = .string s
  | .literal tree => tree.Good
  | .stray => False
  | .openBrace | .closeBrace | .openBracket | .closeBracket | .comma | .colon => True

/-! ### Strings -/

section Strings

variable {content : Content} {p : Position} {cs : List Char}

lemma Content.refuse_flaw (content : Content) (cause : Cause) (p : Position) :
    (content.refuse cause p).flaw ≠ none := by
  cases hflaw : content.flaw <;> simp [Content.refuse, hflaw]

lemma Content.takeUnit_same {unit : Nat} (h : (content.takeUnit unit p).flaw = none) :
    content.flaw = none ∧ ∀ q, content.takeUnit unit q = content.takeUnit unit p := by
  unfold Content.takeUnit at h ⊢
  split at h
  · split_ifs at h with htrailing
    · simpa [htrailing, Content.push] using h
    · exact absurd h (Content.refuse_flaw _ _ _)
  · split_ifs at h with htrailing hleading
    · exact absurd h (Content.refuse_flaw _ _ _)
    · simpa [htrailing, hleading] using h
    · simpa [htrailing, hleading, Content.push] using h

lemma Content.unpaired_same (h : (content.unpaired p).flaw = none) :
    content.flaw = none ∧ ∀ q, content.unpaired q = content.unpaired p := by
  unfold Content.unpaired at h ⊢
  split_ifs at h with hlead
  · exact absurd h (Content.refuse_flaw _ _ _)
  · rw [if_neg hlead]
    exact ⟨h, fun q => if_neg hlead⟩

lemma not_sound_brokenString (content : Content) (cause : Cause) (p : Position) :
    ¬(brokenString content cause p).token.Sound := by
  rintro ⟨s, h⟩
  cases hflaw : content.flaw <;> simp [hflaw, Tree.guardWith] at h

lemma newline_notMem_of_unit? {a b c d : Char} {unit : Nat} (h : unit? a b c d = some unit) :
    '\n' ∉ [a, b, c, d] := by
  have hnewline : hexValue? '\n' = none := by decide
  intro hmem
  simp only [List.mem_cons, List.not_mem_nil, or_false] at hmem
  rcases hmem with rfl | rfl | rfl | rfl <;> simp [unit?, hnewline] at h

lemma scanString_shortEscape {c char : Char} (hc : c ≠ 'u') (hchar : shortEscape? c = some char)
    (content : Content) (p : Position) (cs : List Char) :
    scanString content p ('\\' :: c :: cs) =
      scanString ((content.unpaired ((p.skip 1).bump c)).push char) (p.skip 2) cs := by
  rw [scanString]
  · rw [hchar]
  · rintro _ _ _ _ _ rfl
    exact absurd rfl hc
  · rintro rfl
    exact absurd rfl hc

lemma scanString_char {c : Char} (hc : c ≠ '\\') (content : Content) (p : Position)
    (cs : List Char) :
    scanString content p (c :: cs) =
      if c = '"' then
        { token := .text (content.unpaired (p.bump c)).tree, stop := p.skip 1, rest := cs }
      else if c.toNat < 0x20 then
        brokenString (content.unpaired (p.bump c)) .controlCharacter (p.bump c)
      else scanString ((content.unpaired (p.bump c)).push c) (p.advance c) cs := by
  rw [scanString]
  · exact fun h => absurd h hc
  · exact fun _ _ _ _ _ h => absurd h hc
  · exact fun _ h => absurd h hc
  · exact fun _ _ h => absurd h hc

/-- The string goes on to a quote on the same line, and is read as the token wherever it stands. -/
def Closes (content : Content) (cs : List Char) (token : Token) (rest : List Char) : Prop :=
  content.flaw = none ∧ ∃ word, cs = word ++ '"' :: rest ∧ '\n' ∉ word ∧
    ∀ q rest', ∃ stop, scanString content q (word ++ '"' :: rest') = { token, stop, rest := rest' }

lemma Closes.prepend {content content' : Content} {cs rest : List Char} {token : Token}
    (h : Closes content' cs token rest) (front : List Char) (hfront : '\n' ∉ front)
    (heq : content'.flaw = none → content.flaw = none ∧
      ∀ q cs', ∃ q', scanString content q (front ++ cs') = scanString content' q' cs') :
    Closes content (front ++ cs) token rest := by
  obtain ⟨hflaw, word, rfl, hword, hreads⟩ := h
  obtain ⟨hflaw', hstep⟩ := heq hflaw
  refine ⟨hflaw', front ++ word, by rw [List.append_assoc], by simp [hfront, hword], ?_⟩
  intro q rest'
  obtain ⟨q', hq'⟩ := hstep q (word ++ '"' :: rest')
  obtain ⟨stop, hstop⟩ := hreads q' rest'
  exact ⟨stop, by rw [List.append_assoc, hq', hstop]⟩

/-- A string is read off the same characters wherever they stand. -/
lemma closes_scanString (h : (scanString content p cs).token.Sound) :
    Closes content cs (scanString content p cs).token (scanString content p cs).rest := by
  revert h
  fun_induction scanString content p cs with
  | case1 => exact fun h => absurd h (not_sound_brokenString _ _ _)
  | case2 => exact fun h => absurd h (not_sound_brokenString _ _ _)
  | case3 content p a b c d cs unit hunit ih =>
    intro h
    have hfront := newline_notMem_of_unit? hunit
    refine (ih h).prepend ['\\', 'u', a, b, c, d] (by simpa using hfront) fun hflaw => ?_
    obtain ⟨hnone, hsame⟩ := Content.takeUnit_same hflaw
    refine ⟨hnone, fun q cs' => ⟨q.skip 6, ?_⟩⟩
    simp only [List.cons_append, List.nil_append, scanString, hunit, hsame]
  | case4 => exact fun h => absurd h (not_sound_brokenString _ _ _)
  | case5 => exact fun h => absurd h (not_sound_brokenString _ _ _)
  | case6 => exact fun h => absurd h (not_sound_brokenString _ _ _)
  | case7 content p c cs _ hu position content' char hchar ih =>
    intro h
    have hnewline : c ≠ '\n' := by
      rintro rfl
      cases hchar
    refine (ih h).prepend ['\\', c] (by simpa using hnewline.symm) fun hflaw => ?_
    obtain ⟨hnone, hsame⟩ := Content.unpaired_same hflaw
    refine ⟨hnone, fun q cs' => ⟨q.skip 2, ?_⟩⟩
    rw [List.cons_append, List.singleton_append, scanString_shortEscape hu hchar, hsame]
  | case8 => exact fun h => absurd h (not_sound_brokenString _ _ _)
  | case9 content p cs _ _ _ _ content' =>
    rintro ⟨s, hs⟩
    have htree : content'.tree.Good := ⟨.string s, by rw [hs]; rfl⟩
    obtain ⟨hflaw, -⟩ := Tree.good_guardWith_iff.mp htree
    obtain ⟨hnone, hsame⟩ := Content.unpaired_same hflaw
    refine ⟨hnone, [], rfl, List.not_mem_nil, fun q rest' => ⟨q.skip 1, ?_⟩⟩
    rw [List.nil_append, scanString_char (by decide), if_pos rfl, hsame]
  | case10 => exact fun h => absurd h (not_sound_brokenString _ _ _)
  | case11 content p c cs hlast _ _ hescape content' hquote hcontrol ih =>
    intro h
    have hbackslash : c ≠ '\\' := by
      rintro rfl
      cases cs with
      | nil => exact hlast rfl rfl
      | cons d cs => exact hescape d cs rfl rfl
    have hnewline : c ≠ '\n' := by
      rintro rfl
      exact hcontrol (by decide)
    refine (ih h).prepend [c] (by simpa using hnewline.symm) fun hflaw => ?_
    obtain ⟨hnone, hsame⟩ := Content.unpaired_same hflaw
    refine ⟨hnone, fun q cs' => ⟨q.advance c, ?_⟩⟩
    rw [List.singleton_append, scanString_char hbackslash, if_neg hquote, if_neg hcontrol, hsame]

end Strings

/-! ### Tokens -/

/-- The characters of the word are read as the token in front of everything like the rest. -/
structure Word (word : List Char) (token : Token) (rest : List Char) : Prop where
  newline_notMem : '\n' ∉ word
  head : ∃ c ∈ word.head?, isBlank c = false ∧ c ≠ '@'
  last : ∃ c ∈ word.getLast?, isBlank c = false
  lexes : ∀ rest', Alike rest rest' → Lexes word [token] rest'

variable {p : Position} {c : Char} {cs : List Char} {token : Token}

lemma isBlank_of_isSpace (h : isSpace c) : isBlank c := by
  simp only [isSpace, Bool.or_eq_true, decide_eq_true_eq] at h
  rcases h with ((rfl | rfl) | rfl) | rfl <;> decide

lemma isSpace_of_not_blank (h : isBlank c = false) : isSpace c = false := by
  cases hspace : isSpace c with
  | false => rfl
  | true => exact absurd (isBlank_of_isSpace hspace) (by simp [h])

lemma Word.of_not_blank (hc : c ≠ '@') (h : ∀ d ∈ c :: cs, isBlank d = false)
    (hlexes : ∀ rest', Alike rest rest' → Lexes (c :: cs) [token] rest') :
    Word (c :: cs) token rest where
  newline_notMem hmem := absurd (h _ hmem) (by decide)
  head := ⟨c, rfl, h c List.mem_cons_self, hc⟩
  last := ⟨_, List.getLast?_eq_some_getLast (List.cons_ne_nil c cs), h _ (List.getLast_mem _)⟩
  lexes := hlexes

lemma word_mark (hc : isBlank c = false ∧ c ≠ '@')
    (h : ∀ p cs, scan p c cs = { token, stop := p.skip 1, rest := cs }) (rest : List Char) :
    Word [c] token rest :=
  .of_not_blank hc.2 (List.forall_mem_singleton.mpr hc.1) fun rest' _ =>
    lexes_mark (isSpace_of_not_blank hc.1) h rest'

/-- A word is read to its last letter. -/
lemma scanWord_of_sound {value : Tree} {letters : List Char}
    (h : (scanWord value p letters cs).token.Sound) :
    cs = letters ++ (scanWord value p letters cs).rest ∧
      (scanWord value p letters cs).token = .literal value := by
  revert h
  fun_induction scanWord value p letters cs with
  | case1 => exact fun _ => ⟨rfl, rfl⟩
  | case2 => exact fun h => absurd h (Tree.not_good_broken _)
  | case3 p letters letter cs ih =>
    intro h
    obtain ⟨hcs, htoken⟩ := ih h
    exact ⟨congrArg (letter :: ·) hcs, htoken⟩
  | case4 => exact fun h => absurd h (Tree.not_good_broken _)

lemma word_literal {value : Tree} {letters : List Char} (hc : c ≠ '@')
    (hletters : (c :: letters).all (!isBlank ·))
    (hscan : ∀ p cs, scan p c cs = scanWord value (p.skip 1) letters cs)
    (h : (scanWord value p letters cs).token.Sound) :
    ∃ word, c :: cs = word ++ (scanWord value p letters cs).rest ∧
      Word word (scanWord value p letters cs).token (scanWord value p letters cs).rest := by
  have hblank : ∀ d ∈ c :: letters, isBlank d = false := by simpa using hletters
  obtain ⟨hcs, htoken⟩ := scanWord_of_sound h
  refine ⟨c :: letters, congrArg (c :: ·) hcs, .of_not_blank hc hblank fun rest' _ => ?_⟩
  rw [htoken]
  refine .of_scan (isSpace_of_not_blank (hblank c List.mem_cons_self)) fun q => ?_
  rw [hscan]
  exact scanWord_append value (q.skip 1) letters rest'

lemma word_string (h : (scanString {} p cs).token.Sound) :
    ∃ word, '"' :: cs = word ++ (scanString {} p cs).rest ∧
      Word word (scanString {} p cs).token (scanString {} p cs).rest := by
  obtain ⟨-, word, hcs, hnewline, hreads⟩ := closes_scanString h
  refine ⟨'"' :: (word ++ ['"']), ?_, ?_, ⟨'"', rfl, by decide⟩, ⟨'"', ?_, by decide⟩, ?_⟩
  · rw [List.cons_append, List.append_assoc, List.singleton_append, ← hcs]
  · simpa using hnewline
  · rw [← List.cons_append]
    exact List.getLast?_concat
  · intro rest' _
    refine .of_scan rfl fun q => ?_
    rw [List.append_assoc, List.singleton_append]
    exact hreads (q.skip 1) rest'

lemma word_numeral (hc : c = '-' ∨ c.isDigit) (h : (scanNumeral p (c :: cs)).token.Sound) :
    ∃ word, c :: cs = word ++ (scanNumeral p (c :: cs)).rest ∧
      Word word (scanNumeral p (c :: cs)).token (scanNumeral p (c :: cs)).rest := by
  obtain ⟨word, number, hcs, hne, hblank, hreads⟩ := Numeral.starts_scan h
  obtain ⟨d, word, rfl⟩ := List.exists_cons_of_ne_nil hne
  obtain rfl : c = d := (List.cons.inj hcs).1
  have hat : c ≠ '@' := by
    rintro rfl
    exact absurd hc (by decide)
  have htoken : (scanNumeral p (c :: cs)).token = .literal (.number number) := by
    obtain ⟨stop, hstop⟩ := hreads p _ (.refl _)
    rw [← hcs] at hstop
    rw [scanNumeral, hstop]
  refine ⟨c :: word, hcs, .of_not_blank hat hblank fun rest' halike => ?_⟩
  rw [htoken]
  exact .of_scanNumeral hc fun q => hreads q rest' halike

/-- A token is read off the same characters wherever they stand. -/
lemma word_of_scan (h : (scan p c cs).token.Sound) :
    ∃ word, c :: cs = word ++ (scan p c cs).rest ∧
      Word word (scan p c cs).token (scan p c cs).rest := by
  revert h
  fun_cases scan p c cs with
  | case1 => exact fun _ => ⟨_, rfl, word_mark (by decide) (fun _ _ => rfl) cs⟩
  | case2 => exact fun _ => ⟨_, rfl, word_mark (by decide) (fun _ _ => rfl) cs⟩
  | case3 => exact fun _ => ⟨_, rfl, word_mark (by decide) (fun _ _ => rfl) cs⟩
  | case4 => exact fun _ => ⟨_, rfl, word_mark (by decide) (fun _ _ => rfl) cs⟩
  | case5 => exact fun _ => ⟨_, rfl, word_mark (by decide) (fun _ _ => rfl) cs⟩
  | case6 => exact fun _ => ⟨_, rfl, word_mark (by decide) (fun _ _ => rfl) cs⟩
  | case7 => exact word_string
  | case8 => exact word_literal (by decide) (by decide) fun _ _ => rfl
  | case9 => exact word_literal (by decide) (by decide) fun _ _ => rfl
  | case10 => exact word_literal (by decide) (by decide) fun _ _ => rfl
  | case11 _ _ _ _ _ _ _ _ _ _ _ hc => exact word_numeral hc
  | case12 => exact fun h => h.elim

end Token

end ApiScribe.Json
