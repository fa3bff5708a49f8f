import ApiScribe.Proofs.Builder.Phrases

/-!
# Forms of arguments

The arguments of annotations are read word by word, and a reader accepts an argument exactly if its
words have the form that goes with the annotation. A summary is the text from its first word to the
end, with whatever blanks there are between its words.
-/

namespace ApiScribe

namespace Text

variable {s : String} {cs rest word : List Char} {n : Nat}

/-! ### Words and what follows them -/

lemma wordChars_append (hne : word ≠ []) (hword : ∀ c ∈ word, isBlank c = false)
    (hrest : ∀ c ∈ rest.head?, isBlank c = true) :
    wordChars (word ++ rest) = word :: wordChars rest := by
  cases rest with
  | nil => simp [wordChars_of_not_blank hne hword, wordChars]
  | cons b rest => exact wordChars_append_blank hne hword (hrest b rfl)

lemma wordChars_dropWhile (cs : List Char) : wordChars (cs.dropWhile isBlank) = wordChars cs := by
  induction cs with
  | nil => rfl
  | cons c cs ih =>
    cases hc : isBlank c with
    | false => simp [hc]
    | true => rw [List.dropWhile_cons_of_pos hc, ih, wordChars_blank hc]

/-- The words of a text are made of what is not blank in it. -/
lemma flatten_wordChars (cs : List Char) : (wordChars cs).flatten = cs.filter (!isBlank ·) := by
  fun_induction wordChars cs with
  | case1 => rfl
  | case2 c hc => simp [hc]
  | case3 c hc => simp [hc]
  | case4 c d cs hc ih => simpa [hc] using ih
  | case5 c d cs hc hd ih => simpa [hc] using ih
  | case6 c d cs hc hd ih =>
    have hcons : (consHead c (wordChars (d :: cs))).flatten =
        c :: (wordChars (d :: cs)).flatten := by
      cases wordChars (d :: cs) <;> rfl
    rw [hcons, ih]
    simp [hc]

/-- What is left of a tidy text ends as the text does. -/
lemma Tidy.last_of_suffix (h : Tidy s) (hrest : rest <:+ s.toList) :
    ∀ c ∈ rest.getLast?, isBlank c = false := by
  intro c hc
  obtain ⟨front, hfront⟩ := hrest
  apply h.last c
  rw [← hfront, List.getLast?_append, Option.mem_def.mp hc]
  rfl

lemma eq_nil_of_words_eq_nil (h : words (.ofList cs) = [])
    (hlast : ∀ c ∈ cs.getLast?, isBlank c = false) : cs = [] := by
  rw [words, String.toList_ofList, List.map_eq_nil_iff] at h
  have hblank : cs.filter (!isBlank ·) = [] := by rw [← flatten_wordChars, h]; rfl
  rcases List.eq_nil_or_concat cs with hnil | ⟨front, c, rfl⟩
  · exact hnil
  · have hc : isBlank c = false := hlast c (by simp)
    simp [hc] at hblank

/-! ### Texts from a word on -/

/-- The second text is the first one from the word with the given number on, where the first word
has number 0. -/
structure FromWord (n : Nat) (text tail : String) : Prop where
  suffix : tail.toList <:+ text.toList
  words : words tail = (words text).drop n
  head : ∀ c ∈ tail.toList.head?, isBlank c = false

lemma eq_of_suffix (hsuffix : rest <:+ cs) (hwords : wordChars rest = wordChars cs)
    (hhead : ∀ c ∈ cs.head?, isBlank c = false) : rest = cs := by
  obtain ⟨front, rfl⟩ := hsuffix
  cases front with
  | nil => rfl
  | cons c front =>
    have hc : isBlank c = false := hhead c rfl
    have hfilter := congrArg (List.length ∘ List.flatten) hwords
    simp only [Function.comp_apply, flatten_wordChars] at hfilter
    simp [hc] at hfilter
    omega

lemma wordChars_eq_of_words_eq {t : String} (h : words s = words t) :
    wordChars s.toList = wordChars t.toList :=
  List.map_injective_iff.mpr (fun _ _ => String.ofList_injective) h

/-- A text has one part that starts with a given word. -/
lemma FromWord.unique {text tail tail' : String} (h : FromWord n text tail)
    (h' : FromWord n text tail') : tail = tail' := by
  have hwords : wordChars tail.toList = wordChars tail'.toList :=
    wordChars_eq_of_words_eq (h.words.trans h'.words.symm)
  rw [← String.toList_inj]
  rcases List.suffix_or_suffix_of_suffix h.suffix h'.suffix with hsuffix | hsuffix
  · exact eq_of_suffix hsuffix hwords h'.head
  · exact (eq_of_suffix hsuffix hwords.symm h.head).symm

lemma words_dropWhile (cs : List Char) :
    words (.ofList (cs.dropWhile isBlank)) = words (.ofList cs) := by
  rw [words, words, String.toList_ofList, String.toList_ofList, wordChars_dropWhile]

/-- A text that starts with a word is this word and what follows it. -/
lemma words_takeWhile (hne : cs ≠ []) (hhead : ∀ c ∈ cs.head?, isBlank c = false) :
    words (.ofList cs) =
      .ofList (cs.takeWhile (!isBlank ·)) :: words (.ofList (cs.dropWhile (!isBlank ·))) := by
  have hword : cs.takeWhile (!isBlank ·) ≠ [] := by
    obtain ⟨c, cs, rfl⟩ := List.exists_cons_of_ne_nil hne
    simp [hhead c rfl]
  have hsolid : ∀ c ∈ cs.takeWhile (!isBlank ·), isBlank c = false := by
    intro c hc
    simpa using List.mem_takeWhile_imp hc
  have hrest : ∀ c ∈ (cs.dropWhile (!isBlank ·)).head?, isBlank c = true := by
    intro c hc
    simpa using head?_dropWhile (!isBlank ·) cs c hc
  have hwords := wordChars_append hword hsolid hrest
  rw [List.takeWhile_append_dropWhile] at hwords
  rw [words, words, String.toList_ofList, String.toList_ofList, hwords, List.map_cons]

lemma exists_fromWord (n : Nat) (text : String) : ∃ tail, FromWord n text tail := by
  induction n with
  | zero =>
    refine ⟨.ofList (text.toList.dropWhile isBlank), ?_, ?_, ?_⟩
    · rw [String.toList_ofList]
      exact List.dropWhile_suffix isBlank
    · rw [words_dropWhile, String.ofList_toList, List.drop_zero]
    · rw [String.toList_ofList]
      exact head?_dropWhile isBlank _
  | succ n ih =>
    obtain ⟨tail, hsuffix, hwords, hhead⟩ := ih
    by_cases hne : tail.toList = []
    · -- there is no word left to drop
      refine ⟨tail, hsuffix, ?_, hhead⟩
      have hnil : words tail = [] := by rw [words, hne]; rfl
      rw [hnil] at hwords ⊢
      rw [← List.drop_drop, ← hwords, List.drop_nil]
    · have htail := words_takeWhile hne hhead
      rw [String.ofList_toList] at htail
      refine ⟨.ofList ((tail.toList.dropWhile (!isBlank ·)).dropWhile isBlank), ?_, ?_, ?_⟩
      · rw [String.toList_ofList]
        exact (List.dropWhile_suffix _).trans ((List.dropWhile_suffix _).trans hsuffix)
      · rw [words_dropWhile, ← List.drop_drop, ← hwords, htail, List.drop_succ_cons, List.drop_zero]
      · rw [String.toList_ofList]
        exact head?_dropWhile isBlank _

/-- A tidy text with one word is this word. -/
lemma words_eq_singleton_iff {t : String} (h : Tidy s) : words s = [t] ↔ s = t ∧ Bare t := by
  constructor
  · intro hwords
    have hbare : Bare t := bare_of_mem_words (s := s) (by simp [hwords])
    refine ⟨?_, hbare⟩
    have hne : s.toList ≠ [] := by
      intro hnil
      rw [words, hnil] at hwords
      cases hwords
    have hsplit := words_takeWhile hne h.head
    rw [String.ofList_toList, hwords, List.cons.injEq] at hsplit
    obtain ⟨rfl, hrest⟩ := hsplit
    have hnil := eq_nil_of_words_eq_nil hrest.symm (h.last_of_suffix (List.dropWhile_suffix _))
    have happend := List.takeWhile_append_dropWhile (p := (!isBlank ·)) (l := s.toList)
    rw [hnil, List.append_nil] at happend
    rw [happend, String.ofList_toList]
  · rintro ⟨rfl, hbare⟩
    have hwords := words_phrase (List.forall_mem_singleton.mpr hbare)
    rwa [phrase, String.intercalate_singleton] at hwords

end Text

namespace Builder.Argument

open Text

variable {argument : String} {front : List String} {cs rest word : List Char}

/-! ### Reading word by word -/

/-- The words in front have been read, and the characters are left. -/
structure Behind (argument : String) (front : List String) (cs : List Char) : Prop where
  suffix : cs <:+ argument.toList
  read : words argument = front ++ words (.ofList cs)
  boundary : ∀ c ∈ cs.head?, isBlank c = true

/-- The first word of a text, and what follows it. -/
lemma words_of_word? (h : word? cs = some (word, rest)) :
    words (.ofList cs) = .ofList word :: words (.ofList rest) ∧ rest <:+ cs ∧
      ∀ c ∈ rest.head?, isBlank c = true := by
  obtain ⟨hne, rfl, rfl⟩ := word?_eq_some_iff.mp h
  refine ⟨words_takeWhile ?_ ?_, List.dropWhile_suffix _, ?_⟩
  · rintro rfl
    exact hne rfl
  · intro c hc
    by_contra hblank
    obtain ⟨tail, rfl⟩ := List.head?_eq_some_iff.mp hc
    simp [hblank] at hne
  · intro c hc
    simpa using head?_dropWhile (!isBlank ·) cs c hc

lemma exists_word? (hhead : ∀ c ∈ cs.head?, isBlank c = false) (hwords : words (.ofList cs) ≠ []) :
    ∃ word rest, word? cs = some (word, rest) := by
  cases cs with
  | nil => exact absurd rfl hwords
  | cons c cs => exact ⟨_, _, word?_eq_some_iff.mpr ⟨by simp [hhead c rfl], rfl, rfl⟩⟩

lemma afterBlanks?_eq_some (h : afterBlanks? cs = some rest) :
    words (.ofList rest) = words (.ofList cs) ∧ rest <:+ cs ∧
      ∀ c ∈ rest.head?, isBlank c = false := by
  cases cs with
  | nil => cases h
  | cons b cs =>
    rw [afterBlanks?] at h
    split_ifs at h with hb
    cases h
    refine ⟨?_, (List.dropWhile_suffix _).trans (List.suffix_cons b cs), head?_dropWhile isBlank _⟩
    rw [← words_dropWhile (b :: cs), List.dropWhile_cons_of_pos hb]

lemma exists_afterBlanks? (hhead : ∀ c ∈ cs.head?, isBlank c = true)
    (hwords : words (.ofList cs) ≠ []) : ∃ rest, afterBlanks? cs = some rest := by
  cases cs with
  | nil => exact absurd rfl hwords
  | cons b cs => exact ⟨cs.dropWhile isBlank, if_pos (hhead b rfl)⟩

lemma behind_of_word? (h : word? argument.toList = some (word, cs)) :
    Behind argument [.ofList word] cs := by
  obtain ⟨hwords, hsuffix, hboundary⟩ := words_of_word? h
  rw [String.ofList_toList] at hwords
  exact ⟨hsuffix, hwords, hboundary⟩

lemma exists_behind {first : String} {others : List String} (h : Tidy argument)
    (hwords : words argument = first :: others) :
    ∃ word cs, word? argument.toList = some (word, cs) ∧ .ofList word = first ∧
      Behind argument [first] cs := by
  have hne : words (.ofList argument.toList) ≠ [] := by simp [hwords]
  obtain ⟨word, cs, hword⟩ := exists_word? h.head hne
  have hbehind := behind_of_word? hword
  have hfirst : first = .ofList word := by
    have hboth := hwords.symm.trans hbehind.read
    exact (List.cons.inj hboth).1
  exact ⟨word, cs, hword, hfirst.symm, hfirst ▸ hbehind⟩

namespace Behind

/-- One more word is read. -/
lemma of_nextWord? (h : Behind argument front cs) (hnext : nextWord? cs = some (word, rest)) :
    Behind argument (front ++ [.ofList word]) rest := by
  obtain ⟨start, hblanks, hword⟩ := Option.bind_eq_some_iff.mp hnext
  obtain ⟨hwords, hsuffix, -⟩ := afterBlanks?_eq_some hblanks
  obtain ⟨hwords', hsuffix', hboundary⟩ := words_of_word? hword
  refine ⟨hsuffix'.trans (hsuffix.trans h.suffix), ?_, hboundary⟩
  rw [h.read, ← hwords, hwords', List.append_assoc, List.singleton_append]

lemma left_eq {others : List String} (h : Behind argument front cs)
    (hwords : words argument = front ++ others) : words (.ofList cs) = others :=
  List.append_cancel_left (h.read.symm.trans hwords)

lemma exists_nextWord? {next : String} {others : List String} (h : Behind argument front cs)
    (hwords : words argument = front ++ next :: others) :
    ∃ word rest, nextWord? cs = some (word, rest) ∧ .ofList word = next ∧
      Behind argument (front ++ [next]) rest := by
  have hleft := h.left_eq hwords
  obtain ⟨start, hblanks⟩ := exists_afterBlanks? h.boundary (by simp [hleft])
  obtain ⟨hstart, -, hhead⟩ := afterBlanks?_eq_some hblanks
  obtain ⟨word, rest, hword⟩ := exists_word? hhead (by simp [hstart, hleft])
  have hnext : nextWord? cs = some (word, rest) := by
    rw [nextWord?, hblanks]
    exact hword
  have hword' : next = .ofList word := by
    rw [← hstart, (words_of_word? hword).1] at hleft
    exact (List.cons.inj hleft).1.symm
  exact ⟨word, rest, hnext, hword'.symm, hword' ▸ h.of_nextWord? hnext⟩

/-- A tidy argument ends with its last word. -/
lemma eq_nil_iff (h : Behind argument front cs) (htidy : Tidy argument) :
    cs = [] ↔ words argument = front := by
  constructor
  · rintro rfl
    rw [h.read]
    exact List.append_nil front
  · intro hwords
    refine eq_nil_of_words_eq_nil (h.left_eq ?_) (htidy.last_of_suffix h.suffix)
    rw [hwords, List.append_nil]

/-- What follows the blanks is the argument from its next word on. -/
lemma exists_remainder? {next : String} {others : List String} (h : Behind argument front cs)
    (htidy : Tidy argument) (hwords : words argument = front ++ next :: others) :
    ∃ tail, remainder? cs = some tail ∧ FromWord front.length argument (.ofList tail) := by
  have hleft := h.left_eq hwords
  obtain ⟨tail, hblanks⟩ := exists_afterBlanks? h.boundary (by simp [hleft])
  obtain ⟨htail, hsuffix, hhead⟩ := afterBlanks?_eq_some hblanks
  have hne : tail ≠ [] := by
    rintro rfl
    rw [hleft] at htail
    cases htail
  have hline : '\n' ∉ tail := fun hmem => htidy.single ((hsuffix.trans h.suffix).subset hmem)
  refine ⟨tail, remainder?_of_afterBlanks? hblanks hne hline, ?_, ?_, ?_⟩
  · rw [String.toList_ofList]
    exact hsuffix.trans h.suffix
  · rw [htail, h.read, List.drop_left]
  · rwa [String.toList_ofList]

lemma remainder?_eq_some_iff {tail : List Char} (h : Behind argument front cs)
    (htidy : Tidy argument) :
    remainder? cs = some tail ↔
      (∃ next others, words argument = front ++ next :: others) ∧
        FromWord front.length argument (.ofList tail) := by
  constructor
  · intro hremainder
    have hmore : ∃ next others, words argument = front ++ next :: others := by
      cases hleft : words (.ofList cs) with
      | nil =>
        rw [eq_nil_of_words_eq_nil hleft (htidy.last_of_suffix h.suffix)] at hremainder
        cases hremainder
      | cons next others => exact ⟨next, others, by rw [h.read, hleft]⟩
    obtain ⟨next, others, hwords⟩ := hmore
    obtain ⟨tail', hremainder', hfrom⟩ := h.exists_remainder? htidy hwords
    obtain rfl : tail = tail' := Option.some.inj (hremainder.symm.trans hremainder')
    exact ⟨⟨next, others, hwords⟩, hfrom⟩
  · rintro ⟨⟨next, others, hwords⟩, hfrom⟩
    obtain ⟨tail', hremainder, hfrom'⟩ := h.exists_remainder? htidy hwords
    rw [hremainder, String.ofList_injective (hfrom.unique hfrom')]

end Behind

lemma keyword?_eq_some_iff {keyword : List Char} :
    keyword? keyword cs = some rest ↔ nextWord? cs = some (keyword, rest) := by
  rw [keyword?]
  cases nextWord? cs with
  | none => simp
  | some next =>
    obtain ⟨word, rest'⟩ := next
    simp only [Option.bind_eq_bind, Option.bind_some, Option.some.injEq, Prod.mk.injEq]
    split_ifs with hkeyword <;> simp [hkeyword]

/-! ### Forms -/

variable {name location field method path summary id : String} {id? : Option String}

lemma operation?_eq_some_iff (h : Tidy argument) :
    operation? argument = some (method, path, summary) ↔
      (∃ first others, words argument = method :: path :: "-" :: first :: others) ∧
        FromWord 3 argument summary := by
  constructor
  · intro hparsed
    simp only [operation?_eq, Option.bind_eq_some_iff] at hparsed
    obtain ⟨⟨method', cs₁⟩, hmethod, ⟨path', cs₂⟩, hpath, cs₃, hdash, tail, htail, heq⟩ := hparsed
    cases heq
    have hbehind := ((behind_of_word? hmethod).of_nextWord? hpath).of_nextWord?
      (keyword?_eq_some_iff.mp hdash)
    exact (hbehind.remainder?_eq_some_iff h).mp htail
  · rintro ⟨⟨first, others, hwords⟩, hfrom⟩
    obtain ⟨method', cs₁, hmethod, rfl, hbehind₁⟩ := exists_behind h hwords
    obtain ⟨path', cs₂, hpath, rfl, hbehind₂⟩ := hbehind₁.exists_nextWord? hwords
    obtain ⟨dash, cs₃, hdash, hdash', hbehind₃⟩ := hbehind₂.exists_nextWord? hwords
    obtain rfl : dash = ['-'] := String.ofList_injective hdash'
    have htail : remainder? cs₃ = some summary.toList := by
      rw [hbehind₃.remainder?_eq_some_iff h, String.ofList_toList]
      exact ⟨⟨first, others, hwords⟩, hfrom⟩
    simp [operation?_eq, hmethod, hpath, keyword?_eq_some_iff.mpr hdash, htail]

lemma jsonExample?_eq_some_iff (h : Tidy argument) :
    jsonExample? argument = some (name, summary) ↔
      (∃ first others, words argument = name :: "-" :: first :: others) ∧
        FromWord 2 argument summary := by
  constructor
  · intro hparsed
    simp only [jsonExample?_eq, Option.bind_eq_some_iff] at hparsed
    obtain ⟨⟨name', cs₁⟩, hname, cs₂, hdash, tail, htail, heq⟩ := hparsed
    cases heq
    have hbehind := (behind_of_word? hname).of_nextWord? (keyword?_eq_some_iff.mp hdash)
    exact (hbehind.remainder?_eq_some_iff h).mp htail
  · rintro ⟨⟨first, others, hwords⟩, hfrom⟩
    obtain ⟨name', cs₁, hname, rfl, hbehind₁⟩ := exists_behind h hwords
    obtain ⟨dash, cs₂, hdash, hdash', hbehind₂⟩ := hbehind₁.exists_nextWord? hwords
    obtain rfl : dash = ['-'] := String.ofList_injective hdash'
    have htail : remainder? cs₂ = some summary.toList := by
      rw [hbehind₂.remainder?_eq_some_iff h, String.ofList_toList]
      exact ⟨⟨first, others, hwords⟩, hfrom⟩
    simp [jsonExample?_eq, hname, keyword?_eq_some_iff.mpr hdash, htail]

lemma parameter?_eq_some_iff (h : Tidy argument) :
    parameter? argument = some (name, location, id?) ↔
      id? = none ∧ words argument = [name, location] ∨
        ∃ id, id? = some id ∧ words argument = [name, location, "as", id] := by
  constructor
  · intro hparsed
    simp only [parameter?_eq, Option.bind_eq_some_iff] at hparsed
    obtain ⟨⟨name', cs₁⟩, hname, ⟨location', cs₂⟩, hlocation, hparsed⟩ := hparsed
    have hbehind := (behind_of_word? hname).of_nextWord? hlocation
    split_ifs at hparsed with hend
    · cases hparsed
      exact .inl ⟨rfl, (hbehind.eq_nil_iff h).mp hend⟩
    · simp only [Option.bind_eq_some_iff] at hparsed
      obtain ⟨cs₃, has, ⟨id, cs₄⟩, hid, hparsed⟩ := hparsed
      split_ifs at hparsed with hend
      cases hparsed
      have hbehind' := (hbehind.of_nextWord? (keyword?_eq_some_iff.mp has)).of_nextWord? hid
      exact .inr ⟨_, rfl, (hbehind'.eq_nil_iff h).mp hend⟩
  · rintro (⟨rfl, hwords⟩ | ⟨id, rfl, hwords⟩)
    · obtain ⟨name', cs₁, hname, rfl, hbehind₁⟩ := exists_behind h hwords
      obtain ⟨location', cs₂, hlocation, rfl, hbehind₂⟩ := hbehind₁.exists_nextWord? hwords
      have hend : cs₂ = [] := (hbehind₂.eq_nil_iff h).mpr hwords
      simp [parameter?_eq, hname, hlocation, hend]
    · obtain ⟨name', cs₁, hname, rfl, hbehind₁⟩ := exists_behind h hwords
      obtain ⟨location', cs₂, hlocation, rfl, hbehind₂⟩ := hbehind₁.exists_nextWord? hwords
      obtain ⟨as, cs₃, has, has', hbehind₃⟩ := hbehind₂.exists_nextWord? hwords
      obtain rfl : as = ['a', 's'] := String.ofList_injective has'
      obtain ⟨id', cs₄, hid, rfl, hbehind₄⟩ := hbehind₃.exists_nextWord? hwords
      have hend : cs₄ = [] := (hbehind₄.eq_nil_iff h).mpr hwords
      have hmore : cs₂ ≠ [] := by
        rintro rfl
        cases has
      simp [parameter?_eq, hname, hlocation, hmore, keyword?_eq_some_iff.mpr has, hid, hend]

lemma apiKeyPhrase?_eq_some_iff (h : Tidy argument) :
    apiKeyPhrase? argument = some (name, field, location) ↔
      name ≠ "" ∧ words argument = [name ++ ":", field, "in", location] := by
  constructor
  · intro hparsed
    simp only [apiKeyPhrase?_eq, Option.bind_eq_some_iff] at hparsed
    obtain ⟨⟨name', cs₁⟩, hname, ⟨field', cs₂⟩, hfield, cs₃, hin, ⟨location', cs₄⟩, hlocation,
      hparsed⟩ := hparsed
    split_ifs at hparsed with hend
    cases hparsed
    obtain ⟨hne, hlabel⟩ := closedWord?_eq_some_iff.mp hname
    have hbehind := (((behind_of_word? hlabel).of_nextWord? hfield).of_nextWord?
      (keyword?_eq_some_iff.mp hin)).of_nextWord? hlocation
    refine ⟨ofList_ne_empty hne, ?_⟩
    rw [(hbehind.eq_nil_iff h).mp hend, String.ofList_append]
    rfl
  · rintro ⟨hne, hwords⟩
    obtain ⟨label, cs₁, hlabel, hlabel', hbehind₁⟩ := exists_behind h hwords
    obtain ⟨field', cs₂, hfield, rfl, hbehind₂⟩ := hbehind₁.exists_nextWord? hwords
    obtain ⟨word, cs₃, hin, hin', hbehind₃⟩ := hbehind₂.exists_nextWord? hwords
    obtain rfl : word = ['i', 'n'] := String.ofList_injective hin'
    obtain ⟨location', cs₄, hlocation, rfl, hbehind₄⟩ := hbehind₃.exists_nextWord? hwords
    obtain rfl : cs₄ = [] := (hbehind₄.eq_nil_iff h).mpr hwords
    obtain rfl : label = name.toList ++ [':'] := by
      have hchars := congrArg String.toList hlabel'
      rwa [String.toList_ofList, String.toList_append] at hchars
    have hname := closedWord?_eq_some_iff.mpr ⟨mt String.toList_eq_nil_iff.mp hne, hlabel⟩
    simp [apiKeyPhrase?_eq, hname, hfield, keyword?_eq_some_iff.mpr hin, hlocation]

/-- The two forms of an API key have different numbers of words. -/
lemma apiKey?_eq_some_iff (h : Tidy argument) :
    apiKey? argument = some (name, field, location) ↔
      words argument = [name, location, field] ∨
        name ≠ "" ∧ words argument = [name ++ ":", field, "in", location] := by
  cases hphrase : apiKeyPhrase? argument with
  | some key =>
    obtain ⟨name', field', location'⟩ := key
    have hwords := ((apiKeyPhrase?_eq_some_iff h).mp hphrase).2
    rw [← apiKeyPhrase?_eq_some_iff h, apiKey?, hphrase]
    simp [hwords]
  | none =>
    rw [← apiKeyPhrase?_eq_some_iff h, apiKey?, hphrase]
    constructor
    · intro hparsed
      left
      dsimp only at hparsed
      split at hparsed
      next hwords => cases hparsed; exact hwords
      next => cases hparsed
    · rintro (hwords | hparsed)
      · simp [hwords]
      · cases hparsed

lemma apiKeyHeader_eq_invalidArgument_iff :
    apiKeyHeader argument = .error (.invalidArgument .apiKeyScheme) ↔ apiKey? argument = none := by
  rw [apiKeyHeader]
  cases apiKey? argument with
  | none => exact iff_of_true rfl rfl
  | some key =>
    obtain ⟨name, field, location⟩ := key
    cases hlocation : OpenApi.ApiKeyLocation.ofName? location <;>
      simp [require, choose, hlocation, bind, Except.bind, pure, Except.pure]

lemma reference?_eq_some_iff (h : Tidy argument) :
    reference? argument = some id ↔ ∃ word, words argument = [word] ∧ 3 ≤ word.length ∧
      word = "\x7b" ++ id ++ "\x7d" := by
  constructor
  · intro href
    have hbraced := eq_braced_of_reference? href
    have hbare := bare_of_reference? href
    refine ⟨argument, ?_, ?_, hbraced⟩
    · rw [words_eq_singleton_iff h, hbraced]
      exact ⟨rfl, bare_braced hbare⟩
    · have hchars := List.length_pos_iff.mpr (mt String.toList_eq_nil_iff.mp hbare.ne_empty)
      rw [hbraced, ← String.length_toList, toList_braced, List.length_cons, List.length_append,
        List.length_singleton]
      omega
  · rintro ⟨word, hwords, hlength, rfl⟩
    obtain ⟨rfl, hbare⟩ := (words_eq_singleton_iff h).mp hwords
    apply reference?_braced
    constructor
    · rintro rfl
      exact absurd hlength (by decide)
    · intro c hc
      apply hbare.not_blank
      rw [← braced, toList_braced]
      simp [hc]

/-- An argument is read as the header of an operation, a parameter, an example or an API key, or as
a reference, exactly if its words have the form of one. What is read are its words and, as a
summary, the text from a word on, of which there is always just one. An API key in neither of its
two forms is refused. -/
theorem argument_forms (h : Tidy argument) :
    (∀ n, ∃! tail, FromWord n argument tail) ∧
    (∀ method path summary, operation? argument = some (method, path, summary) ↔
      (∃ first others, words argument = method :: path :: "-" :: first :: others) ∧
        FromWord 3 argument summary) ∧
    (∀ name location id?, parameter? argument = some (name, location, id?) ↔
      id? = none ∧ words argument = [name, location] ∨
        ∃ id, id? = some id ∧ words argument = [name, location, "as", id]) ∧
    (∀ name summary, jsonExample? argument = some (name, summary) ↔
      (∃ first others, words argument = name :: "-" :: first :: others) ∧
        FromWord 2 argument summary) ∧
    (∀ name field location, apiKey? argument = some (name, field, location) ↔
      words argument = [name, location, field] ∨
        name ≠ "" ∧ words argument = [name ++ ":", field, "in", location]) ∧
    (apiKeyHeader argument = .error (.invalidArgument .apiKeyScheme) ↔
      ∀ name field location, words argument ≠ [name, location, field] ∧
        (name ≠ "" → words argument ≠ [name ++ ":", field, "in", location])) ∧
    ∀ id, reference? argument = some id ↔ ∃ word, words argument = [word] ∧ 3 ≤ word.length ∧
      word = "\x7b" ++ id ++ "\x7d" := by
  refine ⟨?_, ?_, ?_, ?_, ?_, ?_, ?_⟩
  · intro n
    obtain ⟨tail, htail⟩ := exists_fromWord n argument
    exact ⟨tail, htail, fun tail' htail' => htail'.unique htail⟩
  · intro method path summary
    exact operation?_eq_some_iff h
  · intro name location id?
    exact parameter?_eq_some_iff h
  · intro name summary
    exact jsonExample?_eq_some_iff h
  · intro name field location
    exact apiKey?_eq_some_iff h
  · rw [apiKeyHeader_eq_invalidArgument_iff, Option.eq_none_iff_forall_ne_some]
    simp only [Prod.forall, ne_eq, apiKey?_eq_some_iff h, not_or, not_and]
  · intro id
    exact reference?_eq_some_iff h

/-- A summary keeps the blanks between its words, and a key may be followed by several blanks. -/
theorem argument_forms_listing :
    Tidy "GET /a-b\t-  List  - all" ∧
      FromWord 3 "GET /a-b\t-  List  - all" "List  - all" ∧
      Tidy "key:  X-Key in header" ∧
      apiKey? "key:  X-Key in header" = some ("key", "X-Key", "header") := by
  have hlisting : Tidy "GET /a-b\t-  List  - all" := by decide
  have hkey : Tidy "key:  X-Key in header" := by decide
  obtain ⟨-, hoperation, -⟩ := argument_forms hlisting
  obtain ⟨-, -, -, -, hapiKey, -⟩ := argument_forms hkey
  refine ⟨hlisting, ?_, hkey, ?_⟩
  · exact ((hoperation "GET" "/a-b" "List  - all").mp (by decide)).2
  · exact (hapiKey "key" "X-Key" "header").mpr (.inr ⟨by decide, by decide⟩)

end Builder.Argument

end ApiScribe
