import ApiScribe.Proofs.Json.Lexing
import ApiScribe.Proofs.Text.Lines

/-!
# Values on one line

The compact text of a value is a tidy line. It does not start with an `@`.
-/

namespace ApiScribe.Json

open Text

/-! ### No newlines -/

lemma newline_notMem_escape (c : Char) : '\n' ∉ escape c := by
  have hdigit (n : Nat) : '\n' ≠ hexDigit n := by
    have hlt : n % 16 < 16 := Nat.mod_lt n (by decide)
    have hall : ∀ k < 16, '\n' ≠ Nat.digitChar k := by decide
    exact hall _ hlt
  unfold escape
  split_ifs with h₁ h₂ h₃ h₄ h₅ h₆ h₇ h₈
  · decide
  · decide
  · decide
  · decide
  · decide
  · decide
  · decide
  · simp [hdigit]
  · exact fun h => h₅ (List.mem_singleton.mp h).symm

lemma newline_notMem_quoted (s : String) : '\n' ∉ quoted s := by
  have hchars : '\n' ∉ s.toList.flatMap escape := by
    intro h
    obtain ⟨c, -, hc⟩ := List.mem_flatMap.mp h
    exact newline_notMem_escape c hc
  simp [quoted, hchars]

lemma newline_notMem_digits (n : Nat) : '\n' ∉ Nat.toDigits 10 n := fun h =>
  absurd (Token.isDigit_of_mem_toDigits h) (by decide)

lemma newline_notMem_chars {n : Number} (h : n.IsInteger) : '\n' ∉ n.chars := by
  cases n with
  | double x => cases h
  | integer value =>
    rw [Number.chars, integerChars]
    split_ifs
    · simp [newline_notMem_digits]
    · exact newline_notMem_digits _

lemma newline_notMem_compactItems {items : List Json}
    (h : ∀ item ∈ items, '\n' ∉ item.compactChars) : '\n' ∉ compactItems items := by
  induction items with
  | nil => decide
  | cons item items ih =>
    obtain ⟨hitem, hitems⟩ := List.forall_mem_cons.mp h
    simp [compactItems, hitem, ih hitems]

lemma newline_notMem_compactFields {fields : List (String × Json)}
    (h : ∀ e ∈ fields, '\n' ∉ e.2.compactChars) : '\n' ∉ compactFields fields := by
  induction fields with
  | nil => decide
  | cons e fields ih =>
    obtain ⟨he, hfields⟩ := List.forall_mem_cons.mp h
    simp [compactFields, newline_notMem_quoted, he, ih hfields]

lemma newline_notMem_compactChars {json : Json} (h : json.Integral) : '\n' ∉ json.compactChars := by
  induction json using Json.induction with
  | null => decide
  | bool b => cases b <;> decide
  | number n =>
    cases h with
    | number hn => exact newline_notMem_chars hn
  | string s => exact newline_notMem_quoted s
  | array items ih =>
    cases h with
    | array hitems =>
      cases items with
      | nil => decide
      | cons item items =>
        obtain ⟨hitem, hrest⟩ := List.forall_mem_cons.mp fun item hmem =>
          ih item hmem (hitems item hmem)
        simp [compactChars, hitem, newline_notMem_compactItems hrest]
  | object fields ih =>
    obtain ⟨fields⟩ := fields
    cases h with
    | object hfields =>
      cases fields with
      | nil => decide
      | cons e fields =>
        obtain ⟨he, hrest⟩ := List.forall_mem_cons.mp fun e hmem => ih e hmem (hfields e hmem)
        simp [compactChars, newline_notMem_quoted, he, newline_notMem_compactFields hrest]

/-! ### Ends -/

lemma isBlank_of_isDigit {c : Char} (h : c.isDigit) : isBlank c = false := by
  have hrange := Char.isDigit_iff_toNat.mp h
  simp only [Char.reduceToNat] at hrange
  simp only [isBlank, Ranges.contains, blankRanges, List.any_cons, List.any_nil, Bool.or_false,
    Bool.or_eq_false_iff, decide_eq_false_iff_not]
  omega

lemma ne_at_of_isDigit {c : Char} (h : c.isDigit) : c ≠ '@' := by
  rintro rfl
  exact absurd h (by decide)

lemma getLast?_compactItems (items : List Json) : (compactItems items).getLast? = some ']' := by
  induction items with
  | nil => rfl
  | cons item items ih => rw [compactItems, List.getLast?_append, ih]; rfl

lemma getLast?_compactFields (fields : List (String × Json)) :
    (compactFields fields).getLast? = some '\x7d' := by
  induction fields with
  | nil => rfl
  | cons e fields ih => rw [compactFields, List.getLast?_append, ih]; rfl

lemma head?_compactChars {json : Json} (h : json.Integral) :
    ∃ c, json.compactChars.head? = some c ∧ isBlank c = false ∧ c ≠ '@' := by
  cases h with
  | null => exact ⟨'n', rfl, by decide⟩
  | bool b => cases b <;> exact ⟨_, rfl, by decide⟩
  | @number n hn =>
    cases n with
    | double x => cases hn
    | integer value =>
      rw [compactChars, Number.chars, integerChars]
      split_ifs
      · exact ⟨'-', rfl, by decide⟩
      · obtain ⟨c, hc⟩ := Option.isSome_iff_exists.mp (List.isSome_head?.mpr Nat.toDigits_ne_nil)
        have hdigit := Token.isDigit_of_mem_toDigits (List.mem_of_mem_head? hc)
        exact ⟨c, hc, isBlank_of_isDigit hdigit, ne_at_of_isDigit hdigit⟩
  | string s => exact ⟨'"', rfl, by decide⟩
  | @array items _ => cases items <;> exact ⟨'[', rfl, by decide⟩
  | @object fields _ =>
    obtain ⟨fields⟩ := fields
    cases fields <;> exact ⟨'\x7b', rfl, by decide⟩

lemma getLast?_compactChars {json : Json} (h : json.Integral) :
    ∃ c, json.compactChars.getLast? = some c ∧ isBlank c = false := by
  cases h with
  | null => exact ⟨'l', rfl, by decide⟩
  | bool b => cases b <;> exact ⟨'e', rfl, by decide⟩
  | @number n hn =>
    cases n with
    | double x => cases hn
    | integer value =>
      obtain ⟨c, hc⟩ := Option.isSome_iff_exists.mp
        (List.getLast?_isSome.mpr (Nat.toDigits_ne_nil (b := 10) (n := value.natAbs)))
      have hdigit := Token.isDigit_of_mem_toDigits (List.mem_of_mem_getLast? hc)
      refine ⟨c, ?_, isBlank_of_isDigit hdigit⟩
      rw [compactChars, Number.chars, integerChars]
      split_ifs
      · rw [List.getLast?_cons, hc]
        rfl
      · exact hc
  | string s => exact ⟨'"', List.getLast?_concat .., by decide⟩
  | @array items _ =>
    refine ⟨']', ?_, by decide⟩
    cases items with
    | nil => rfl
    | cons item items => rw [compactChars, List.getLast?_append, getLast?_compactItems]; rfl
  | @object fields _ =>
    obtain ⟨fields⟩ := fields
    refine ⟨'\x7d', ?_, by decide⟩
    cases fields with
    | nil => rfl
    | cons e fields => rw [compactChars, List.getLast?_append, getLast?_compactFields]; rfl

/-! ### Lines -/

lemma toList_compact (json : Json) : json.compact.toList = json.compactChars :=
  String.toList_ofList

lemma tidy_compact {json : Json} (h : json.Integral) : Tidy json.compact := by
  obtain ⟨c, hhead, hc, -⟩ := head?_compactChars h
  obtain ⟨d, hlast, hd⟩ := getLast?_compactChars h
  rw [tidy_iff, toList_compact, hhead, hlast]
  refine ⟨⟨?_, ?_⟩, newline_notMem_compactChars h⟩
  · rintro _ ⟨⟩
    exact hc
  · rintro _ ⟨⟩
    exact hd

lemma compact_ne_empty {json : Json} (h : json.Integral) : json.compact ≠ "" := by
  obtain ⟨c, hhead, -⟩ := head?_compactChars h
  intro hempty
  rw [← toList_compact, hempty] at hhead
  cases hhead

end ApiScribe.Json
