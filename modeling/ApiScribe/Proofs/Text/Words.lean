import ApiScribe.Text.Blank
import Mathlib.Data.List.TakeWhile
import Mathlib.Tactic.Common

/-!
# Words

The words of a text are not empty and have no blanks.
-/

namespace ApiScribe.Text

/-- A text that is not empty and has no blanks. -/
structure Bare (s : String) : Prop where
  ne_empty : s ≠ ""
  not_blank : ∀ c ∈ s.toList, isBlank c = false

lemma bare_iff {s : String} : Bare s ↔ s ≠ "" ∧ s.toList.all (!isBlank ·) := by
  simp only [List.all_eq_true, Bool.not_eq_true']
  exact ⟨fun h => ⟨h.ne_empty, h.not_blank⟩, fun h => ⟨h.1, h.2⟩⟩

instance : DecidablePred Bare := fun _ => decidable_of_iff' _ bare_iff

lemma ofList_ne_empty {cs : List Char} (h : cs ≠ []) : String.ofList cs ≠ "" := by
  intro hempty
  have hchars := congrArg String.toList hempty
  rw [String.toList_ofList] at hchars
  exact h hchars

lemma bare_ofList {cs : List Char} (hne : cs ≠ []) (hcs : ∀ c ∈ cs, isBlank c = false) :
    Bare (.ofList cs) where
  ne_empty := ofList_ne_empty hne
  not_blank := by rwa [String.toList_ofList]

lemma Bare.append {s t : String} (hs : Bare s) (ht : Bare t) : Bare (s ++ t) where
  ne_empty := by simp [hs.ne_empty]
  not_blank c hc := by
    rw [String.toList_append] at hc
    exact (List.mem_append.mp hc).elim (hs.not_blank c) (ht.not_blank c)

lemma mem_consHead {c : Char} {groups : List (List Char)} {group : List Char}
    (h : group ∈ consHead c groups) :
    group = [c] ∨ (∃ first ∈ groups, group = c :: first) ∨ group ∈ groups := by
  cases groups with
  | nil => exact .inl (List.mem_singleton.mp h)
  | cons first groups =>
    rcases List.mem_cons.mp h with rfl | h
    · exact .inr (.inl ⟨first, List.mem_cons_self, rfl⟩)
    · exact .inr (.inr (List.mem_cons_of_mem _ h))

lemma forall_mem_wordChars (cs : List Char) :
    ∀ word ∈ wordChars cs, word ≠ [] ∧ ∀ c ∈ word, isBlank c = false := by
  have hsingle {c : Char} (hc : ¬isBlank c) : [c] ≠ [] ∧ ∀ d ∈ [c], isBlank d = false := by
    refine ⟨List.cons_ne_nil c [], ?_⟩
    intro d hd
    rw [List.mem_singleton.mp hd]
    exact (Bool.not_eq_true _).mp hc
  fun_induction wordChars cs with
  | case1 => exact fun _ h => by cases h
  | case2 c hc => exact fun _ h => by cases h
  | case3 c hc =>
    intro word h
    rw [List.mem_singleton.mp h]
    exact hsingle hc
  | case4 c d cs hc ih => exact ih
  | case5 c d cs hc hd ih =>
    intro word h
    rcases List.mem_cons.mp h with rfl | h
    · exact hsingle hc
    · exact ih word h
  | case6 c d cs hc hd ih =>
    intro word h
    rcases mem_consHead h with rfl | ⟨first, hfirst, rfl⟩ | h
    · exact hsingle hc
    · refine ⟨List.cons_ne_nil c first, ?_⟩
      intro e he
      rcases List.mem_cons.mp he with rfl | he
      · exact (Bool.not_eq_true _).mp hc
      · exact (ih first hfirst).2 e he
    · exact ih word h

lemma bare_of_mem_words {s word : String} (h : word ∈ words s) : Bare word := by
  obtain ⟨cs, hcs, rfl⟩ := List.mem_map.mp h
  obtain ⟨hne, hblank⟩ := forall_mem_wordChars s.toList cs hcs
  exact bare_ofList hne hblank

end ApiScribe.Text
