import ApiScribe.Proofs.Builder.Arguments
import ApiScribe.Proofs.Text.Lines

/-!
# Arguments that are phrases

An argument that is put together from words, and from a summary at its end, is read as these.
-/

namespace ApiScribe

open Text

namespace OpenApi

lemma Method.ofName?_name (method : Method) : Method.ofName? method.name = some method := by
  cases method <;> rfl

lemma Method.bare_name (method : Method) : Bare method.name := by
  cases method <;> decide

lemma ParameterLocation.ofName?_name (location : ParameterLocation) :
    ParameterLocation.ofName? location.name = some location := by
  cases location <;> rfl

lemma ParameterLocation.bare_name (location : ParameterLocation) : Bare location.name := by
  cases location <;> decide

end OpenApi

namespace Builder

open OpenApi

namespace Argument

variable {s : String}

/-! ### Words from left to right -/

lemma word?_partChars (h : Bare s) (parts : List String) :
    word? (s.toList ++ partChars parts) = some (s.toList, partChars parts) := by
  refine word?_append h ?_
  cases parts with
  | nil => simp [partChars]
  | cons part parts => simp [partChars]

lemma afterBlanks?_partChars (h : Tidy s) (hne : s ≠ "") (parts : List String) :
    afterBlanks? (partChars (s :: parts)) = some (s.toList ++ partChars parts) := by
  obtain ⟨c, cs, hcs⟩ := List.exists_cons_of_ne_nil (mt String.toList_eq_nil_iff.mp hne)
  have hc : isBlank c = false := h.head c (by rw [hcs]; rfl)
  simp [partChars, afterBlanks?, hcs, hc]

lemma nextWord?_partChars (h : Bare s) (parts : List String) :
    nextWord? (partChars (s :: parts)) = some (s.toList, partChars parts) := by
  rw [nextWord?, afterBlanks?_partChars h.tidy h.ne_empty]
  exact word?_partChars h parts

lemma keyword?_partChars (h : Bare s) (parts : List String) :
    keyword? s.toList (partChars (s :: parts)) = some (partChars parts) := by
  rw [keyword?, nextWord?_partChars h]
  exact if_pos rfl

lemma remainder?_partChars (h : Tidy s) (hne : s ≠ "") :
    remainder? (partChars [s]) = some s.toList := by
  have hblanks := afterBlanks?_partChars h hne []
  rw [show s.toList ++ partChars [] = s.toList from List.append_nil _] at hblanks
  exact remainder?_of_afterBlanks? hblanks (mt String.toList_eq_nil_iff.mp hne) h.single

/-! ### Forms of arguments -/

lemma operation?_phrase {method path summary : String} (hmethod : Bare method) (hpath : Bare path)
    (hsummary : Tidy summary) (hne : summary ≠ "") :
    operation? (phrase [method, path, "-", summary]) = some (method, path, summary) := by
  have hdash := keyword?_partChars bare_dash [summary]
  rw [operation?_eq, toList_phrase_cons, word?_partChars hmethod]
  simp only [Option.bind_some, nextWord?_partChars hpath]
  rw [show keyword? ['-'] (partChars ["-", summary]) = _ from hdash, Option.bind_some,
    remainder?_partChars hsummary hne]
  simp

lemma parameter?_phrase {name location : String} (hname : Bare name) (hlocation : Bare location) :
    parameter? (phrase [name, location]) = some (name, location, none) := by
  rw [parameter?_eq, toList_phrase_cons, word?_partChars hname]
  simp only [Option.bind_some, nextWord?_partChars hlocation]
  simp [partChars]

lemma jsonExample?_phrase {name summary : String} (hname : Bare name) (hsummary : Tidy summary)
    (hne : summary ≠ "") : jsonExample? (phrase [name, "-", summary]) = some (name, summary) := by
  have hdash := keyword?_partChars bare_dash [summary]
  rw [jsonExample?_eq, toList_phrase_cons, word?_partChars hname, Option.bind_some]
  rw [show keyword? ['-'] (partChars ["-", summary]) = _ from hdash, Option.bind_some,
    remainder?_partChars hsummary hne]
  simp

/-! ### References -/

lemma bare_braced {id : String} (h : Bare id) : Bare (braced id) :=
  (Bare.append (by decide) h).append (by decide)

lemma reference?_braced {id : String} (h : Bare id) : reference? (braced id) = some id :=
  reference?_eq_some_iff_braced.mpr ⟨h, rfl⟩

lemma reference?_empty : reference? "" = none := rfl

lemma eq_braced_of_reference? {argument id : String} (h : reference? argument = some id) :
    argument = braced id :=
  (reference?_eq_some_iff_braced.mp h).2

lemma reference?_phrase_cons_cons (s t : String) (parts : List String) :
    reference? (phrase (s :: t :: parts)) = none := by
  cases href : reference? (phrase (s :: t :: parts)) with
  | none => rfl
  | some id =>
    -- a reference is one word
    have hbare := bare_braced (bare_of_reference? href)
    rw [← eq_braced_of_reference? href] at hbare
    refine absurd (hbare.not_blank ' ' ?_) (by decide)
    rw [toList_phrase_cons]
    exact List.mem_append_right _ List.mem_cons_self

end Argument

/-! ### Checked arguments -/

lemma operationHeader_phrase (method : Method) {path summary : String} (hpath : Bare path)
    (hsummary : Tidy summary) (hne : summary ≠ "") :
    operationHeader (phrase [method.name, path, "-", summary]) = .ok (method, path, summary) := by
  rw [operationHeader, Argument.operation?_phrase method.bare_name hpath hsummary hne]
  simp [require, choose, Method.ofName?_name, bind, Except.bind, pure, Except.pure]

lemma parameterHeader_phrase {name : String} (hname : Bare name) (location : ParameterLocation) :
    parameterHeader (phrase [name, location.name]) = .ok (name, location, none) := by
  rw [parameterHeader, Argument.parameter?_phrase hname location.bare_name]
  simp [require, choose, ParameterLocation.ofName?_name, bind, Except.bind, pure, Except.pure]

lemma keyed_key (form : Form) {key : String} (h : Bare key) : keyed form key = .ok (key, none) := by
  have hwords : words key = [key] := by
    have := words_phrase (List.forall_mem_singleton.mpr h)
    rwa [phrase, String.intercalate_singleton] at this
  rw [keyed, hwords]

lemma keyed_reference (form : Form) {key id : String} (hkey : Bare key) (hid : Bare id) :
    keyed form (phrase [key, Argument.braced id]) = .ok (key, some id) := by
  have hparts : ∀ part ∈ [key, Argument.braced id], Bare part := by
    simpa using ⟨hkey, Argument.bare_braced hid⟩
  rw [keyed, words_phrase hparts]
  simp only [Argument.reference?_braced hid]

end Builder

end ApiScribe
