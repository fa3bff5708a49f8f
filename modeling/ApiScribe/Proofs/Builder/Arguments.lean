import ApiScribe.Builder.Apply
import ApiScribe.Proofs.Json.Value
import ApiScribe.Proofs.Text.Patterns

/-!
# What arguments are made of

The patterns of the arguments are matched word by word. The paths, keys and component IDs in the
arguments of annotations are therefore single words.
-/

namespace ApiScribe.Builder

open OpenApi Text

namespace Argument

/-! ### Word by word -/

-- In all patterns blanks or the end follow a word and the character that closes it.

lemma refuses_blanks_seq (q : Pattern) : ((Pattern.many .blank).seq q).Refuses .solid :=
  (Pattern.refuses_many (by simp [CharClass.accepts])).seq q

lemma refuses_finish_seq (q : Pattern) : (Pattern.finish.seq q).Refuses .solid :=
  (Pattern.refuses_finish .solid).seq q

lemma bare_dash : Bare "-" := by decide

lemma operation?_eq (argument : String) :
    operation? argument =
      (word? argument.toList).bind fun method =>
        (nextWord? method.2).bind fun path =>
          (keyword? ['-'] path.2).bind fun rest =>
            (remainder? rest).bind fun summary =>
              some (.ofList method.1, .ofList path.1, .ofList summary) := by
  rw [operation?, operationPattern, Pattern.all]
  simp only [List.foldr_cons, List.foldr_nil, wordGroup, Pattern.captures?_start,
    Pattern.first?_word_seq (refuses_blanks_seq _),
    Pattern.first?_nextWord_seq (refuses_blanks_seq _),
    Pattern.first?_keyword_seq bare_dash (refuses_blanks_seq _), Pattern.first?_remainder]
  simp [Option.map_eq_bind, Option.bind_assoc]

lemma jsonExample?_eq (argument : String) :
    jsonExample? argument =
      (word? argument.toList).bind fun name =>
        (keyword? ['-'] name.2).bind fun rest =>
          (remainder? rest).bind fun summary => some (.ofList name.1, .ofList summary) := by
  rw [jsonExample?, jsonExamplePattern, Pattern.all]
  simp only [List.foldr_cons, List.foldr_nil, wordGroup, Pattern.captures?_start,
    Pattern.first?_word_seq (refuses_blanks_seq _),
    Pattern.first?_keyword_seq bare_dash (refuses_blanks_seq _), Pattern.first?_remainder]
  simp [Option.map_eq_bind, Option.bind_assoc]

lemma apiKeyPhrase?_eq (argument : String) :
    apiKeyPhrase? argument =
      (closedWord? ':' argument.toList).bind fun name =>
        (nextWord? name.2).bind fun field =>
          (keyword? ['i', 'n'] field.2).bind fun rest =>
            (nextWord? rest).bind fun location =>
              if location.2 = [] then
                some (.ofList name.1, .ofList field.1, .ofList location.1)
              else none := by
  rw [apiKeyPhrase?, apiKeyPattern, Pattern.all]
  simp only [List.foldr_cons, List.foldr_nil, wordGroup, Pattern.captures?_start,
    Pattern.first?_word_one_seq (show isBlank ':' = false by decide) (refuses_blanks_seq _),
    Pattern.first?_nextWord_seq (refuses_blanks_seq _),
    Pattern.first?_keyword_seq (show Bare "in" by decide) (refuses_blanks_seq _),
    Pattern.first?_nextWord_seq (refuses_finish_seq _), Pattern.first?_finish,
    Option.map_eq_bind, Option.bind_eq_bind, Option.bind_assoc]
  refine Option.bind_congr fun name _ => Option.bind_congr fun field _ =>
    Option.bind_congr fun rest _ => Option.bind_congr fun location _ => ?_
  by_cases hend : location.2 = [] <;> simp [hend]

lemma parameter?_eq (argument : String) :
    parameter? argument =
      (word? argument.toList).bind fun name =>
        (nextWord? name.2).bind fun location =>
          if location.2 = [] then some (.ofList name.1, .ofList location.1, none)
          else (keyword? ['a', 's'] location.2).bind fun rest =>
            (nextWord? rest).bind fun id =>
              if id.2 = [] then some (.ofList name.1, .ofList location.1, some (.ofList id.1))
              else none := by
  have hoption (ps : List Pattern) : ((Pattern.all (.many .blank :: ps)).option.seq
      (Pattern.finish.seq Pattern.empty)).Refuses .solid :=
    (refuses_blanks_seq _).option_seq (refuses_finish_seq _)
  rw [parameter?, parameterPattern, Pattern.all]
  simp only [List.foldr_cons, List.foldr_nil, wordGroup, Pattern.captures?_start,
    Pattern.first?_word_seq (refuses_blanks_seq _),
    Pattern.first?_nextWord_seq (hoption _), Pattern.first?_option_seq, Pattern.first?_all_seq,
    Pattern.first?_keyword_seq (show Bare "as" by decide) (refuses_blanks_seq _),
    Pattern.first?_nextWord_seq (refuses_finish_seq _), Pattern.first?_finish,
    Option.map_eq_bind, Option.bind_eq_bind, Option.bind_assoc]
  refine Option.bind_congr fun name _ => Option.bind_congr fun location _ => ?_
  by_cases hend : location.2 = []
  · simp [hend, keyword?, nextWord?, afterBlanks?]
  · simp only [Cursor.rest_after, hend, if_false, Option.or_none, Option.bind_assoc]
    refine Option.bind_congr fun rest _ => Option.bind_congr fun id _ => ?_
    by_cases hid : id.2 = [] <;> simp [hid]

lemma bare_of_word? {cs word rest : List Char} (h : word? cs = some (word, rest)) :
    Bare (.ofList word) := by
  obtain ⟨hne, rfl, -⟩ := word?_eq_some_iff.mp h
  refine bare_ofList hne fun c hc => ?_
  simpa using List.mem_takeWhile_imp hc

lemma bare_of_nextWord? {cs word rest : List Char} (h : nextWord? cs = some (word, rest)) :
    Bare (.ofList word) := by
  obtain ⟨cs', -, hword⟩ := Option.bind_eq_some_iff.mp h
  exact bare_of_word? hword

lemma bare_of_operation? {argument method path summary : String}
    (h : operation? argument = some (method, path, summary)) : Bare path := by
  simp only [operation?_eq, Option.bind_eq_some_iff] at h
  obtain ⟨⟨method', cs⟩, -, ⟨path', cs'⟩, hpath, rest, -, summary', -, heq⟩ := h
  cases heq
  exact bare_of_nextWord? hpath

lemma bare_of_parameter? {argument name location id : String}
    (h : parameter? argument = some (name, location, some id)) : Bare id := by
  simp only [parameter?_eq, Option.bind_eq_some_iff] at h
  obtain ⟨⟨name', cs⟩, -, ⟨location', cs'⟩, -, h⟩ := h
  split_ifs at h
  · cases h
  · obtain ⟨rest, -, h⟩ := Option.bind_eq_some_iff.mp h
    obtain ⟨⟨id', rest'⟩, hid, h⟩ := Option.bind_eq_some_iff.mp h
    split_ifs at h
    cases h
    exact bare_of_nextWord? hid

lemma ne_empty_of_apiKeyPhrase? {argument name field location : String}
    (h : apiKeyPhrase? argument = some (name, field, location)) : name ≠ "" := by
  simp only [apiKeyPhrase?_eq, Option.bind_eq_some_iff] at h
  obtain ⟨⟨name', cs⟩, hname, ⟨field', cs'⟩, -, rest, -, ⟨location', rest'⟩, -, h⟩ := h
  split_ifs at h
  cases h
  exact ofList_ne_empty (closedWord?_eq_some_iff.mp hname).1

lemma ne_empty_of_apiKey? {argument name field location : String}
    (h : apiKey? argument = some (name, field, location)) : name ≠ "" := by
  unfold apiKey? at h
  split at h
  next key hkey =>
    cases h
    exact ne_empty_of_apiKeyPhrase? hkey
  next =>
    split at h
    next name' location' field' hwords =>
      cases h
      have hname : name ∈ words argument := by rw [hwords]; exact List.mem_cons_self
      exact (bare_of_mem_words hname).ne_empty
    next => cases h

/-! ### References -/

/-- A component ID as it stands in an argument. -/
def braced (id : String) : String := "\x7b" ++ id ++ "\x7d"

lemma toList_braced (id : String) : (braced id).toList = '\x7b' :: (id.toList ++ ['\x7d']) := by
  simp [braced]

lemma reference?_eq (argument : String) :
    reference? argument =
      if argument.toList.head? = some '\x7b' then
        (closedWord? '\x7d' argument.toList.tail).bind fun id =>
          if id.2 = [] then some (.ofList id.1) else none
      else none := by
  rw [reference?, referencePattern, Pattern.all]
  simp only [List.foldr_cons, List.foldr_nil, wordGroup, Pattern.captures?_start,
    Pattern.first?_one_seq,
    Pattern.first?_word_one_seq (show isBlank '\x7d' = false by decide) (refuses_finish_seq _),
    Pattern.first?_finish, Option.map_eq_bind, Option.bind_eq_bind]
  split_ifs
  · rw [Option.bind_assoc, Option.bind_assoc]
    refine Option.bind_congr fun id _ => ?_
    by_cases hend : id.2 = [] <;> simp [hend]
  · rfl

lemma reference?_eq_some_iff_braced {argument id : String} :
    reference? argument = some id ↔ Bare id ∧ argument = braced id := by
  rw [reference?_eq]
  constructor
  · intro h
    split_ifs at h with hopen
    obtain ⟨⟨word, rest⟩, hclosed, h⟩ := Option.bind_eq_some_iff.mp h
    split_ifs at h with hend
    cases h
    obtain ⟨hne, hword⟩ := closedWord?_eq_some_iff.mp hclosed
    obtain ⟨-, htake, hdrop⟩ := word?_eq_some_iff.mp hword
    have htail := List.takeWhile_append_dropWhile (p := (!isBlank ·)) (l := argument.toList.tail)
    rw [htake, hdrop, show rest = [] from hend, List.append_nil] at htail
    constructor
    · refine bare_ofList hne fun c hc => ?_
      have hmem : c ∈ argument.toList.tail.takeWhile (!isBlank ·) := by simp [htake, hc]
      simpa using List.mem_takeWhile_imp hmem
    · obtain ⟨cs, hcs⟩ := List.head?_eq_some_iff.mp hopen
      rw [hcs, List.tail_cons] at htail
      rw [← String.toList_inj, toList_braced, String.toList_ofList, htail, hcs]
  · rintro ⟨hbare, rfl⟩
    have hne := mt String.toList_eq_nil_iff.mp hbare.ne_empty
    have hclose : Bare (id ++ "\x7d") := hbare.append (by decide)
    have hword : word? ((id ++ "\x7d").toList ++ []) = some ((id ++ "\x7d").toList, []) :=
      word?_append hclose (by simp)
    rw [List.append_nil, String.toList_append] at hword
    have hclosed : closedWord? '\x7d' (id.toList ++ ['\x7d']) = some (id.toList, []) :=
      closedWord?_eq_some_iff.mpr ⟨hne, hword⟩
    rw [toList_braced, List.head?_cons, if_pos rfl, List.tail_cons, hclosed]
    simp

lemma bare_of_reference? {argument id : String} (h : reference? argument = some id) : Bare id :=
  (reference?_eq_some_iff_braced.mp h).1

end Argument

/-! ### Checked arguments -/

lemma require_eq_ok {α : Type} {form : Form} {parsed : Option α} {v : α}
    (h : require form parsed = .ok v) : parsed = some v := by
  cases parsed with
  | none => cases h
  | some w => cases h; rfl

lemma bare_of_operationHeader {argument path summary : String} {method : Method}
    (h : operationHeader argument = .ok (method, path, summary)) : Bare path := by
  obtain ⟨⟨word, path', summary'⟩, hparsed, h⟩ := exists_of_bind_eq_ok h
  obtain ⟨method', -, h⟩ := exists_of_bind_eq_ok h
  cases h
  exact Argument.bare_of_operation? (require_eq_ok hparsed)

lemma bare_of_parameterHeader {argument name id : String} {location : ParameterLocation}
    (h : parameterHeader argument = .ok (name, location, some id)) : Bare id := by
  obtain ⟨⟨name', word, id?⟩, hparsed, h⟩ := exists_of_bind_eq_ok h
  obtain ⟨location', -, h⟩ := exists_of_bind_eq_ok h
  cases h
  exact Argument.bare_of_parameter? (require_eq_ok hparsed)

lemma ne_empty_of_apiKeyHeader {argument name field : String} {location : ApiKeyLocation}
    (h : apiKeyHeader argument = .ok (name, field, location)) : name ≠ "" := by
  obtain ⟨⟨name', field', word⟩, hparsed, h⟩ := exists_of_bind_eq_ok h
  obtain ⟨location', -, h⟩ := exists_of_bind_eq_ok h
  cases h
  exact Argument.ne_empty_of_apiKey? (require_eq_ok hparsed)

lemma bare_of_keyed {form : Form} {argument key : String} {reference? : Option String}
    (h : keyed form argument = .ok (key, reference?)) :
    Bare key ∧ ∀ id ∈ reference?, Bare id := by
  unfold keyed at h
  split at h
  next key' hwords =>
    cases h
    refine ⟨bare_of_mem_words (s := argument) ?_, fun _ h => by cases h⟩
    rw [hwords]
    exact List.mem_cons_self
  next key' word hwords =>
    split at h
    next id hid =>
      cases h
      refine ⟨bare_of_mem_words (s := argument) ?_, ?_⟩
      · rw [hwords]
        exact List.mem_cons_self
      · rintro _ ⟨⟩
        exact Argument.bare_of_reference? hid
    next => cases h
  next => cases h

lemma isSome_of_bearerFormat {scheme : String} {rest : List String} {format : Option String}
    (h : bearerFormat scheme rest = .ok format) : format.isSome ↔ scheme = "bearer" := by
  unfold bearerFormat at h
  split_ifs at h with hscheme
  · split at h
    next => cases h
    next => cases h; simp [hscheme]
  · cases h
    simp [hscheme]

lemma Pass.componentId_of_takeId {pass : Pass} {id : String} (h : pass.takeId = .ok id) :
    pass.componentId = some id := by
  unfold Pass.takeId at h
  split at h
  next => cases h
  next id' hid =>
    split_ifs at h
    cases h
    exact hid

lemma Pass.ne_empty_of_takeId {pass : Pass} {id : String} (h : pass.takeId = .ok id) :
    id ≠ "" := by
  unfold Pass.takeId at h
  split at h
  next => cases h
  next =>
    split_ifs at h with hne
    cases h
    exact hne

end ApiScribe.Builder
