import ApiScribe.Proofs.Annotation.Rendering
import ApiScribe.Proofs.Builder.Schemas

/-!
# JSON text in comments

A text that stands for a JSON value keeps the value as the body of an annotation, whatever blanks
there are around its lines: no token reaches over a newline, and none starts with `@`. So a schema
can be written below its annotation or be the value of the declaration.
-/

namespace ApiScribe

open Text

variable {text laid header : String} {json : Json} {kind : Annotation.Kind} {argument : String}

/-! ### Lines of a JSON text -/

namespace Annotation

/-- A line of tokens opens no annotation. -/
lemma header?_trim_of_spelledOut {line : String} (h : Json.Token.SpelledOut line) :
    header? (trim line) = none := by
  have hspells := (Json.Token.spelledOut_trim h).1
  unfold header?
  split
  next rest hline =>
    rw [Json.Token.SpelledOut, hline] at hspells
    exact absurd rfl hspells.of_cons.1
  next => rfl

lemma spelledOut_of_mem_rows (h : Json.parse text = .ok json) {line : String}
    (hline : line ∈ rows text) : Json.Token.SpelledOut line := by
  have hspells := Json.spells_of_parse h
  rw [← intercalate_rows text] at hspells
  exact (Json.Token.spells_intercalate_iff.mp hspells).1 line hline

/-- The body that the lines of a text make up spells the tokens of the text. -/
lemma spells_trimLines (h : Json.parse text = .ok json) :
    Json.Token.Spells ("\n".intercalate (trimLines ((rows text).map trim))).toList
      (Json.Token.ofLine text) := by
  have hrows {line : String} (hline : line ∈ rows text) :=
    Json.Token.spelledOut_trim (spelledOut_of_mem_rows h hline)
  have hspells : Json.Token.Spells ("\n".intercalate (rows text)).toList
      (Json.Token.ofLine text) := by
    rw [intercalate_rows]
    exact Json.spells_of_parse h
  have hempty : ∀ line : String, decide (line = "") = true → Json.Token.ofLine line = [] := by
    intro line hline
    rw [of_decide_eq_true hline]
    exact Json.Token.Spells.nil.map_lex {}
  refine Json.Token.spells_intercalate_iff.mpr ⟨fun line hline => ?_, ?_⟩
  · obtain ⟨row, hrow, rfl⟩ := List.mem_map.mp ((trimEnds_sublist _ _).subset hline)
    exact (hrows hrow).1
  · rw [trimLines_eq_trimEnds, flatMap_trimEnds _ _ hempty, List.flatMap_map,
      (Json.Token.spells_intercalate_iff.mp hspells).2]
    exact List.flatMap_congr fun row hrow => (hrows hrow).2.symm

/-- A JSON text below a header is the body of one annotation. -/
lemma ofComment_of_relaid (h : Json.parse text = .ok json) (hlaid : Relaid text laid)
    (hsingle : '\n' ∉ header.toList) (hheader : Opens kind argument (trim header)) :
    ofComment (header ++ "\n" ++ laid) =
      [{ kind, argument, body := trimLines ((rows text).map trim) }] := by
  obtain ⟨htrim, hlines⟩ := map_trim_eq_of_padded hlaid fun _ => notMem_of_mem_rows
  have hplain : ∀ l ∈ rows laid, header? (trim l) = none := by
    intro l hl
    have hmem : trim l ∈ (rows text).map trim := htrim ▸ List.mem_map_of_mem hl
    obtain ⟨row, hrow, heq⟩ := List.mem_map.mp hmem
    rw [← heq]
    exact header?_trim_of_spelledOut (spelledOut_of_mem_rows h hrow)
  have hcomment : header ++ "\n" ++ laid = "\n".intercalate (header :: rows laid) := by
    rw [String.intercalate_cons_of_ne_nil (rows_ne_nil laid), intercalate_rows]
  rw [hcomment, ofComment_of_plain (List.forall_mem_cons.mpr ⟨hsingle, hlines⟩)
    (hheader.header?_eq (tidy_trim hsingle).single) hplain, htrim]

/-- A header alone is an annotation without a body. -/
lemma ofComment_of_opens (hsingle : '\n' ∉ header.toList)
    (hheader : Opens kind argument (trim header)) : ofComment header = [{ kind, argument }] := by
  have hcomment := ofComment_of_plain (List.forall_mem_singleton.mpr hsingle)
    (hheader.header?_eq (tidy_trim hsingle).single) (List.forall_mem_nil _)
  rwa [String.intercalate_singleton] at hcomment

end Annotation

/-! ### Schemas -/

namespace Builder

/-- The schema is the same, whether its text is the body or the value of the declaration. -/
lemma readSchema_of_parse {body : String} {fields : OrderedMap Json}
    (htext : Json.parse text = .ok (.object fields))
    (hbody : Json.parse body = .ok (.object fields)) (value : Option String) (argument : String) :
    readSchema value argument body = readSchema (some text) argument "" := by
  cases hreference : Argument.reference? argument with
  | some id => rw [readSchema, readSchema, hreference]
  | none =>
    have hne : body ≠ "" := by
      rintro rfl
      exact Json.trim_ne_empty_of_parse hbody rfl
    have hbody' : Json.parse (schemaText value body) = .ok (.object fields) := by
      rwa [schemaText, if_neg hne]
    have htext' : Json.parse (schemaText (some text) "") = .ok (.object fields) := by
      rwa [schemaText, if_pos rfl, Option.getD_some]
    rw [readSchema_eq hreference hbody', readSchema_eq hreference htext']

lemma step_of_readSchema {value value' : Option String} {a a' : Annotation}
    (hkind : a.kind = .jsonSchema) (hkind' : a'.kind = .jsonSchema)
    (hread : readSchema value a.argument a.bodyText = readSchema value' a'.argument a'.bodyText)
    (s : State) : step value s a = step value' s a' := by
  simp only [step, attempt, apply, hkind, hkind', applyJsonSchema, hread]

/-- A JSON text below a header, with any blanks around its lines, is the body of one annotation and
keeps its value there. If it is the text of a schema, it could as well be the value of the
declaration. -/
theorem embedded_json (hheader : Annotation.Opens kind argument (trim header))
    (hsingle : '\n' ∉ header.toList) (hparse : Json.parse text = .ok json)
    (hlaid : Relaid text laid) :
    (∃ a, Annotation.ofComment (header ++ "\n" ++ laid) = [a] ∧ a.kind = kind ∧
      a.argument = argument ∧ Json.parse a.bodyText = .ok json) ∧
    (kind = .jsonSchema → ∀ fields, json = .object fields →
      ∀ (d : Declaration) (doc : OpenApi.Document),
        { d with doc := header ++ "\n" ++ laid }.addTo doc =
          { d with doc := header, value := some text }.addTo doc) := by
  have hcomment := Annotation.ofComment_of_relaid hparse hlaid hsingle hheader
  have hspells := Annotation.spells_trimLines hparse
  have hbody := Json.parse_of_spells hparse hspells
  refine ⟨⟨_, hcomment, rfl, rfl, hbody⟩, ?_⟩
  rintro rfl fields rfl d doc
  have hbare := Annotation.ofComment_of_opens hsingle hheader
  have hread := readSchema_of_parse hparse hbody d.value argument
  have hempty : Annotation.bodyText { kind := .jsonSchema, argument } = "" := rfl
  have hstep (s : State) :
      step d.value s
          { kind := .jsonSchema, argument, body := Annotation.trimLines ((rows text).map trim) } =
        step (some text) s { kind := .jsonSchema, argument } := by
    refine step_of_readSchema rfl rfl ?_ s
    rw [hempty]
    exact hread
  rw [addTo_of_singleton { d with doc := header ++ "\n" ++ laid } hcomment,
    addTo_of_singleton { d with doc := header, value := some text } hbare, hstep]
  rfl

/-- A schema over several lines, with an empty line and an `@` in a string. -/
def listText : String := "\x7b\r\n\n\"$id\": \"#Id\",\n \"enum\": [\"@A\"]\x7d\n"

/-- The schema with blanks around its lines, one of which is no blank of JSON. -/
def listLaid : String :=
  " \x7b\r\n\x0b\n\t\"$id\": \"#Id\",\n  \"enum\": [\"@A\"]\x7d \n "

def listFields : OrderedMap Json :=
  ⟨[("$id", .string "#Id"), ("enum", .array [.string "@A"])]⟩

lemma parse_listText : Json.parse listText = .ok (.object listFields) := by
  have hitems : (Json.array [.string "@A"]).Distinct :=
    .array (List.forall_mem_singleton.mpr (.string "@A"))
  refine Json.parse_of_readsAs (.object (by decide) ?_) (by decide +kernel)
  exact List.forall_mem_cons.mpr ⟨.string "#Id", List.forall_mem_singleton.mpr hitems⟩

/-- The schema is read from a comment as it is read from a constant. -/
theorem embedded_json_list :
    Annotation.Opens .jsonSchema "" (trim " @JSONSchema") ∧ '\n' ∉ " @JSONSchema".toList ∧
      Json.parse listText = .ok (.object listFields) ∧ Relaid listText listLaid ∧
      (∃ a, Annotation.ofComment (" @JSONSchema" ++ "\n" ++ listLaid) = [a] ∧
        a.kind = .jsonSchema ∧ a.argument = "" ∧
        Json.parse a.bodyText = .ok (.object listFields)) ∧
      ∀ doc, { name := "LIST", doc := " @JSONSchema" ++ "\n" ++ listLaid : Declaration }.addTo doc =
        { name := "LIST", doc := " @JSONSchema", value := some listText : Declaration }.addTo
          doc := by
  have hheader : Annotation.Opens .jsonSchema "" (trim " @JSONSchema") := .of_header? (by decide)
  have hsingle : '\n' ∉ " @JSONSchema".toList := by decide
  have hnone : ∀ c ∈ ([] : List Char), isBlank c ∧ c ≠ '\n' := List.forall_mem_nil _
  have hone {b : Char} (hb : isBlank b ∧ b ≠ '\n') : ∀ c ∈ [b], isBlank c ∧ c ≠ '\n' :=
    List.forall_mem_singleton.mpr hb
  have hlaid : Relaid listText listLaid := by
    refine .cons ⟨[' '], [], hone (by decide), hnone, by decide⟩ (.cons ?_ (.cons ?_ (.cons ?_
      (.cons ?_ .nil))))
    · exact ⟨['\x0b'], [], hone (by decide), hnone, rfl⟩
    · exact ⟨['\t'], [], hone (by decide), hnone, rfl⟩
    · exact ⟨[' '], [' '], hone (by decide), hone (by decide), rfl⟩
    · exact ⟨[' '], [], hone (by decide), hnone, rfl⟩
  obtain ⟨hsplit, hadd⟩ := embedded_json hheader hsingle parse_listText hlaid
  exact ⟨hheader, hsingle, parse_listText, hlaid, hsplit,
    hadd rfl _ rfl { name := "LIST", doc := "" }⟩

end Builder

end ApiScribe
