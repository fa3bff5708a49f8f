import ApiScribe.Builder.Declaration
import ApiScribe.Proofs.Builder.Arguments
import ApiScribe.Proofs.Builder.Steps
import ApiScribe.Proofs.RoundTrip
import ApiScribe.Proofs.Shorthand

/-!
# Regularity of what annotations describe

No annotation makes a regular document irregular, so every document that is built from declarations
is regular and survives writing and reading.
-/

namespace ApiScribe.Builder

open OpenApi Json

variable {value : Option String} {s s' : State} {a : Annotation} {outcome : Outcome}

/-! ### Values in comments -/

lemma distinct_of_parse {text : String} {json : Json} (h : parse text = .ok json) :
    json.Distinct := by
  obtain ⟨json', hjson', h⟩ := exists_of_bind_eq_ok h
  obtain rfl : json' = json := by
    cases htrailing : (Source.ofText text).trailing with
    | none => rw [htrailing] at h; cases h; rfl
    | some fault => rw [htrailing] at h; cases h
  exact Tree.distinct_of_toJson hjson'

lemma distinct_of_parseObject {text : String} {fields : OrderedMap Json}
    (h : parseObject text = .ok fields) : (Json.object fields).Distinct := by
  unfold parseObject at h
  split at h
  · cases h
  · split at h <;> cases h
  · split at h <;> cases h
  · split at h
    next hparse => cases h; exact distinct_of_parse hparse
    next => cases h
    next => cases h

lemma distinct_erase {fields : OrderedMap Json} (h : (Json.object fields).Distinct) (key : String) :
    (Json.object (fields.erase key)).Distinct := by
  cases h with
  | object hkeys hfields =>
    have hsub : (fields.erase key).keys.Sublist fields.keys :=
      (List.filter_sublist).map _
    exact .object (hkeys.sublist hsub) fun e he => hfields e (List.mem_of_mem_filter he)

lemma regular_readSchema {argument body : String} {schema : Schema} {id? : Option String}
    (h : readSchema value argument body = .ok (schema, id?)) : schema.Each RegularSchema := by
  unfold readSchema at h
  split at h
  next => cases h; exact .ref _
  next =>
    dsimp only at h
    split_ifs at h
    obtain ⟨⟨fields, id⟩, hdecode, h⟩ := exists_of_bind_eq_ok h
    cases h
    unfold decodeSchema at hdecode
    split at hdecode
    · cases hdecode
    next literal hliteral =>
      obtain ⟨id', -, hdecode⟩ := exists_of_bind_eq_ok hdecode
      cases hdecode
      have hexpanded := Shorthand.distinct_expand (distinct_of_parseObject hliteral)
      rw [Shorthand.expand_object] at hexpanded
      exact .item ⟨distinct_erase hexpanded "$id", by rintro ⟨⟩, by rintro s ⟨⟩⟩

lemma regular_readExample {argument body name : String} {sample : Example}
    (h : readExample argument body = .ok (name, sample)) : sample.Regular := by
  unfold readExample at h
  split at h
  · cases h
  next json hjson =>
    obtain ⟨⟨name', summary⟩, -, h⟩ := exists_of_bind_eq_ok h
    cases h
    exact distinct_of_parse hjson

/-! ### Annotations -/

lemma regular_declare (name : String) (location : ParameterLocation) (description : String) :
    (Parameter.declare name location description).Regular :=
  ⟨fun _ h => (by cases h), .empty⟩

lemma Amendment.regular {place : OperationPlace} {f : Operation → Operation} {pass : Pass}
    (h : Amendment s a place f pass outcome) : ∀ o : Operation, o.Regular → (f o).Regular := by
  intro o ho
  have hparameters {p : RefOr Parameter} (hp : p.Each Parameter.Regular) :=
    ho.withParameters (List.forall_mem_append.mpr ⟨ho.parameters, List.forall_mem_singleton.mpr hp⟩)
  have hbody {b : RefOr RequestBody} (hb : b.Each RequestBody.Regular) :
      Operation.Regular { o with requestBody := some b } := by
    refine ho.withRequestBody ?_
    rintro _ ⟨⟩
    exact hb
  cases h with
  | tag => exact ho.withTexts _ _ _ _
  | security =>
    refine ho.withSecurity (List.forall_mem_append.mpr ⟨ho.security, ?_⟩)
    exact List.forall_mem_singleton.mpr (List.nodup_singleton _)
  | parameterReference => exact hparameters (.ref _)
  | parameter => exact hparameters (.item (regular_declare _ _ _))
  | requestBodyReference => exact hbody (.ref _)
  | requestBody => exact hbody (.item .empty)
  | responseReference => exact ho.withResponses (ho.responses.insert _ (.ref _))
  | response => exact ho.withResponses (ho.responses.insert _ (.item .empty))
  | callbackReference => exact ho.withCallbacks (ho.callbacks.insert _ (.ref _))
  | callback => exact ho.withCallbacks (ho.callbacks.insert _ (.item .empty))

lemma regular_registerParameter {doc : Document} (h : doc.Regular) (id name : String)
    (location : ParameterLocation) (description : String) :
    (registerParameter doc id (.declare name location description)).Regular := by
  have hc := h.components
  have hparameters := hc.parameters.insert id (regular_declare name location description)
  exact { h with components := { hc with parameters := hparameters } }

lemma regular_setVariable {doc : Document} (h : doc.Regular) (index : Nat) (name : String)
    (entry : ServerVariable) : (setVariable doc index name entry).Regular := by
  refine { h with servers := forall_mem_modify h.servers index ?_ }
  exact fun server hserver => OrderedMap.nodup_keys_insert hserver name entry

lemma Rule.regular (h : Rule value s a s' outcome) (hs : s.doc.Regular) : s'.doc.Regular := by
  have hc := hs.components
  cases h with
  | id | api | version | tag | failed | keyless => exact { hs with }
  | server =>
    refine { hs with servers := List.forall_mem_append.mpr ⟨hs.servers, ?_⟩ }
    exact List.forall_mem_singleton.mpr List.nodup_nil
  | serverVariable => exact regular_setVariable hs _ _ _
  | security =>
    refine { hs with security := List.forall_mem_append.mpr ⟨hs.security, ?_⟩ }
    exact List.forall_mem_singleton.mpr (List.nodup_singleton _)
  | apiKeyScheme | httpScheme =>
    refine { hs with components := { hc with securitySchemes := ?_ } }
    exact OrderedMap.nodup_keys_insert hc.securitySchemes _ _
  | operation =>
    exact hs.modifyPaths _ fun _ hpaths => hpaths.setOperation (.of_summary _ _)
  | amend _ _ h => exact hs.modifyOperation _ h.regular
  | @namedParameter name location id place? =>
    have hregistered := regular_registerParameter hs id name location a.bodyText
    cases place? with
    | none => exact hregistered
    | some place =>
      refine hregistered.modifyOperation place fun o ho => ho.withParameters ?_
      exact List.forall_mem_append.mpr ⟨ho.parameters, List.forall_mem_singleton.mpr (.ref _)⟩
  | parameter | unreferred => exact regular_registerParameter hs _ _ _ _
  | requestBody =>
    refine { hs with components := { hc with requestBodies := hc.requestBodies.insert _ ?_ } }
    exact OrderedMap.Each.empty
  | response =>
    refine { hs with components := { hc with responses := hc.responses.insert _ ?_ } }
    exact OrderedMap.Each.empty
  | callback =>
    refine { hs with components := { hc with callbacks := hc.callbacks.insert _ ?_ } }
    exact OrderedMap.Each.empty
  | attachSchema _ hread => exact hs.setSchema (regular_readSchema hread) _
  | @schema json id _ hread =>
    cases regular_readSchema hread with
    | item hschema =>
      have hschemas := hc.schemas.insert id hschema.distinct
      exact { hs with components := { hc with schemas := hschemas } }
  | jsonExample _ hread => exact hs.setExample _ (regular_readExample hread) _

/-! ### Declarations -/

lemma addAll_regular {doc : Document} (declarations : List Declaration) (h : doc.Regular) :
    (addAll doc declarations).1.Regular := by
  induction declarations generalizing doc with
  | nil => exact h
  | cons d rest ih =>
    rw [addAll, Declaration.addTo]
    have hstart : (State.start doc d.name).doc.Regular := h
    exact ih (runPass_preserves Rule.regular hstart)

/-- What is built from declarations is read back from its text, compact or over several lines, as
the same document, except that inline schemas which read as references have become references. It is
written again as it was. -/
theorem parse_build (declarations : List Declaration)
    (hnumbers : (build declarations).1.toJson.Integral)
    (hdepth : (build declarations).1.toJson.depth ≤ nestingLimit) :
    Document.parse (build declarations).1.toJson.compact = .ok (build declarations).1.linked ∧
      Document.parse (build declarations).1.toJson.pretty = .ok (build declarations).1.linked ∧
      (build declarations).1.linked.toJson.compact = (build declarations).1.toJson.compact ∧
      (build declarations).1.linked.toJson.pretty = (build declarations).1.toJson.pretty := by
  have hregular : (build declarations).1.Regular := addAll_regular declarations .empty
  refine ⟨Document.parse_compact hregular hnumbers hdepth,
    Document.parse_pretty hregular hnumbers hdepth, ?_, ?_⟩
  · rw [Document.toJson_linked]
  · rw [Document.toJson_linked]

/-- A parameter's schema reads as a reference, and the only path of a callback is called like one.
-/
def callbackDeclarations : List Declaration :=
  [{ name := "hook"
     doc :=
       "@Operation PUT /h - Hook\n@Parameter n query\n@JSONSchema\n\x7b\"$ref\":\"#N\"\x7d\n" ++
         "@Callback c\n@Operation PUT $ref - Call" }]

/-- The document of the callback is read back from its text. -/
theorem parse_build_callback :
    (build callbackDeclarations).1.toJson.Integral ∧
      (build callbackDeclarations).1.toJson.depth ≤ nestingLimit ∧
      Document.parse (build callbackDeclarations).1.toJson.compact =
        .ok (build callbackDeclarations).1.linked := by
  have hbounds : (build callbackDeclarations).1.toJson.Integral ∧
      (build callbackDeclarations).1.toJson.depth ≤ nestingLimit := by
    decide +kernel
  exact ⟨hbounds.1, hbounds.2, (parse_build callbackDeclarations hbounds.1 hbounds.2).1⟩

end ApiScribe.Builder
