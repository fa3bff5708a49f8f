import ApiScribe.Proofs.Builder.Description
import ApiScribe.Proofs.Builder.Flattening
import ApiScribe.Proofs.Json.OneLine
import ApiScribe.Proofs.Json.Parsing

/-!
# Annotations that put an operation together

Annotations convey a property of states to another if they lead from each state with the one to a
state with the other, and none of them fails. The description of each part of an operation conveys
the operation without the part to the operation with it.
-/

namespace ApiScribe

open Builder OpenApi Text

/-! ### Media types of content -/

namespace OpenApi

def Parameter.withMedia (p : Parameter) (m : MediaType) : Parameter :=
  { p with schema := m.schema, examples := m.examples }

/-- Change what is known of the content at a place. -/
def Document.modifyContent (doc : Document) (f : MediaType → MediaType) : ContentPlace → Document
  | .parameter place => doc.modifyParameter (fun p => p.withMedia (f p.media)) place
  | .requestBody place =>
    doc.modifyRequestBody (fun b => { b with content := b.content.modifyJson f }) place
  | .response place =>
    doc.modifyResponse (fun r => { r with content := r.content.modifyJson f }) place

lemma Document.setSchema_eq (doc : Document) (schema : Schema) (content : ContentPlace) :
    doc.setSchema schema content =
      doc.modifyContent (fun m => { m with schema := some schema }) content := by
  cases content <;> rfl

lemma Document.setExample_eq (doc : Document) (name : String) (sample : Example)
    (content : ContentPlace) :
    doc.setExample name sample content =
      doc.modifyContent (fun m => { m with examples := m.examples.insert name sample })
        content := by
  cases content <;> rfl

lemma MediaType.modifyJson_content {m : MediaType} {f : MediaType → MediaType}
    (h : (f m).isEmpty = false) : Content.modifyJson m.content f = (f m).content := by
  have hf : (f m).content = ⟨[("application/json", f m)]⟩ := by rw [content, h]; rfl
  rw [hf, content]
  cases hm : m.isEmpty with
  | false => rfl
  | true =>
    -- the media type is added by the change
    have hempty : m = {} := by
      obtain ⟨schema, ⟨examples⟩⟩ := m
      obtain ⟨hschema, hexamples⟩ := Bool.and_eq_true_iff.mp hm
      cases schema with
      | some schema => cases hschema
      | none =>
        cases examples with
        | nil => rfl
        | cons e examples => cases hexamples
    rw [hempty]
    rfl

end OpenApi

namespace Builder

variable {value : Option String} {s : State} {a : Annotation}

lemma mem_of_eq_append {α : Type} {l front back : List α} {x : α} (h : l = front ++ x :: back) :
    x ∈ l := by
  rw [h]
  exact List.mem_append_right _ List.mem_cons_self

/-! ### Runs that do not fail -/

lemma step_of_done {s' : State} (h : attempt value s a = (s', .done)) :
    step value s a = (s', []) := by
  rw [step, h]

/-- Tidy annotations that do not fail in any state with `P`, and lead to a state with `Q`. -/
structure Conveys (value : Option String) (P Q : State → Prop) (annotations : List Annotation) :
    Prop where
  tidy : ∀ a ∈ annotations, a.Tidy
  runs : ∀ s, P s → (run value s annotations).2 = [] ∧ Q (run value s annotations).1

namespace Conveys

variable {P Q R : State → Prop} {xs ys : List Annotation}

lemma nil (h : ∀ s, P s → Q s) : Conveys value P Q [] where
  tidy := List.forall_mem_nil _
  runs s hs := ⟨rfl, h s hs⟩

lemma single (ha : a.Tidy) (h : ∀ s, P s → ∃ s', step value s a = (s', []) ∧ Q s') :
    Conveys value P Q [a] where
  tidy := List.forall_mem_singleton.mpr ha
  runs s hs := by
    obtain ⟨s', hstep, hs'⟩ := h s hs
    rw [run_cons, hstep]
    exact ⟨rfl, hs'⟩

lemma append (h : Conveys value P Q xs) (h' : Conveys value Q R ys) :
    Conveys value P R (xs ++ ys) where
  tidy := List.forall_mem_append.mpr ⟨h.tidy, h'.tidy⟩
  runs s hs := by
    obtain ⟨hfailures, hQ⟩ := h.runs s hs
    obtain ⟨hfailures', hR⟩ := h'.runs _ hQ
    rw [run_append, hfailures, hfailures']
    exact ⟨rfl, hR⟩

lemma cons (h : Conveys value P Q [a]) (h' : Conveys value Q R ys) :
    Conveys value P R (a :: ys) :=
  h.append h'

lemma imp (h : Conveys value P Q xs) (h' : ∀ s, Q s → R s) : Conveys value P R xs where
  tidy := h.tidy
  runs s hs := (h.runs s hs).imp_right (h' _)

/-- Annotations for the items of a list, one after the other. -/
lemma flatMap {α : Type} {F : List α → State → Prop} {f : α → List Annotation} {l : List α}
    (h : ∀ done x rest, l = done ++ x :: rest → Conveys value (F done) (F (done ++ [x])) (f x)) :
    Conveys value (F []) (F l) (l.flatMap f) := by
  have hrest (rest done : List α) (hl : l = done ++ rest) :
      Conveys value (F done) (F l) (rest.flatMap f) := by
    induction rest generalizing done with
    | nil =>
      rw [hl, List.append_nil]
      exact nil fun _ hs => hs
    | cons x rest ih =>
      rw [List.flatMap_cons]
      exact (h done x rest hl).append (ih (done ++ [x]) (by rw [hl, List.append_cons]))
  exact hrest l [] rfl

lemma map {α : Type} {F : List α → State → Prop} {f : α → Annotation} {l : List α}
    (h : ∀ done x rest, l = done ++ x :: rest → Conveys value (F done) (F (done ++ [x])) [f x]) :
    Conveys value (F []) (F l) (l.map f) := by
  rw [← List.flatMap_singleton' (l.map f), List.flatMap_map]
  exact flatMap h

end Conveys

/-! ### Operations in scope -/

/-- The operation at the place is in scope, and otherwise the document is as it was. -/
structure Focus (doc : Document) (place : OperationPlace) (c : Container) (o : Operation)
    (s : State) : Prop where
  doc : s.doc = doc.putOperation place o
  scope : s.pass.scope.operation? = some place
  container : s.pass.container = c

variable {doc : Document} {place : OperationPlace} {c : Container} {o : Operation}

lemma Focus.operation (hs : Focus doc place c o s) (hdoc : (doc.paths? place.container).isSome) :
    s.doc.operation? place = some o := by
  rw [hs.doc, Document.operation?_putOperation hdoc]

lemma Focus.attempt_eq (hs : Focus doc place c o s) (hdoc : (doc.paths? place.container).isSome)
    {f : Operation → Operation} {pass : Pass} {outcome : Outcome}
    (h : Amendment s a place f pass outcome) :
    attempt value s a = ({ doc := doc.putOperation place (f o), pass }, outcome) := by
  rw [h.attempt_eq hs.scope (by rw [hs.operation hdoc]; rfl), hs.doc,
    Document.modifyOperation_putOperation]

/-- A change of the operation in scope that leaves the pass as it is. -/
lemma conveys_amendment (hdoc : (doc.paths? place.container).isSome) (ha : a.Tidy)
    {f : Operation → Operation} (h : ∀ s, Amendment s a place f s.pass .done) :
    Conveys value (Focus doc place c o) (Focus doc place c (f o)) [a] := by
  refine .single ha fun s hs => ?_
  exact ⟨_, step_of_done (hs.attempt_eq hdoc (h s)), ⟨rfl, hs.scope, hs.container⟩⟩

/-! ### Parts without content -/

lemma tidy_of_argument {argument : String} (h : Tidy argument) (kind : Annotation.Kind) :
    Annotation.Tidy { kind, argument } :=
  ⟨h, .nil⟩

lemma isBody_lines {text : String} (h : Annotation.IsBodyText text) :
    Annotation.IsBody (lines text) := by
  obtain ⟨body, hbody, rfl⟩ := h
  rwa [lines_intercalate hbody.tidy hbody.last]

lemma intercalate_lines {text : String} (h : Annotation.IsBodyText text) :
    "\n".intercalate (lines text) = text := by
  obtain ⟨body, hbody, rfl⟩ := h
  rw [lines_intercalate hbody.tidy hbody.last]

lemma exists_component {kind : ComponentKind} {r : Reference} (h : r.PointsTo kind) :
    ∃ id, Bare id ∧ r = .component kind id ∧ r.argument kind = Argument.braced id := by
  obtain ⟨id, hid, htarget⟩ := h
  have hr : r = .component kind id := by
    cases r
    exact congrArg Reference.mk htarget
  refine ⟨id, hid, hr, ?_⟩
  rw [hr, Reference.argument, Reference.id?_component]
  rfl

section Parts

variable (hdoc : (doc.paths? place.container).isSome)

include hdoc

lemma conveys_tag {tag : String} (h : Tidy tag) :
    Conveys value (Focus doc place c o) (Focus doc place c { o with tags := o.tags ++ [tag] })
      [{ kind := .tag, argument := tag }] :=
  conveys_amendment hdoc (tidy_of_argument h _) fun _ => .tag rfl rfl

lemma conveys_requirement {r : SecurityRequirement} (h : r.Describable) :
    Conveys value (Focus doc place c o)
      (Focus doc place c { o with security := o.security ++ [r] }) (describeRequirement r) := by
  obtain ⟨name, scopes, hname, hscopes, rfl⟩ := h
  have hwords : ∀ word ∈ name :: scopes, Bare word := List.forall_mem_cons.mpr ⟨hname, hscopes⟩
  exact conveys_amendment hdoc (tidy_of_argument (tidy_phrase_of_bare hwords) _) fun _ =>
    .security rfl (words_phrase hwords)

lemma conveys_parameterReference {r : Reference} (h : r.PointsTo .parameters) :
    Conveys value (Focus doc place c o)
      (Focus doc place c { o with parameters := o.parameters ++ [.ref r] })
      (describeParameter (.ref r)) := by
  obtain ⟨id, hid, rfl, hargument⟩ := exists_component h
  rw [describeParameter, hargument]
  exact conveys_amendment hdoc (tidy_of_argument (Argument.bare_braced hid).tidy _) fun _ =>
    .parameterReference rfl (Argument.reference?_braced hid)

lemma conveys_requestBodyReference {r : Reference} (h : r.PointsTo .requestBodies) :
    Conveys value (Focus doc place c o) (Focus doc place c { o with requestBody := some (.ref r) })
      (describeRequestBody (.ref r)) := by
  obtain ⟨id, hid, rfl, hargument⟩ := exists_component h
  rw [describeRequestBody, hargument]
  exact conveys_amendment hdoc (tidy_of_argument (Argument.bare_braced hid).tidy _) fun _ =>
    .requestBodyReference rfl (Argument.reference?_braced hid)

omit hdoc in
lemma tidy_keyed {key id : String} (hkey : Bare key) (hid : Bare id) :
    Tidy (phrase [key, Argument.braced id]) :=
  tidy_phrase_of_bare (by simpa using ⟨hkey, Argument.bare_braced hid⟩)

lemma conveys_responseReference {status : String} (hstatus : Bare status) {r : Reference}
    (h : r.PointsTo .responses) :
    Conveys value (Focus doc place c o)
      (Focus doc place c { o with responses := o.responses.insert status (.ref r) })
      (describeResponse status (.ref r)) := by
  obtain ⟨id, hid, rfl, hargument⟩ := exists_component h
  rw [describeResponse, hargument]
  exact conveys_amendment hdoc (tidy_of_argument (tidy_keyed hstatus hid) _) fun _ =>
    .responseReference rfl (keyed_reference .response hstatus hid)

lemma conveys_callbackReference {key : String} (hkey : Bare key) {r : Reference}
    (h : r.PointsTo .callbacks) :
    Conveys value (Focus doc place c o)
      (Focus doc place c { o with callbacks := o.callbacks.insert key (.ref r) })
      [describeCallback key (.ref r)] := by
  obtain ⟨id, hid, rfl, hargument⟩ := exists_component h
  rw [describeCallback, hargument]
  exact conveys_amendment hdoc (tidy_of_argument (tidy_keyed hkey hid) _) fun _ =>
    .callbackReference rfl (keyed_reference .callback hkey hid)

/-- A callback that is opened takes the operations that follow. -/
lemma conveys_callback {key : String} (hkey : Bare key) :
    Conveys value (Focus doc place c o)
      (Focus doc place (place.callback key)
        { o with callbacks := o.callbacks.insert key (.item {}) })
      [{ kind := .callback, argument := key }] := by
  refine .single (tidy_of_argument hkey.tidy _) fun s hs => ?_
  -- the pass itself stays as it is, and the step enters the callback
  have hattempt : attempt value s { kind := .callback, argument := key } = _ :=
    hs.attempt_eq hdoc (.callback rfl (keyed_key .callback hkey))
  exact ⟨_, by rw [step, hattempt], ⟨rfl, rfl, rfl⟩⟩

end Parts

/-! ### Content -/

/-- The content at the place is in scope, in an operation. -/
structure Attaching (doc : Document) (place : OperationPlace) (c : Container)
    (content : ContentPlace) (o : Operation) (s : State) : Prop extends Focus doc place c o s where
  content : s.pass.scope.content? = some content

/-- The operation `embed m` has `m` as its content at the place. -/
structure Embeds (place : OperationPlace) (content : ContentPlace)
    (embed : MediaType → Operation) : Prop where
  hasContent : ∀ (doc : Document) m, (doc.paths? place.container).isSome →
    (doc.putOperation place (embed m)).hasContent content
  modifyContent : ∀ (doc : Document) m (f : MediaType → MediaType), (f m).isEmpty = false →
    (doc.putOperation place (embed m)).modifyContent f content =
      doc.putOperation place (embed (f m))

lemma modify_length_append {α : Type} (items : List α) (x : α) (f : α → α) :
    (items ++ [x]).modify items.length f = items ++ [f x] := by
  induction items with
  | nil => rfl
  | cons item items ih => exact congrArg (item :: ·) ih

lemma embeds_parameter (place : OperationPlace) (o : Operation) (p : Parameter) :
    Embeds place (.parameter (.inline place o.parameters.length)) fun m =>
      { o with parameters := o.parameters ++ [.item (p.withMedia m)] } where
  hasContent doc m hdoc := by
    simp [Document.hasContent, Document.parameter?, Document.operation?_putOperation hdoc,
      RefOr.item?]
  modifyContent doc m f _ := by
    rw [Document.modifyContent, Document.modifyParameter, Document.modifyOperation_putOperation]
    dsimp only
    rw [modify_length_append]
    rfl

lemma embeds_requestBody (place : OperationPlace) (o : Operation) (description : String) :
    Embeds place (.requestBody (.inline place)) fun m =>
      { o with requestBody := some (.item { description, content := m.content }) } where
  hasContent doc m hdoc := by
    simp [Document.hasContent, Document.requestBody?, Document.operation?_putOperation hdoc,
      RefOr.item?]
  modifyContent doc m f h := by
    rw [Document.modifyContent, Document.modifyRequestBody, Document.modifyOperation_putOperation]
    simp only [Option.map_some, RefOr.mapItem, MediaType.modifyJson_content h]

lemma embeds_response (place : OperationPlace) (o : Operation) (status description : String) :
    Embeds place (.response (.inline place status)) fun m =>
      { o with
        responses := o.responses.insert status (.item { description, content := m.content }) } where
  hasContent doc m hdoc := by
    simp [Document.hasContent, Document.response?, Document.operation?_putOperation hdoc,
      RefOr.item?]
  modifyContent doc m f h := by
    rw [Document.modifyContent, Document.modifyResponse, Document.modifyOperation_putOperation]
    dsimp only
    rw [OrderedMap.modify_eq_insert (OrderedMap.get?_insert_self _ _ _),
      OrderedMap.insert_insert_self]
    simp only [RefOr.mapItem, MediaType.modifyJson_content h]

/-! ### Schemas and examples -/

lemma isBody_compact {json : Json} (h : json.Integral) : Annotation.IsBody [json.compact] := by
  refine .singleton (Json.tidy_compact h) ?_ (Json.compact_ne_empty h)
  obtain ⟨c, hhead, -, hc⟩ := Json.head?_compactChars h
  obtain ⟨cs, hcs⟩ := List.head?_eq_some_iff.mp hhead
  unfold Annotation.header?
  rw [Json.toList_compact, hcs]
  split
  next heq => exact absurd (List.cons.inj heq).1 hc
  next => rfl

lemma decodeSchema_compact {fields : OrderedMap Json} (hid : "$id" ∉ fields.keys)
    (h : (Json.object fields).Literal) :
    decodeSchema (Json.object fields).compact = .ok (Shorthand.expandObject fields, none) := by
  have hkey : "$id" ∉ (Shorthand.expandObject fields).keys := by
    cases htarget : Shorthand.target? fields.entries with
    | some id =>
      rw [Shorthand.expandObject_of_target htarget]
      simp [OrderedMap.keys]
    | none => rwa [Shorthand.expandObject_of_none htarget, OrderedMap.keys_mapValues]
  rw [decodeSchema, Json.parseObject_compact h.integral h.distinct h.depth]
  simp only [schemaId, OrderedMap.get?_eq_none_iff.mpr hkey, OrderedMap.erase_of_notMem hkey]
  rfl

/-- A schema is read as it is described. -/
lemma readSchema_describe (value : Option String) {schema : Schema}
    (h : schema.Sound .schemas DescribableSchema) :
    ∃ id?, readSchema value schema.describe.argument schema.describe.bodyText =
      .ok (schema, id?) := by
  cases h with
  | ref h =>
    obtain ⟨id, hid, rfl, hargument⟩ := exists_component h
    refine ⟨none, ?_⟩
    rw [Schema.describe, hargument, readSchema, Argument.reference?_braced hid]
  | item h =>
    obtain ⟨fields, hid, hliteral, rfl⟩ := h
    refine ⟨none, ?_⟩
    have htext : schemaText value (Json.object fields).compact = (Json.object fields).compact :=
      if_neg (Json.compact_ne_empty hliteral.integral)
    have hblank : trim (Json.object fields).compact ≠ "" := by
      rw [(Json.tidy_compact hliteral.integral).trimmed]
      exact Json.compact_ne_empty hliteral.integral
    rw [Schema.describe, Shorthand.contract_expand, Annotation.bodyText,
      String.intercalate_singleton, readSchema, Argument.reference?_empty]
    simp only [htext, if_neg hblank, decodeSchema_compact hid hliteral, Shorthand.expand_object]
    rfl

lemma tidy_describe_schema {schema : Schema} (h : schema.Sound .schemas DescribableSchema) :
    schema.describe.Tidy := by
  cases h with
  | ref h =>
    obtain ⟨id, hid, rfl, hargument⟩ := exists_component h
    rw [Schema.describe, hargument]
    exact tidy_of_argument (Argument.bare_braced hid).tidy _
  | item h =>
    obtain ⟨fields, hid, hliteral, rfl⟩ := h
    rw [Schema.describe, Shorthand.contract_expand]
    exact ⟨tidy_empty, isBody_compact hliteral.integral⟩

lemma readExample_describe {name : String} (hname : Bare name) {e : Example} (h : e.Describable) :
    readExample (e.describe name).argument (e.describe name).bodyText = .ok (name, e) := by
  have hvalue := Json.parse_compact h.value.integral h.value.distinct h.value.depth
  rw [Example.describe, Annotation.bodyText, String.intercalate_singleton, readExample, hvalue]
  simp only [Argument.jsonExample?_phrase hname h.summary h.summary_ne_empty, require]
  obtain ⟨summary, description, value⟩ := e
  have hdescription : description = "" := h.description
  rw [hdescription]
  rfl

lemma tidy_describe_example {name : String} (hname : Bare name) {e : Example}
    (h : e.Describable) : (e.describe name).Tidy where
  argument := by
    have hparts : ∀ part ∈ [name, "-", e.summary], Tidy part ∧ part ≠ "" := by
      simpa using ⟨⟨hname.tidy, hname.ne_empty⟩, Argument.bare_dash.tidy, h.summary,
        h.summary_ne_empty⟩
    exact tidy_phrase hparts
  body := isBody_compact h.value.integral

section Content

variable {content : ContentPlace} {embed : MediaType → Operation}
  (hdoc : (doc.paths? place.container).isSome) (hembed : Embeds place content embed)

include hdoc hembed

/-- A change of the content in scope. -/
lemma conveys_attaching {m : MediaType} {f : MediaType → MediaType} (ha : a.Tidy)
    (hf : (f m).isEmpty = false)
    (h : ∀ s, s.pass.scope.content? = some content → s.doc.hasContent content →
      attempt value s a = ({ s with doc := s.doc.modifyContent f content }, .done)) :
    Conveys value (Attaching doc place c content (embed m))
      (Attaching doc place c content (embed (f m))) [a] := by
  refine .single ha fun s hs => ?_
  have hcontent : s.doc.hasContent content := by
    rw [hs.doc]
    exact hembed.hasContent doc m hdoc
  refine ⟨_, step_of_done (h s hs.content hcontent), ⟨?_, hs.scope, hs.container⟩, hs.content⟩
  rw [hs.doc, hembed.modifyContent doc m f hf]

lemma conveys_schema (m : MediaType) {schema : Schema}
    (h : schema.Sound .schemas DescribableSchema) :
    Conveys value (Attaching doc place c content (embed m))
      (Attaching doc place c content (embed { m with schema := some schema }))
      [schema.describe] := by
  obtain ⟨id?, hread⟩ := readSchema_describe value h
  have hkind : schema.describe.kind = .jsonSchema := by cases schema <;> rfl
  refine conveys_attaching (f := fun m => { m with schema := some schema }) hdoc hembed
    (tidy_describe_schema h) rfl fun s hscope hcontent => ?_
  rw [← Document.setSchema_eq]
  exact (Rule.attachSchema hkind hread hscope hcontent).attempt_eq fun _ h => by cases h

lemma conveys_example (m : MediaType) {name : String} (hname : Bare name) {e : Example}
    (h : e.Describable) :
    Conveys value (Attaching doc place c content (embed m))
      (Attaching doc place c content (embed { m with examples := m.examples.insert name e }))
      [e.describe name] := by
  have hfull : MediaType.isEmpty { m with examples := m.examples.insert name e } = false := by
    have hmem := OrderedMap.mem_entries_of_get? (m.examples.get?_insert_self name e)
    simp [MediaType.isEmpty, OrderedMap.isEmpty, List.ne_nil_of_mem hmem]
  refine conveys_attaching (f := fun m => { m with examples := m.examples.insert name e }) hdoc
    hembed (tidy_describe_example hname h) hfull fun s hscope hcontent => ?_
  rw [← Document.setExample_eq]
  have hrule : Rule value s (e.describe name) _ .done :=
    .jsonExample rfl (readExample_describe hname h) hscope hcontent
  exact hrule.attempt_eq fun _ h => by cases h

/-- The description of a media type makes it out of nothing. -/
lemma conveys_media {m : MediaType} (h : m.Describable) :
    Conveys value (Attaching doc place c content (embed {}))
      (Attaching doc place c content (embed m)) m.describe := by
  have hschema : Conveys value (Attaching doc place c content (embed {}))
      (Attaching doc place c content (embed { schema := m.schema }))
      (m.schema.toList.map Schema.describe) := by
    cases hm : m.schema with
    | none => exact .nil fun _ hs => hs
    | some schema => exact conveys_schema hdoc hembed {} (h.schema schema hm)
  refine hschema.append ?_
  refine .map (F := fun done => Attaching doc place c content
    (embed { schema := m.schema, examples := ⟨done⟩ })) fun done e rest hentries => ?_
  have hmem := mem_of_eq_append hentries
  have hnew := OrderedMap.notMem_keys_of_eq_append h.distinct hentries
  have hconveys : Conveys value (Attaching doc place c content _) _ [e.2.describe e.1] :=
    conveys_example hdoc hembed { schema := m.schema, examples := ⟨done⟩ } (h.names e hmem)
      (h.examples e hmem)
  dsimp only at hconveys
  rwa [OrderedMap.insert_of_notMem hnew] at hconveys

end Content

/-! ### Parts with content -/

section Parts

variable (hdoc : (doc.paths? place.container).isSome)

include hdoc

/-- A change of the operation in scope after which the content at a place is in scope. -/
lemma conveys_entering {content : ContentPlace} (ha : a.Tidy) {f : Operation → Operation}
    (h : ∀ s, Focus doc place c o s →
      Amendment s a place f (s.pass.enterContent content) .done) :
    Conveys value (Focus doc place c o) (Attaching doc place c content (f o)) [a] := by
  refine .single ha fun s hs => ?_
  exact ⟨_, step_of_done (hs.attempt_eq hdoc (h s hs)), ⟨rfl, hs.scope, hs.container⟩, rfl⟩

lemma conveys_parameter {p : RefOr Parameter} (h : p.Sound .parameters Parameter.Describable) :
    Conveys value (Focus doc place c o)
      (Focus doc place c { o with parameters := o.parameters ++ [p] }) (describeParameter p) := by
  cases h with
  | ref h => exact conveys_parameterReference hdoc h
  | @item p h =>
    have htidy : Tidy (phrase [p.name, p.location.name]) :=
      tidy_phrase_of_bare (by simpa using ⟨h.name, p.location.bare_name⟩)
    have hp : (Parameter.declare p.name p.location p.description).withMedia p.media = p := by
      rw [Parameter.declare, ← h.required]
      rfl
    have hbody : p.header.bodyText = p.description := intercalate_lines h.description
    have hheader : Conveys value (Focus doc place c o) (Attaching doc place c _ _) [p.header] :=
      conveys_entering hdoc ⟨htidy, isBody_lines h.description⟩ fun s hs =>
        .parameter rfl (Argument.reference?_phrase_cons_cons _ _ _)
          (parameterHeader_phrase h.name p.location) (hs.operation hdoc)
    rw [hbody] at hheader
    have hmedia : Conveys value (Attaching doc place c _ _) _ p.media.describe :=
      conveys_media hdoc (embeds_parameter place o (.declare p.name p.location p.description))
        h.media
    rw [hp] at hmedia
    exact hheader.cons (hmedia.imp fun s hs => hs.toFocus)

lemma conveys_requestBody {b : RefOr RequestBody}
    (h : b.Sound .requestBodies RequestBody.Describable) :
    Conveys value (Focus doc place c o) (Focus doc place c { o with requestBody := some b })
      (describeRequestBody b) := by
  cases h with
  | ref h => exact conveys_requestBodyReference hdoc h
  | @item b h =>
    have hbody : b.header.bodyText = b.description := intercalate_lines h.description
    have hheader : Conveys value (Focus doc place c o) (Attaching doc place c _ _) [b.header] :=
      conveys_entering hdoc ⟨tidy_empty, isBody_lines h.description⟩ fun s hs =>
        .requestBody rfl Argument.reference?_empty
    rw [hbody] at hheader
    have hmedia : Conveys value (Attaching doc place c _ _) _ b.content.media.describe :=
      conveys_media hdoc (embeds_requestBody place o b.description) h.content.media
    have hb : ({ description := b.description, content := b.content.media.content } :
        RequestBody) = b := by
      rw [← h.content.json]
      obtain ⟨description, content, required⟩ := b
      exact congrArg _ h.required.symm
    rw [hb] at hmedia
    exact hheader.cons (hmedia.imp fun s hs => hs.toFocus)

lemma conveys_response {status : String} (hstatus : Bare status) {r : RefOr Response}
    (h : r.Sound .responses Response.Describable) :
    Conveys value (Focus doc place c o)
      (Focus doc place c { o with responses := o.responses.insert status r })
      (describeResponse status r) := by
  cases h with
  | ref h => exact conveys_responseReference hdoc hstatus h
  | @item r h =>
    have hbody : (r.header status).bodyText = r.description := intercalate_lines h.description
    have hheader : Conveys value (Focus doc place c o) (Attaching doc place c _ _)
        [r.header status] :=
      conveys_entering hdoc ⟨hstatus.tidy, isBody_lines h.description⟩ fun s hs =>
        .response rfl (keyed_key .response hstatus)
    rw [hbody] at hheader
    have hmedia : Conveys value (Attaching doc place c _ _) _ r.content.media.describe :=
      conveys_media hdoc (embeds_response place o status r.description) h.content.media
    rw [← h.content.json] at hmedia
    exact hheader.cons (hmedia.imp fun s hs => hs.toFocus)

/-! ### Lists of parts -/

lemma conveys_tags {tags : List String} (h : ∀ tag ∈ tags, Tidy tag) :
    Conveys value (Focus doc place c { o with tags := [] }) (Focus doc place c { o with tags })
      (tags.map ({ kind := .tag, argument := · })) :=
  .map (F := fun done => Focus doc place c { o with tags := done }) fun _ tag _ htags =>
    conveys_tag hdoc (h tag (mem_of_eq_append htags))

lemma conveys_security {security : List SecurityRequirement} (h : ∀ r ∈ security, r.Describable) :
    Conveys value (Focus doc place c { o with security := [] })
      (Focus doc place c { o with security }) (security.flatMap describeRequirement) :=
  .flatMap (F := fun done => Focus doc place c { o with security := done }) fun _ r _ hsecurity =>
    conveys_requirement hdoc (h r (mem_of_eq_append hsecurity))

lemma conveys_parameters {parameters : List (RefOr Parameter)}
    (h : ∀ p ∈ parameters, p.Sound .parameters Parameter.Describable) :
    Conveys value (Focus doc place c { o with parameters := [] })
      (Focus doc place c { o with parameters }) (parameters.flatMap describeParameter) :=
  .flatMap (F := fun done => Focus doc place c { o with parameters := done })
    fun _ p _ hparameters => conveys_parameter hdoc (h p (mem_of_eq_append hparameters))

lemma conveys_optionalBody {requestBody : Option (RefOr RequestBody)}
    (h : ∀ b ∈ requestBody, b.Sound .requestBodies RequestBody.Describable) :
    Conveys value (Focus doc place c { o with requestBody := none })
      (Focus doc place c { o with requestBody })
      (requestBody.toList.flatMap describeRequestBody) := by
  cases requestBody with
  | none => exact .nil fun _ hs => hs
  | some b =>
    rw [Option.toList_some, List.flatMap_singleton]
    exact conveys_requestBody hdoc (h b rfl)

lemma conveys_responses {responses : OrderedMap (RefOr Response)} (hkeys : responses.keys.Nodup)
    (hstatuses : ∀ status ∈ responses.keys, Bare status)
    (h : ∀ e ∈ responses.entries, e.2.Sound .responses Response.Describable) :
    Conveys value (Focus doc place c { o with responses := {} })
      (Focus doc place c { o with responses })
      (responses.entries.flatMap fun e => describeResponse e.1 e.2) := by
  refine .flatMap (F := fun done => Focus doc place c { o with responses := ⟨done⟩ })
    fun done e rest hentries => ?_
  have hmem := mem_of_eq_append hentries
  have hconveys : Conveys value (Focus doc place c { o with responses := ⟨done⟩ }) _
      (describeResponse e.1 e.2) :=
    conveys_response hdoc (hstatuses e.1 (List.mem_map.mpr ⟨e, hmem, rfl⟩)) (h e hmem)
  dsimp only at hconveys
  rwa [OrderedMap.insert_of_notMem (OrderedMap.notMem_keys_of_eq_append hkeys hentries)]
    at hconveys

end Parts

end Builder

end ApiScribe
