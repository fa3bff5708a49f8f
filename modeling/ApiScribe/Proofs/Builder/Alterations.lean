import ApiScribe.Proofs.Builder.Conveying

/-!
# Alterations in one place

Two documents that are the same but for one object, told by the places that lead to it: all the
documents' fields, all entries of maps and lists and all operations off the way are equal, and in
the same order.
-/

namespace ApiScribe

namespace OrderedMap

variable {α : Type} {R : Option α → α → Prop} {key : String}

/-- The second map is the first one but for the value of a key, which stands where it stood or, if
the key is new, at the end. -/
inductive Alters (key : String) (R : Option α → α → Prop) : OrderedMap α → OrderedMap α → Prop
  | old {front back : List (String × α)} {v v' : α} (hfront : key ∉ front.map Prod.fst)
    (h : R (some v) v') :
    Alters key R ⟨front ++ (key, v) :: back⟩ ⟨front ++ (key, v') :: back⟩
  | new {entries : List (String × α)} {v : α} (hnew : key ∉ entries.map Prod.fst)
    (h : R none v) :
    Alters key R ⟨entries⟩ ⟨entries ++ [(key, v)]⟩

/-- The second map is the first one but for the value of a key that both have. -/
def Amends (key : String) (R : α → α → Prop) (m m' : OrderedMap α) : Prop :=
  Alters key (fun v? v' => ∃ v, v? = some v ∧ R v v') m m'

lemma Alters.cons {m m' : OrderedMap α} (h : Alters key R m m') {e : String × α} (he : e.1 ≠ key) :
    Alters key R ⟨e :: m.entries⟩ ⟨e :: m'.entries⟩ := by
  have hnotMem {entries : List (String × α)} (hentries : key ∉ entries.map Prod.fst) :
      key ∉ (e :: entries).map Prod.fst := by
    rw [List.map_cons, List.mem_cons, not_or]
    exact ⟨he.symm, hentries⟩
  cases h with
  | @old front back v v' hfront h => exact @old α key R (e :: front) back v v' (hnotMem hfront) h
  | @new entries v hnew h => exact @new α key R (e :: entries) v (hnotMem hnew) h

lemma alters_insert {m : OrderedMap α} {v : α} (h : R (m.get? key) v) :
    m.Alters key R (m.insert key v) := by
  obtain ⟨entries⟩ := m
  change R (lookup key entries) v at h
  change Alters key R ⟨entries⟩ ⟨upsert key v entries⟩
  induction entries with
  | nil => exact .new (List.not_mem_nil) h
  | cons e rest ih =>
    obtain ⟨k, old⟩ := e
    rw [lookup] at h
    rw [upsert]
    split_ifs at h ⊢ with hkey
    · subst hkey
      exact @Alters.old α k R [] rest old v List.not_mem_nil h
    · exact (ih h).cons hkey

lemma amends_modify {R : α → α → Prop} {m : OrderedMap α} {f : α → α} {v : α}
    (hv : m.get? key = some v) (h : R v (f v)) : m.Amends key R (m.modify key f) := by
  rw [modify_eq_insert hv]
  exact alters_insert ⟨v, hv, h⟩

end OrderedMap

namespace OpenApi

open Builder

/-- Both are written in place. -/
inductive RefOr.Amends {α : Type} (R : α → α → Prop) : RefOr α → RefOr α → Prop
  | item {v v' : α} (h : R v v') : Amends R (.item v) (.item v')

/-- The second path has the operations of the first one but for that of a method. -/
structure PathItem.Amends {ω : Type} (method : Method) (R : ω → ω → Prop)
    (item item' : PathItem ω) : Prop where
  operation : ∃ o o', item.operation? method = some o ∧ item'.operation? method = some o' ∧ R o o'
  others : ∀ method', method' ≠ method → item'.operation? method' = item.operation? method'

lemma PathItem.amends_modifyOperation {ω : Type} {R : ω → ω → Prop} {item : PathItem ω}
    {method : Method} {o : ω} {f : ω → ω} (ho : item.operation? method = some o) (h : R o (f o)) :
    item.Amends method R (item.modifyOperation method f) where
  operation := by
    refine ⟨o, f o, ho, ?_, h⟩
    rw [operation?_modifyOperation, if_pos rfl, ho, Option.map_some]
  others method' hne := by rw [operation?_modifyOperation, if_neg hne.symm]

/-- The second table is the first one but for one operation. -/
def PathTable.Amends {ω : Type} (path : String) (method : Method) (R : ω → ω → Prop)
    (paths paths' : PathTable ω) : Prop :=
  OrderedMap.Amends path (PathItem.Amends method R) paths paths'

lemma PathTable.amends_modifyOperation {ω : Type} {R : ω → ω → Prop} {paths : PathTable ω}
    {path : String} {method : Method} {o : ω} {f : ω → ω}
    (ho : paths.operation? path method = some o) (h : R o (f o)) :
    paths.Amends path method R (paths.modifyOperation path method f) := by
  obtain ⟨item, hitem, ho⟩ := Option.bind_eq_some_iff.mp ho
  exact OrderedMap.amends_modify hitem (PathItem.amends_modifyOperation ho h)

/-- The objects that schemas and examples are attached to. -/
inductive ContentObject where
  | parameter (p : Parameter)
  | requestBody (b : RequestBody)
  | response (r : Response)

/-- Change the schema and the examples of an object, which bodies have for JSON. -/
def ContentObject.modifyMedia (f : MediaType → MediaType) : ContentObject → ContentObject
  | .parameter p => .parameter (p.withMedia (f p.media))
  | .requestBody b => .requestBody { b with content := b.content.modifyJson f }
  | .response r => .response { r with content := r.content.modifyJson f }

namespace Document

variable {doc : Document}

/-- The object at a place, if it is written in place. -/
def object? (doc : Document) : ContentPlace → Option ContentObject
  | .parameter place => (doc.parameter? place).map .parameter
  | .requestBody place => (doc.requestBody? place).map .requestBody
  | .response place => (doc.response? place).map .response

lemma isSome_object? (doc : Document) (place : ContentPlace) :
    (doc.object? place).isSome = doc.hasContent place := by
  cases place <;> exact Option.isSome_map

/-! ### Documents that differ in one place -/

/-- The second document is the first one but for a table of paths. -/
def AmendsPaths : Container → (Paths → Paths → Prop) → Document → Document → Prop
  | .document, R => fun doc doc' => ∃ paths, doc' = { doc with paths } ∧ R doc.paths paths
  | .component id, R => fun doc doc' =>
    ∃ callbacks, doc' = { doc with components := { doc.components with callbacks } } ∧
      doc.components.callbacks.Amends id R callbacks
  | .inline container path method key, R =>
    AmendsPaths container (PathTable.Amends path method fun o o' =>
      ∃ callbacks, o' = { o with callbacks } ∧ o.callbacks.Amends key (RefOr.Amends R) callbacks)

/-- The second document is the first one but for an operation. -/
def AmendsOperation (place : OperationPlace) (R : Operation → Operation → Prop) :
    Document → Document → Prop :=
  AmendsPaths place.container (PathTable.Amends place.path place.method R)

/-- The second document is the first one but for the object at a place. -/
def AmendsObject (R : ContentObject → ContentObject → Prop) (doc doc' : Document) :
    ContentPlace → Prop
  | .parameter (.component id) =>
    ∃ parameters, doc' = { doc with components := { doc.components with parameters } } ∧
      doc.components.parameters.Amends id (fun p p' => R (.parameter p) (.parameter p')) parameters
  | .parameter (.inline place index) =>
    AmendsOperation place (fun o o' => ∃ p p', o.parameters[index]? = some (.item p) ∧
      o' = { o with parameters := o.parameters.set index (.item p') } ∧
      R (.parameter p) (.parameter p')) doc doc'
  | .requestBody (.component id) =>
    ∃ requestBodies, doc' = { doc with components := { doc.components with requestBodies } } ∧
      doc.components.requestBodies.Amends id (fun b b' => R (.requestBody b) (.requestBody b'))
        requestBodies
  | .requestBody (.inline place) =>
    AmendsOperation place (fun o o' => ∃ b b', o.requestBody = some (.item b) ∧
      o' = { o with requestBody := some (.item b') } ∧
      R (.requestBody b) (.requestBody b')) doc doc'
  | .response (.component id) =>
    ∃ responses, doc' = { doc with components := { doc.components with responses } } ∧
      doc.components.responses.Amends id (fun r r' => R (.response r) (.response r')) responses
  | .response (.inline place status) =>
    AmendsOperation place (fun o o' => ∃ responses, o' = { o with responses } ∧
      o.responses.Amends status (RefOr.Amends fun r r' => R (.response r) (.response r'))
        responses) doc doc'

/-! ### Changing what is in a place -/

lemma amendsPaths_modifyPaths {c : Container} {R : Paths → Paths → Prop} {f : Paths → Paths}
    {paths : Paths} (hpaths : doc.paths? c = some paths) (h : R paths (f paths)) :
    AmendsPaths c R doc (doc.modifyPaths c f) := by
  -- an inner table is an operation's part of the table around it
  induction c generalizing R f paths with
  | document =>
    cases hpaths
    exact ⟨_, rfl, h⟩
  | component id => exact ⟨_, rfl, OrderedMap.amends_modify hpaths h⟩
  | inline container path method key ih =>
    obtain ⟨outer, houter, hpaths⟩ := Option.bind_eq_some_iff.mp hpaths
    obtain ⟨o, ho, hpaths⟩ := Option.bind_eq_some_iff.mp hpaths
    obtain ⟨callback, hcallback, hpaths⟩ := Option.bind_eq_some_iff.mp hpaths
    cases callback with
    | ref reference => cases hpaths
    | item inner =>
      cases hpaths
      refine ih houter (PathTable.amends_modifyOperation ho ⟨_, rfl, ?_⟩)
      exact OrderedMap.amends_modify hcallback (.item h)

lemma amendsOperation_modifyOperation {place : OperationPlace} {R : Operation → Operation → Prop}
    {f : Operation → Operation} {o : Operation} (ho : doc.operation? place = some o)
    (h : R o (f o)) : AmendsOperation place R doc (doc.modifyOperation place f) := by
  obtain ⟨paths, hpaths, ho⟩ := Option.bind_eq_some_iff.mp ho
  exact amendsPaths_modifyPaths hpaths (PathTable.amends_modifyOperation ho h)

section Objects

variable {R : ContentObject → ContentObject → Prop}

lemma amendsObject_modifyParameter {place : ParameterPlace} {f : Parameter → Parameter}
    {p : Parameter} (hp : doc.parameter? place = some p) (h : R (.parameter p) (.parameter (f p))) :
    AmendsObject R doc (doc.modifyParameter f place) (.parameter place) := by
  cases place with
  | component id => exact ⟨_, rfl, OrderedMap.amends_modify hp h⟩
  | inline operation index =>
    obtain ⟨o, ho, hp⟩ := Option.bind_eq_some_iff.mp hp
    obtain ⟨entry, hentry, hp⟩ := Option.bind_eq_some_iff.mp hp
    cases entry with
    | ref reference => cases hp
    | item _ =>
      cases hp
      refine amendsOperation_modifyOperation ho ⟨p, f p, hentry, ?_, h⟩
      rw [List.modify_eq_set_getElem?, hentry]
      rfl

lemma amendsObject_modifyRequestBody {place : RequestBodyPlace} {f : RequestBody → RequestBody}
    {b : RequestBody} (hb : doc.requestBody? place = some b)
    (h : R (.requestBody b) (.requestBody (f b))) :
    AmendsObject R doc (doc.modifyRequestBody f place) (.requestBody place) := by
  cases place with
  | component id => exact ⟨_, rfl, OrderedMap.amends_modify hb h⟩
  | inline operation =>
    obtain ⟨o, ho, hb⟩ := Option.bind_eq_some_iff.mp hb
    obtain ⟨entry, hentry, hb⟩ := Option.bind_eq_some_iff.mp hb
    cases entry with
    | ref reference => cases hb
    | item _ =>
      cases hb
      refine amendsOperation_modifyOperation ho ⟨b, f b, hentry, ?_, h⟩
      rw [hentry]
      rfl

lemma amendsObject_modifyResponse {place : ResponsePlace} {f : Response → Response} {r : Response}
    (hr : doc.response? place = some r) (h : R (.response r) (.response (f r))) :
    AmendsObject R doc (doc.modifyResponse f place) (.response place) := by
  cases place with
  | component id => exact ⟨_, rfl, OrderedMap.amends_modify hr h⟩
  | inline operation status =>
    obtain ⟨o, ho, hr⟩ := Option.bind_eq_some_iff.mp hr
    obtain ⟨entry, hentry, hr⟩ := Option.bind_eq_some_iff.mp hr
    cases entry with
    | ref reference => cases hr
    | item _ =>
      cases hr
      refine amendsOperation_modifyOperation ho ⟨_, rfl, ?_⟩
      exact OrderedMap.amends_modify hentry (.item h)

lemma amendsObject_modifyContent {f : MediaType → MediaType} {place : ContentPlace}
    {object : ContentObject} (hobject : doc.object? place = some object)
    (h : R object (object.modifyMedia f)) :
    AmendsObject R doc (doc.modifyContent f place) place := by
  cases place with
  | parameter place =>
    obtain ⟨p, hp, rfl⟩ := Option.map_eq_some_iff.mp hobject
    exact amendsObject_modifyParameter hp h
  | requestBody place =>
    obtain ⟨b, hb, rfl⟩ := Option.map_eq_some_iff.mp hobject
    exact amendsObject_modifyRequestBody hb h
  | response place =>
    obtain ⟨r, hr, rfl⟩ := Option.map_eq_some_iff.mp hobject
    exact amendsObject_modifyResponse hr h

end Objects

end Document

/-! ### Schemas and examples -/

/-- The second object is the first one but for its schema and its examples. Bodies have them in
their JSON media type, which may be new. -/
inductive ContentObject.AltersMedia (R : MediaType → MediaType → Prop) :
    ContentObject → ContentObject → Prop
  | parameter {p : Parameter} {m : MediaType} (h : R p.media m) :
    AltersMedia R (.parameter p) (.parameter (p.withMedia m))
  | requestBody {b : RequestBody} {content : Content}
    (h : b.content.Alters jsonMediaType (fun m? m => R (m?.getD {}) m) content) :
    AltersMedia R (.requestBody b) (.requestBody { b with content })
  | response {r : Response} {content : Content}
    (h : r.content.Alters jsonMediaType (fun m? m => R (m?.getD {}) m) content) :
    AltersMedia R (.response r) (.response { r with content })

lemma ContentObject.altersMedia_modifyMedia {R : MediaType → MediaType → Prop}
    {f : MediaType → MediaType} (h : ∀ m, R m (f m)) (object : ContentObject) :
    object.AltersMedia R (object.modifyMedia f) := by
  cases object with
  | parameter p => exact .parameter (h p.media)
  | requestBody => exact .requestBody (OrderedMap.alters_insert (h _))
  | response => exact .response (OrderedMap.alters_insert (h _))

/-- The second media type has the schema, and the examples of the first one. -/
def MediaType.SetsSchema (schema : Schema) (m m' : MediaType) : Prop :=
  m' = { m with schema := some schema }

/-- The second media type has the example under the name, and is the first one otherwise. -/
def MediaType.SetsExample (name : String) (sample : Example) (m m' : MediaType) : Prop :=
  ∃ examples, m' = { m with examples } ∧ m.examples.Alters name (fun _ e => e = sample) examples

lemma MediaType.setsSchema (schema : Schema) (m : MediaType) :
    m.SetsSchema schema { m with schema := some schema } :=
  rfl

lemma MediaType.setsExample_insert (name : String) (sample : Example) (m : MediaType) :
    m.SetsExample name sample { m with examples := m.examples.insert name sample } :=
  ⟨_, rfl, OrderedMap.alters_insert rfl⟩

end OpenApi

end ApiScribe
