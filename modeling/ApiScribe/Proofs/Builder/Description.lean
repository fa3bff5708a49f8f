import ApiScribe.Proofs.Annotation.Splitting
import ApiScribe.Proofs.Builder.Phrases
import ApiScribe.Proofs.Linking
import ApiScribe.Proofs.Shorthand
import ApiScribe.Proofs.Soundness

/-!
# Operations as annotations

An operation is described by annotations: what it has of its own, part by part, then its callbacks,
and at last the operations in them. A callback that is written in place takes all operations that
follow, and so does a callback of one of these. That is why at most one callback of an operation has
operations, and at most one operation of a callback has callbacks that are written in place.
-/

namespace ApiScribe

open Builder Text

/-! ### What can be described -/

/-- A text that can be the body of an annotation. -/
def Annotation.IsBodyText (text : String) : Prop :=
  ∃ lines, IsBody lines ∧ text = "\n".intercalate lines

/-- A value that is read as it is written. -/
structure Json.Literal (json : Json) : Prop where
  integral : json.Integral
  distinct : json.Distinct
  depth : json.depth ≤ nestingLimit

namespace OpenApi

/-- A schema written in place is an object that has no ID, with its references written out. -/
def DescribableSchema (json : Json) : Prop :=
  ∃ fields, "$id" ∉ fields.keys ∧ (Json.object fields).Literal ∧
    json = Shorthand.expand (.object fields)

structure Example.Describable (e : Example) : Prop where
  summary : Tidy e.summary
  summary_ne_empty : e.summary ≠ ""
  description : e.description = ""
  value : e.value.Literal

structure MediaType.Describable (m : MediaType) : Prop where
  schema : ∀ s ∈ m.schema, s.Sound .schemas DescribableSchema
  distinct : m.examples.keys.Nodup
  names : ∀ e ∈ m.examples.entries, Bare e.1
  examples : ∀ e ∈ m.examples.entries, e.2.Describable

/-- The schema and the examples of a parameter. -/
def Parameter.media (p : Parameter) : MediaType := { schema := p.schema, examples := p.examples }

structure Parameter.Describable (p : Parameter) : Prop where
  name : Bare p.name
  description : Annotation.IsBodyText p.description
  required : p.required = decide (p.location = .path)
  media : p.media.Describable

/-- Whether anything is known of a media type. -/
def MediaType.isEmpty (m : MediaType) : Bool := m.schema.isNone && m.examples.isEmpty

/-- The content that has nothing but what is known of the JSON media type. -/
def MediaType.content (m : MediaType) : Content :=
  if m.isEmpty then {} else ⟨[("application/json", m)]⟩

/-- The JSON media type of a body. -/
def Content.media (content : Content) : MediaType :=
  (OrderedMap.get? content jsonMediaType).getD {}

structure Content.Describable (content : Content) : Prop where
  json : content = content.media.content
  media : content.media.Describable

structure RequestBody.Describable (b : RequestBody) : Prop where
  description : Annotation.IsBodyText b.description
  content : b.content.Describable
  required : b.required = false

structure Response.Describable (r : Response) : Prop where
  description : Annotation.IsBodyText r.description
  content : r.content.Describable

/-- A requirement names one scheme. -/
def SecurityRequirement.Describable (r : SecurityRequirement) : Prop :=
  ∃ name scopes, Bare name ∧ (∀ scope ∈ scopes, Bare scope) ∧ r = ⟨[(name, scopes)]⟩

/-- The table of a callback that is written in place and has operations. -/
def bodyOf? : String × RefOr Paths → Option (String × Paths)
  | (_, .ref _) => none
  | (key, .item table) => if table.isEmpty then none else some (key, table)

/-- The callbacks of an operation that have operations. -/
def Operation.bodies (o : Operation) : List (String × Paths) :=
  o.callbacks.entries.filterMap bodyOf?

/-- Whether an operation has callbacks that are written in place. -/
def Operation.nests (o : Operation) : Bool := o.callbacks.entries.any (·.2.item?.isSome)

/-- The operations of a table that have callbacks that are written in place. -/
def Paths.nesting (table : Paths) : List (PathTable.Entry Operation) :=
  table.listing.filter (·.operation.nests)

/-- An operation can be described together with the operations in its callbacks. -/
inductive Operation.Describable : Operation → Prop
  | intro {o : Operation} (summary : Tidy o.summary) (summary_ne_empty : o.summary ≠ "")
    (description : Annotation.IsBodyText o.description) (operationId : o.operationId = "")
    (tags : ∀ tag ∈ o.tags, Tidy tag)
    (security : ∀ r ∈ o.security, r.Describable)
    (parameters : ∀ p ∈ o.parameters, p.Sound .parameters Parameter.Describable)
    (requestBody : ∀ b ∈ o.requestBody, b.Sound .requestBodies RequestBody.Describable)
    (statuses : o.responses.keys.Nodup ∧ ∀ status ∈ o.responses.keys, Bare status)
    (responses : ∀ e ∈ o.responses.entries, e.2.Sound .responses Response.Describable)
    (keys : o.callbacks.keys.Nodup ∧ ∀ key ∈ o.callbacks.keys, Bare key)
    (callbacks : ∀ e ∈ o.callbacks.entries,
      RefOr.Sound .callbacks (PathTable.Sound Operation.Describable) e.2)
    (bodies : o.bodies.length ≤ 1)
    (tables : ∀ body ∈ o.bodies, body.2.keys.Nodup ∧ (Paths.nesting body.2).length ≤ 1) :
    Describable o

/-! ### Parts -/

/-- The component reference in an argument. -/
def Reference.argument (kind : ComponentKind) (r : Reference) : String :=
  Argument.braced ((r.id? kind).getD "")

def Schema.describe : Schema → Annotation
  | .ref r => { kind := .jsonSchema, argument := r.argument .schemas }
  | .item json => { kind := .jsonSchema, body := [(Shorthand.contract json).compact] }

def Example.describe (name : String) (e : Example) : Annotation :=
  { kind := .jsonExample, argument := phrase [name, "-", e.summary], body := [e.value.compact] }

def MediaType.describe (m : MediaType) : List Annotation :=
  m.schema.toList.map Schema.describe ++ m.examples.entries.map fun e => e.2.describe e.1

def Parameter.header (p : Parameter) : Annotation :=
  { kind := .parameter
    argument := phrase [p.name, p.location.name]
    body := lines p.description }

def describeParameter : RefOr Parameter → List Annotation
  | .ref r => [{ kind := .parameter, argument := r.argument .parameters }]
  | .item p => p.header :: p.media.describe

def RequestBody.header (b : RequestBody) : Annotation :=
  { kind := .requestBody, body := lines b.description }

def describeRequestBody : RefOr RequestBody → List Annotation
  | .ref r => [{ kind := .requestBody, argument := r.argument .requestBodies }]
  | .item b => b.header :: b.content.media.describe

def Response.header (status : String) (r : Response) : Annotation :=
  { kind := .response, argument := status, body := lines r.description }

def describeResponse (status : String) : RefOr Response → List Annotation
  | .ref r => [{ kind := .response, argument := phrase [status, r.argument .responses] }]
  | .item r => r.header status :: r.content.media.describe

def describeRequirement (r : SecurityRequirement) : List Annotation :=
  r.entries.map fun e => { kind := .securityRequirement, argument := phrase (e.1 :: e.2) }

/-- A callback that is written in place is open for its operations. -/
def describeCallback (key : String) : RefOr Paths → Annotation
  | .ref r => { kind := .callback, argument := phrase [key, r.argument .callbacks] }
  | .item _ => { kind := .callback, argument := key }

/-- The callback that is open after callbacks have been described. -/
def openCallback? (callbacks : List (String × RefOr Paths)) : Option String :=
  (callbacks.filter (·.2.item?.isSome)).getLast?.map Prod.fst

/-! ### Operations -/

namespace Operation

def header (path : String) (method : Method) (o : Operation) : Annotation :=
  { kind := .operation
    argument := phrase [method.name, path, "-", o.summary]
    body := lines o.description }

/-- What an operation has of its own. -/
def parts (o : Operation) : List Annotation :=
  o.tags.map ({ kind := .tag, argument := · }) ++
  o.security.flatMap describeRequirement ++
  o.parameters.flatMap describeParameter ++
  o.requestBody.toList.flatMap describeRequestBody ++
  o.responses.entries.flatMap fun e => describeResponse e.1 e.2

/-- All of an operation but the operations in its callbacks. -/
def outline (path : String) (method : Method) (o : Operation) : List Annotation :=
  o.header path method :: o.parts ++ o.callbacks.entries.map fun e => describeCallback e.1 e.2

/-- Open a callback again if another one has been opened since. -/
def reopen (o : Operation) (key : String) : List Annotation :=
  if openCallback? o.callbacks.entries = some key then []
  else [{ kind := .callback, argument := key }]

end Operation

/-- The outline of an operation in a callback. Of one that has callbacks of its own there is only
the header, to keep its place. -/
def brief (e : PathTable.Entry Operation) : List Annotation :=
  if e.operation.nests then [e.operation.header e.path e.method]
  else e.operation.outline e.path e.method

/-- The operations in the outline of a callback. One that has callbacks of its own and comes last
anyway needs no place to be kept for it. -/
def Paths.outlined (table : Paths) : List (PathTable.Entry Operation) :=
  if table.listing.getLast?.any (·.operation.nests) then table.listing.dropLast else table.listing

namespace Operation

/-- The outline of the callback that has operations. -/
def interior (o : Operation) : List Annotation :=
  match o.bodies.head? with
  | none => []
  | some (key, table) => o.reopen key ++ (Paths.outlined table).flatMap brief

/-- The operation in the callbacks of an operation that has callbacks of its own. -/
def nested? (o : Operation) : Option (PathTable.Entry Operation) :=
  o.bodies.head?.bind fun body => (Paths.nesting body.2).head?

lemma holds_of_nested? {o : Operation} {e : PathTable.Entry Operation} (h : o.nested? = some e) :
    o.Holds e.operation := by
  obtain ⟨⟨key, table⟩, hbody, he⟩ := Option.bind_eq_some_iff.mp h
  obtain ⟨⟨key', callback⟩, hcallback, hbody⟩ :=
    List.mem_filterMap.mp (List.mem_of_mem_head? hbody)
  obtain ⟨item, hitem, hoperation⟩ :=
    PathTable.mem_listing.mp (List.mem_filter.mp (List.mem_of_mem_head? he)).1
  cases callback with
  | ref r => cases hbody
  | item table' =>
    rw [bodyOf?] at hbody
    split_ifs at hbody
    cases hbody
    exact ⟨key, table, e.path, item, e.method, hcallback, hitem, hoperation⟩

/-- The annotations that describe an operation and the operations in its callbacks. -/
def annotations (path : String) (method : Method) (o : Operation) : List Annotation :=
  o.outline path method ++ o.interior ++
    match _ : o.nested? with
    | none => []
    | some e => e.operation.annotations e.path e.method
termination_by sizeOf o
decreasing_by exact (holds_of_nested? ‹_›).sizeOf_lt

lemma annotations_of_none {o : Operation} (h : o.nested? = none) (path : String)
    (method : Method) : o.annotations path method = o.outline path method ++ o.interior := by
  rw [annotations]
  split
  next => exact List.append_nil _
  next e he => rw [h] at he; cases he

lemma annotations_of_some {o : Operation} {e : PathTable.Entry Operation} (h : o.nested? = some e)
    (path : String) (method : Method) :
    o.annotations path method =
      o.outline path method ++ o.interior ++ e.operation.annotations e.path e.method := by
  rw [annotations]
  split
  next he => rw [h] at he; cases he
  next e' he => rw [h] at he; cases he; rfl

end Operation

end OpenApi

end ApiScribe
