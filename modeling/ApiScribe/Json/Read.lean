import ApiScribe.Json.Parse

/-!
# Typed readers of JSON trees

A reader takes a value of some type off a tree. It meets the tree in the order of the text, so that
of two errors the one that stands first is reported.
-/

namespace ApiScribe.Json

inductive ReadError where
  /-- The text is not JSON. -/
  | fault (fault : Fault)
  /-- The text goes on, or starts, in a way that no value of the type is written. -/
  | malformed
  /-- The text is JSON but not of the type. -/
  | mismatch
deriving Repr, DecidableEq

/-- The kinds of read errors. -/
inductive ReadError.Kind where
  | malformed
  | ended
  | mismatch
deriving Repr, DecidableEq

def ReadError.kind : ReadError → ReadError.Kind
  | fault f => if f.cause.isEnd then .ended else .malformed
  | malformed => .malformed
  | mismatch => .mismatch

abbrev Reader (α : Type) := Tree → Except ReadError α

namespace Reader

variable {α σ : Type}

def lift (result : Except Fault α) : Except ReadError α :=
  match result with
  | .ok value => .ok value
  | .error fault => .error (.fault fault)

/-- The error for a tree that is not of the type. A container is refused at its first character,
anything else only after it has been read. -/
def unexpected : Tree → ReadError
  | .broken fault => .fault fault
  | .guarded _ (.array _ _) => .mismatch
  | .guarded _ (.object _ _) => .mismatch
  | .guarded fault _ => .fault fault
  | _ => .mismatch

def endOf (stop : Option Fault) (value : α) : Except ReadError α := lift (Tree.endOf stop value)

/-! ### Basic types -/

def json : Reader Json := fun tree => lift tree.toJson

def string : Reader String
  | .string value => .ok value
  | tree => .error (unexpected tree)

def bool : Reader Bool
  | .bool value => .ok value
  | tree => .error (unexpected tree)

/-- A value, or `null` for none. -/
def nullable (read : Reader α) : Reader (Option α)
  | .null => .ok none
  | tree => (read tree).map some

def items (read : Reader α) : List Tree → Except ReadError (List α)
  | [] => .ok []
  | tree :: trees => do
    let value ← read tree
    let values ← items read trees
    return value :: values

def list (read : Reader α) : Reader (List α)
  | .array trees stop => do
    let values ← items read trees
    endOf stop values
  | .guarded fault (.array _ _) => .error (.fault fault)
  | tree => .error (unexpected tree)

def entries (read : Reader α) : List (Label × Tree) → Except ReadError (List (String × α))
  | [] => .ok []
  | (.flawed fault, _) :: _ => .error (.fault fault)
  | (.name name, tree) :: fields => do
    let value ← read tree
    let values ← entries read fields
    return (name, value) :: values

/-- An object with any fields; one that occurs again takes the later value. -/
def map (read : Reader α) : Reader (OrderedMap α)
  | .object fields stop => do
    let values ← entries read fields
    endOf stop (.ofEntries values)
  | .guarded fault (.object _ _) => .error (.fault fault)
  | tree => .error (unexpected tree)

/-- One of several names: as a string, or as the only field of an object, with `null` as its value.
Some readers take an empty object for the `null`. -/
def oneOf (emptyForNull : Bool) (value? : String → Option α) : Reader α
  | .string name =>
    match value? name with
    | some value => .ok value
    | none => .error .mismatch
  | .object ((.flawed fault, _) :: _) _ => .error (.fault fault)
  | .object ((.name name, tree) :: fields) stop =>
    match value? name with
    | none => .error .mismatch
    | some value =>
      let isNull :=
        match tree with
        | .null => true
        | .object [] none => emptyForNull
        | _ => false
      if !isNull then .error (unexpected tree)
      else if !fields.isEmpty then .error .malformed
      else
        match stop with
        | some { cause := .endAfterComma, .. } => .error .malformed
        | stop => endOf stop value
  | .object [] (some fault) => .error (.fault fault)
  | .broken { cause := .endInWord, .. } => .error .malformed
  | .broken fault => .error (.fault fault)
  | .guarded { cause := .endInNumber, .. } _ => .error .malformed
  | .guarded _ (.array _ _) => .error .malformed
  | .guarded fault _ => .error (.fault fault)
  | _ => .error .malformed

/-! ### Records -/

/-- A field of a record: how its value is read and put into the record. -/
structure Property (σ : Type) where
  name : String
  required : Bool := false
  store : Tree → σ → Except ReadError σ

/-- A field that is read by `read` and put into the record by `set`. -/
def field (name : String) (read : Reader α) (set : α → σ → σ) (required : Bool := false) :
    Property σ :=
  { name, required, store := fun tree record => (read tree).map (set · record) }

/-- A record with the names of the fields that have been read. -/
structure Partial (σ : Type) where
  record : σ
  seen : List String := []

/-- Read one field of a record. A field may occur once; unknown fields are skipped unless the
record is closed. -/
def readField (closed : Bool) (fields : List (Property σ)) (p : Partial σ) :
    Label × Tree → Except ReadError (Partial σ)
  | (.flawed fault, _) => .error (.fault fault)
  | (.name name, tree) =>
    match fields.find? (·.name = name) with
    | some known =>
      if name ∈ p.seen then .error .mismatch
      else do
        let record ← known.store tree p.record
        return { record, seen := name :: p.seen }
    | none =>
      if closed then .error .mismatch
      else do
        lift tree.skip
        return p

def readFields (closed : Bool) (fields : List (Property σ)) (p : Partial σ) :
    List (Label × Tree) → Except ReadError (Partial σ)
  | [] => .ok p
  | entry :: entries => do
    let next ← readField closed fields p entry
    readFields closed fields next entries

/-- Read the fields of a record from a list, in their order. -/
def readPositions (record : σ) :
    List (Property σ) → List Tree → Option Fault → Except ReadError σ
  | known :: fields, tree :: trees, stop => do
    let record ← known.store tree record
    readPositions record fields trees stop
  | _ :: _, [], some fault => .error (.fault fault)
  | known :: fields, [], none =>
    if known.required then .error .mismatch else readPositions record fields [] none
  | [], _ :: _, _ => .error .malformed
  | [], [], some { cause := .endAfterComma, .. } => .error .malformed
  | [], [], stop => endOf stop record

/-- A record: an object with its fields, or a list of their values. `blank` has every field at its
default. -/
def record (closed : Bool) (blank : σ) (fields : List (Property σ)) : Reader σ
  | .object entries stop => do
    let p ← readFields closed fields { record := blank } entries
    let p ← endOf stop p
    if fields.all fun known => !known.required || p.seen.contains known.name then .ok p.record
    else .error .mismatch
  | .array trees stop => readPositions blank fields trees stop
  | .guarded fault (.object _ _) => .error (.fault fault)
  | .guarded fault (.array _ _) => .error (.fault fault)
  | tree => .error (unexpected tree)

/-! ### Values that are read twice -/

/-- A value that is first kept as it is and then read: whatever fails then, the value is JSON. -/
def kept (read : Reader α) : Reader α := fun tree => do
  let _ ← lift tree.toJson
  match read tree with
  | .ok value => .ok value
  | .error _ => .error .mismatch

/-- The first of two readers, or else the second. -/
def orElse (first second : Reader α) : Reader α := fun tree =>
  match first tree with
  | .ok value => .ok value
  | .error _ => second tree

/-- The value of a text. -/
def ofText (read : Reader α) (text : String) : Except ReadError α := do
  let source := Source.ofText text
  let value ← read source.tree
  endOf source.trailing value

end Reader

end ApiScribe.Json
