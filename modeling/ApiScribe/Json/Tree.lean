import ApiScribe.Json.Basic
import ApiScribe.Json.Fault

/-!
# Trees of JSON text

A tree holds what a text says up to its first fault, so that a reader meets values and faults in
the order of the text. Some faults count only for readers that keep the value: a reader that skips
it looks behind them.
-/

namespace ApiScribe.Json

/-- The name of a field, or what is wrong with it. -/
inductive Label where
  | name (text : String)
  | flawed (fault : Fault)
deriving Repr, DecidableEq

inductive Tree where
  | null
  | bool (value : Bool)
  | number (value : Number)
  | string (value : String)
  /-- The items in order, and the fault that ends the list if its bracket is not reached. -/
  | array (items : List Tree) (stop : Option Fault)
  /-- The fields in order, and the fault that ends the object if its brace is not reached. -/
  | object (fields : List (Label × Tree)) (stop : Option Fault)
  /-- There is no value here. -/
  | broken (fault : Fault)
  /-- There is a value here that can only be skipped. -/
  | guarded (fault : Fault) (skipped : Tree)

namespace Tree

/-- Put a guard in front of a tree, if there is a fault to guard against. -/
def guardWith : Option Fault → Tree → Tree
  | none, tree => tree
  | some fault, tree => guarded fault tree

def endOf {α : Type} (stop : Option Fault) (value : α) : Except Fault α :=
  match stop with
  | none => .ok value
  | some fault => .error fault

/-! ### Keeping -/

mutual
/-- The value of a tree, or the first fault met when it is kept. A field that occurs again takes
the later value. -/
def toJson : Tree → Except Fault Json
  | .null => .ok .null
  | .bool value => .ok (.bool value)
  | .number value => .ok (.number value)
  | .string value => .ok (.string value)
  | .array items stop => do
    let items ← itemsToJson items
    endOf stop (.array items)
  | .object fields stop => do
    let fields ← fieldsToJson fields
    endOf stop (.object (.ofEntries fields))
  | .broken fault => .error fault
  | .guarded fault _ => .error fault

def itemsToJson : List Tree → Except Fault (List Json)
  | [] => .ok []
  | item :: items => do
    let value ← toJson item
    let values ← itemsToJson items
    return value :: values

def fieldsToJson : List (Label × Tree) → Except Fault (List (String × Json))
  | [] => .ok []
  | (.flawed fault, _) :: _ => .error fault
  | (.name name, tree) :: fields => do
    let value ← toJson tree
    let values ← fieldsToJson fields
    return (name, value) :: values
end

/-! ### Skipping -/

mutual
/-- The first fault met when the value is skipped. -/
def skip : Tree → Except Fault Unit
  | .array items stop => do
    skipItems items
    endOf stop ()
  | .object fields stop => do
    skipFields fields
    endOf stop ()
  | .broken fault => .error fault
  | .guarded _ tree => skip tree
  | .null | .bool _ | .number _ | .string _ => .ok ()

def skipItems : List Tree → Except Fault Unit
  | [] => .ok ()
  | item :: items => do
    skip item
    skipItems items

def skipFields : List (Label × Tree) → Except Fault Unit
  | [] => .ok ()
  | (_, tree) :: fields => do
    skip tree
    skipFields fields
end

end Tree

end ApiScribe.Json
