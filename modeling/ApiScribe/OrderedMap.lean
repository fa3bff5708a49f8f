/-!
# Maps that keep insertion order

A map from strings that remembers the order in which its keys were first inserted. A key that is
inserted again keeps its position and takes the new value.
-/

namespace ApiScribe

structure OrderedMap (α : Type) where
  entries : List (String × α) := []
deriving Repr, DecidableEq

namespace OrderedMap

variable {α β : Type}

def isEmpty (m : OrderedMap α) : Bool := m.entries.isEmpty

def size (m : OrderedMap α) : Nat := m.entries.length

def keys (m : OrderedMap α) : List String := m.entries.map (·.1)

/-! ### Entries -/

/-- The value of the first entry with the key. -/
def lookup (key : String) : List (String × α) → Option α
  | [] => none
  | (k, v) :: rest => if k = key then some v else lookup key rest

/-- Replace the value of the first entry with the key, or append an entry. -/
def upsert (key : String) (value : α) : List (String × α) → List (String × α)
  | [] => [(key, value)]
  | (k, v) :: rest => if k = key then (k, value) :: rest else (k, v) :: upsert key value rest

/-- Change the value of the first entry with the key, if there is one. -/
def adjust (key : String) (f : α → α) : List (String × α) → List (String × α)
  | [] => []
  | (k, v) :: rest => if k = key then (k, f v) :: rest else (k, v) :: adjust key f rest

/-! ### Maps -/

def get? (m : OrderedMap α) (key : String) : Option α := lookup key m.entries

def insert (m : OrderedMap α) (key : String) (value : α) : OrderedMap α :=
  ⟨upsert key value m.entries⟩

def modify (m : OrderedMap α) (key : String) (f : α → α) : OrderedMap α :=
  ⟨adjust key f m.entries⟩

/-- Drop every entry with the key. -/
def erase (m : OrderedMap α) (key : String) : OrderedMap α :=
  ⟨m.entries.filter fun entry => entry.1 ≠ key⟩

/-- Insert the entries of `m'` into `m`, in their order. -/
def overlay (m m' : OrderedMap α) : OrderedMap α :=
  m'.entries.foldl (fun acc entry => acc.insert entry.1 entry.2) m

/-- The map that results from inserting the entries one after the other. -/
def ofEntries (entries : List (String × α)) : OrderedMap α :=
  overlay {} ⟨entries⟩

end OrderedMap

end ApiScribe
