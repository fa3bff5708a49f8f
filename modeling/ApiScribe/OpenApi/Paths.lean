import ApiScribe.OrderedMap

/-!
# Paths

A table of paths holds, for each path, at most one operation per HTTP method. The document's own
paths and the body of every callback are such tables.
-/

namespace ApiScribe.OpenApi

inductive Method where
  | get
  | put
  | post
  | delete
  | options
  | head
  | patch
  | trace
deriving Repr, DecidableEq

namespace Method

/-- All methods, in the order in which a path lists its operations. -/
def all : List Method := [get, put, post, delete, options, head, patch, trace]

def name : Method → String
  | get => "GET"
  | put => "PUT"
  | post => "POST"
  | delete => "DELETE"
  | options => "OPTIONS"
  | head => "HEAD"
  | patch => "PATCH"
  | trace => "TRACE"

/-- The key of the method's operation in a path item. -/
def key : Method → String
  | get => "get"
  | put => "put"
  | post => "post"
  | delete => "delete"
  | options => "options"
  | head => "head"
  | patch => "patch"
  | trace => "trace"

/-- The method with the name, which is in upper case. -/
def ofName? (name : String) : Option Method := all.find? (·.name = name)

end Method

/-- The operations of one path. -/
structure PathItem (ω : Type) where
  get : Option ω := none
  put : Option ω := none
  post : Option ω := none
  delete : Option ω := none
  options : Option ω := none
  head : Option ω := none
  patch : Option ω := none
  trace : Option ω := none
deriving Repr, DecidableEq

namespace PathItem

variable {ω : Type}

def operation? (item : PathItem ω) : Method → Option ω
  | .get => item.get
  | .put => item.put
  | .post => item.post
  | .delete => item.delete
  | .options => item.options
  | .head => item.head
  | .patch => item.patch
  | .trace => item.trace

/-- Fill or clear the slot of a method. -/
def setSlot (item : PathItem ω) (slot : Option ω) : Method → PathItem ω
  | .get => { item with get := slot }
  | .put => { item with put := slot }
  | .post => { item with post := slot }
  | .delete => { item with delete := slot }
  | .options => { item with options := slot }
  | .head => { item with head := slot }
  | .patch => { item with patch := slot }
  | .trace => { item with trace := slot }

def setOperation (item : PathItem ω) (method : Method) (operation : ω) : PathItem ω :=
  item.setSlot (some operation) method

/-- Store an operation, and give back the one it replaces. -/
def replaceOperation (item : PathItem ω) (method : Method) (operation : ω) :
    PathItem ω × Option ω :=
  (item.setOperation method operation, item.operation? method)

def modifyOperation (item : PathItem ω) (method : Method) (f : ω → ω) : PathItem ω :=
  item.setSlot ((item.operation? method).map f) method

end PathItem

/-- A table of paths. -/
abbrev PathTable (ω : Type) := OrderedMap (PathItem ω)

namespace PathTable

variable {ω : Type}

def operation? (paths : PathTable ω) (path : String) (method : Method) : Option ω :=
  (OrderedMap.get? paths path).bind (·.operation? method)

/-- Store an operation, opening the path if it is new. -/
def setOperation (paths : PathTable ω) (path : String) (method : Method) (operation : ω) :
    PathTable ω :=
  OrderedMap.insert paths path
    (((OrderedMap.get? paths path).getD {}).setOperation method operation)

/-- Store an operation, opening the path if it is new, and give back the one it replaces. -/
def replaceOperation (paths : PathTable ω) (path : String) (method : Method) (operation : ω) :
    PathTable ω × Option ω :=
  let (item, replaced) := ((OrderedMap.get? paths path).getD {}).replaceOperation method operation
  (OrderedMap.insert paths path item, replaced)

/-- Change an operation, if it is there. -/
def modifyOperation (paths : PathTable ω) (path : String) (method : Method) (f : ω → ω) :
    PathTable ω :=
  OrderedMap.modify paths path (·.modifyOperation method f)

end PathTable

end ApiScribe.OpenApi
