import ApiScribe.Builder.Error
import ApiScribe.Builder.Locator

/-!
# Passes over annotations

What is remembered from one annotation to the next, beside the document: the object that the
following annotations belong to, the table that takes their operations, and the key for the next
component.
-/

namespace ApiScribe.Builder

/-- The object that annotations belong to. Inside content, the operation around it stays in reach.
-/
inductive Scope where
  | none
  | server (index : Nat)
  | operation (place : OperationPlace)
  | content (operation : Option OperationPlace) (place : ContentPlace)
deriving Repr, DecidableEq

namespace Scope

def server? : Scope → Option Nat
  | server index => some index
  | _ => Option.none

def operation? : Scope → Option OperationPlace
  | operation place => some place
  | content place? _ => place?
  | _ => Option.none

def content? : Scope → Option ContentPlace
  | content _ place => some place
  | _ => Option.none

end Scope

structure Pass where
  /-- The key under which the next component is registered. -/
  componentId : Option String := none
  /-- The table that takes operations. -/
  container : Container := .document
  scope : Scope := .none
deriving Repr, DecidableEq

namespace Pass

/-- The pass over the annotations of a declaration, whose name is the first component key. -/
def start (name : String) : Pass :=
  { componentId := if name = "" then none else some name }

/-- The pass over the body of a callback. The operation that has the callback is in scope until
the body declares one of its own. -/
def inside (container : Container) : Pass :=
  { container
    scope :=
      match container.owner? with
      | some operation => .operation operation
      | none => .none }

/-- The component key, which must not be empty. -/
def takeId (pass : Pass) : Except AnnotationError String :=
  match pass.componentId with
  | none => .error .missingComponentId
  | some id => if id = "" then .error .missingComponentId else .ok id

/-- The pass without its component key, once the key has been taken: it registers one component. -/
def dropId (pass : Pass) : Pass := { pass with componentId := none }

def enterServer (pass : Pass) (index : Nat) : Pass := { pass with scope := .server index }

def enterOperation (pass : Pass) (place : OperationPlace) : Pass :=
  { pass with scope := .operation place }

/-- Leave other content for this, staying in the operation. -/
def enterContent (pass : Pass) (place : ContentPlace) : Pass :=
  { pass with scope := .content pass.scope.operation? place }

end Pass

end ApiScribe.Builder
