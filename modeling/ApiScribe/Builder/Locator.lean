import ApiScribe.OpenApi.Document

/-!
# Places in a document

Annotations refer to objects that earlier annotations have put into the document. They are found
again by where they stand: an operation by the table of paths it is in, its path and its method,
and everything else by the component or the operation it belongs to.
-/

namespace ApiScribe

namespace Builder

open OpenApi

/-- The tables of paths of a document: its own, those of its callback components, and those of the
callbacks of an operation in another table. -/
inductive Container where
  | document
  | component (id : String)
  | inline (container : Container) (path : String) (method : Method) (key : String)
deriving Repr, DecidableEq

structure OperationPlace where
  container : Container
  path : String
  method : Method
deriving Repr, DecidableEq

inductive ParameterPlace where
  | component (id : String)
  | inline (operation : OperationPlace) (index : Nat)
deriving Repr, DecidableEq

inductive RequestBodyPlace where
  | component (id : String)
  | inline (operation : OperationPlace)
deriving Repr, DecidableEq

inductive ResponsePlace where
  | component (id : String)
  | inline (operation : OperationPlace) (status : String)
deriving Repr, DecidableEq

/-- The objects that schemas and examples are attached to. -/
inductive ContentPlace where
  | parameter (place : ParameterPlace)
  | requestBody (place : RequestBodyPlace)
  | response (place : ResponsePlace)
deriving Repr, DecidableEq

/-- The operation that a callback belongs to. -/
def Container.owner? : Container → Option OperationPlace
  | document => none
  | component _ => none
  | inline container path method _ => some { container, path, method }

/-- The place of a callback of an operation. -/
def OperationPlace.callback (place : OperationPlace) (key : String) : Container :=
  .inline place.container place.path place.method key

end Builder

namespace OpenApi.Document

open Builder

/-! ### Tables of paths and operations -/

/-- Change one component map or another. -/
def modifyComponents (doc : Document) (f : Components → Components) : Document :=
  { doc with components := f doc.components }

def paths? (doc : Document) : Container → Option Paths
  | .document => some doc.paths
  | .component id => doc.components.callbacks.get? id
  | .inline container path method key => do
    let paths ← doc.paths? container
    let operation ← paths.operation? path method
    let callback ← operation.callbacks.get? key
    callback.item?

def modifyPaths (doc : Document) : Container → (Paths → Paths) → Document
  | .document, f => { doc with paths := f doc.paths }
  | .component id, f =>
    doc.modifyComponents fun c => { c with callbacks := c.callbacks.modify id f }
  | .inline container path method key, f =>
    doc.modifyPaths container fun paths => paths.modifyOperation path method fun operation =>
      { operation with callbacks := operation.callbacks.modify key (RefOr.mapItem f) }

def operation? (doc : Document) (place : OperationPlace) : Option Operation :=
  (doc.paths? place.container).bind (·.operation? place.path place.method)

def modifyOperation (doc : Document) (place : OperationPlace) (f : Operation → Operation) :
    Document :=
  doc.modifyPaths place.container (·.modifyOperation place.path place.method f)

/-! ### Parameters, request bodies and responses -/

def parameter? (doc : Document) : ParameterPlace → Option Parameter
  | .component id => doc.components.parameters.get? id
  | .inline operation index => do
    let operation ← doc.operation? operation
    let parameter ← operation.parameters[index]?
    parameter.item?

def modifyParameter (doc : Document) (f : Parameter → Parameter) : ParameterPlace → Document
  | .component id =>
    doc.modifyComponents fun c => { c with parameters := c.parameters.modify id f }
  | .inline operation index =>
    doc.modifyOperation operation fun o =>
      { o with parameters := o.parameters.modify index (RefOr.mapItem f) }

def requestBody? (doc : Document) : RequestBodyPlace → Option RequestBody
  | .component id => doc.components.requestBodies.get? id
  | .inline operation => do
    let operation ← doc.operation? operation
    let requestBody ← operation.requestBody
    requestBody.item?

def modifyRequestBody (doc : Document) (f : RequestBody → RequestBody) :
    RequestBodyPlace → Document
  | .component id =>
    doc.modifyComponents fun c => { c with requestBodies := c.requestBodies.modify id f }
  | .inline operation =>
    doc.modifyOperation operation fun o =>
      { o with requestBody := o.requestBody.map (RefOr.mapItem f) }

def response? (doc : Document) : ResponsePlace → Option Response
  | .component id => doc.components.responses.get? id
  | .inline operation status => do
    let operation ← doc.operation? operation
    let response ← operation.responses.get? status
    response.item?

def modifyResponse (doc : Document) (f : Response → Response) : ResponsePlace → Document
  | .component id =>
    doc.modifyComponents fun c => { c with responses := c.responses.modify id f }
  | .inline operation status =>
    doc.modifyOperation operation fun o =>
      { o with responses := o.responses.modify status (RefOr.mapItem f) }

/-! ### Schemas and examples -/

/-- Whether the object at a place is still there, written in place. -/
def hasContent (doc : Document) : ContentPlace → Bool
  | .parameter place => (doc.parameter? place).isSome
  | .requestBody place => (doc.requestBody? place).isSome
  | .response place => (doc.response? place).isSome

/-- Give the content at a place a schema. -/
def setSchema (doc : Document) (schema : Schema) : ContentPlace → Document
  | .parameter place => doc.modifyParameter (fun p => { p with schema := some schema }) place
  | .requestBody place =>
    doc.modifyRequestBody (fun b =>
      { b with content := b.content.modifyJson fun m => { m with schema := some schema } }) place
  | .response place =>
    doc.modifyResponse (fun r =>
      { r with content := r.content.modifyJson fun m => { m with schema := some schema } }) place

/-- Give the content at a place a named example. -/
def setExample (doc : Document) (name : String) (sample : Example) : ContentPlace → Document
  | .parameter place =>
    doc.modifyParameter (fun p => { p with examples := p.examples.insert name sample }) place
  | .requestBody place =>
    doc.modifyRequestBody (fun b =>
      { b with content := b.content.modifyJson fun m =>
          { m with examples := m.examples.insert name sample } }) place
  | .response place =>
    doc.modifyResponse (fun r =>
      { r with content := r.content.modifyJson fun m =>
          { m with examples := m.examples.insert name sample } }) place

end OpenApi.Document

end ApiScribe
