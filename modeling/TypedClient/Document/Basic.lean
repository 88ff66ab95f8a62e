import TypedClient.Document.Operation
import TypedClient.Json.Pointer

/-!
The typed view of a document. Below the root reading never fails: what does not have the expected
shape is left out, and every mapping keeps the order of the document.
-/

namespace TypedClient

structure Reference where
  raw : String
  segments : List String

namespace Reference

def pointer? (raw : String) : Option (List Char) :=
  match raw.toList with
  | '#' :: pointer => some pointer
  | _ => none

def parse? (raw : String) : Option Reference := do
  let pointer ← pointer? raw
  let segments ← Json.pointerSegments? pointer
  return ⟨raw, segments⟩

def componentKey? (reference : Reference) : Option String :=
  match reference.segments with
  | ["components", "schemas", key] => some key
  | _ => none

def lookup? (root : Json) (raw : String) : Option Json :=
  (pointer? raw).bind root.pointer?

end Reference

def registryKey? (pointer : String) : Option String :=
  (Reference.parse? pointer).bind Reference.componentKey?

abbrev PathItem := List (Method × Operation)

structure Document where
  raw : Json
  title : Option String
  version : Option String
  paths : Mapping PathItem
  schemas : Mapping Schema

inductive DocumentFault where
  | rootNotObject
  | legacyVersion
  deriving DecidableEq

def DocumentFault.message : DocumentFault → String
  | .rootNotObject => "document root must be an object"
  | .legacyVersion =>
    "Swagger 2.0 documents are not supported, convert the document to OpenAPI 3 first"

namespace Document

def follow? (root value : Json) : Option Json :=
  match (value.member? "$ref").bind Json.text? with
  | some reference => Reference.lookup? root reference
  | none => some value

def contentOf (holder : Json) : Content :=
  (((holder.member? "content").bind Json.members?).getD []).filterMap fun (media, entry) =>
    (entry.member? "schema").map fun schema => (media, Schema.ofJson schema)

def operationOf (root : Json) (members : Mapping Json) : Operation where
  id := (members.get? "operationId").bind Json.text?
  summary := (members.get? "summary").bind Json.text?
  description := (members.get? "description").bind Json.text?
  deprecated := ((members.get? "deprecated").bind Json.bool?).getD false
  tags := (((members.get? "tags").bind Json.items?).getD []).filterMap Json.text?
  requestBody := ((members.get? "requestBody").bind (follow? root)).map contentOf
  responses := (((members.get? "responses").bind Json.members?).getD []).filterMap
    fun (status, response) => (follow? root response).map fun value => (status, contentOf value)

def pathItemOf (root : Json) (members : Mapping Json) : PathItem :=
  members.filterMap fun (key, value) => do
    let method ← Method.ofKey? key
    let operation ← value.members?
    return (method, operationOf root operation)

def isLegacy (root : Mapping Json) : Bool :=
  root.has "swagger" ||
    (((root.get? "openapi").bind Json.text?).any fun version => version.startsWith "2")

def ofJson (raw : Json) : Except DocumentFault Document :=
  match raw.members? with
  | none => .error .rootNotObject
  | some root =>
    if isLegacy root then .error .legacyVersion
    else
      let info := fun key => ((raw.descend? ["info", key]).bind Json.text?)
      let schemas := ((raw.descend? ["components", "schemas"]).bind Json.members?).getD []
      let paths := ((root.get? "paths").bind Json.members?).getD []
      .ok {
        raw
        title := info "title"
        version := info "version"
        schemas := schemas.map fun (key, schema) => (key, Schema.ofJson schema)
        paths := paths.filterMap fun (path, item) => do
          let members ← (follow? raw item).bind Json.members?
          return (path, pathItemOf raw members) }

def resolve? (document : Document) (reference : String) : Option Schema :=
  (Reference.lookup? document.raw reference).map Schema.ofJson

end Document

structure BoundOperation where
  path : String
  method : Method
  operation : Operation

def BoundOperation.label (bound : BoundOperation) : String :=
  bound.method.token ++ " " ++ bound.path

def Document.operations (document : Document) : List BoundOperation :=
  document.paths.flatMap fun (path, item) =>
    item.map fun (method, operation) => ⟨path, method, operation⟩

structure TagGroup where
  tag : String
  operations : List BoundOperation

namespace Document

def effectiveTags (fallback : String) (operation : Operation) : List String :=
  let tags := distinct ((operation.tags.map Text.trim).filter (!·.isEmpty))
  if tags.isEmpty then [fallback] else tags

def fileUnder (bound : BoundOperation) : List TagGroup → String → List TagGroup
  | [], tag => [⟨tag, [bound]⟩]
  | group :: rest, tag =>
    if group.tag = tag then { group with operations := group.operations ++ [bound] } :: rest
    else group :: fileUnder bound rest tag

def tagGroups (document : Document) (fallback : String) : List TagGroup :=
  document.operations.foldl (fun groups bound =>
    (effectiveTags fallback bound.operation).foldl (fileUnder bound) groups) []

end Document

end TypedClient
