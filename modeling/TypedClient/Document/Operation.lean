import TypedClient.Document.Schema
import TypedClient.Naming.Identifier

namespace TypedClient

inductive Method where
  | get
  | put
  | post
  | delete
  | options
  | head
  | patch
  | trace
  deriving DecidableEq

namespace Method

def all : List Method := [.get, .put, .post, .delete, .options, .head, .patch, .trace]

def token : Method → String
  | .get => "GET"
  | .put => "PUT"
  | .post => "POST"
  | .delete => "DELETE"
  | .options => "OPTIONS"
  | .head => "HEAD"
  | .patch => "PATCH"
  | .trace => "TRACE"

def ofKey? : String → Option Method
  | "get" => some .get
  | "put" => some .put
  | "post" => some .post
  | "delete" => some .delete
  | "options" => some .options
  | "head" => some .head
  | "patch" => some .patch
  | "trace" => some .trace
  | _ => none

def carriesBody : Method → Bool
  | .get => false
  | .delete => false
  | _ => true

end Method

abbrev Content := Mapping Schema

/-- The schema of the preferred media type: plain JSON, else a JSON dialect, else the first. -/
def Content.preferred? (content : Content) : Option Schema :=
  (content.get? "application/json").or
    (((content.find? fun entry => entry.1.endsWith "+json").or content.head?).map (·.2))

structure Operation where
  id : Option String
  summary : Option String
  description : Option String
  deprecated : Bool
  tags : List String
  requestBody : Option Content
  responses : Mapping Content

namespace Operation

def requestSchema? (operation : Operation) : Option Schema :=
  operation.requestBody.bind Content.preferred?

def successStatus? (operation : Operation) : Option String :=
  if operation.responses.has "200" then some "200"
  else operation.responses.keys.find? (·.startsWith "2")

def successSchema? (operation : Operation) : Option Schema := do
  let status ← operation.successStatus?
  let content ← operation.responses.get? status
  content.preferred?

def name (operation : Operation) : String :=
  Naming.operationName operation.id operation.summary

end Operation

end TypedClient
