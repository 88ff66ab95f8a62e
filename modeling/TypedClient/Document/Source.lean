import TypedClient.Document.Basic
import TypedClient.Json.Parse
import TypedClient.Yaml.Value

namespace TypedClient

inductive SourceFault where
  | notMapping
  | unreadable
  deriving DecidableEq

def SourceFault.message : SourceFault → String
  | .notMapping => "content is not a JSON or YAML mapping"
  | .unreadable => "content is neither valid JSON nor YAML: "

inductive FetchFault where
  | unreachable (detail : String)
  | status (line : String)
  | unreadable (detail : String)
  deriving DecidableEq

inductive OpenApiFault where
  | source (fault : SourceFault)
  | file (path : String) (fault : SourceFault)
  | fetch (location : String) (fault : FetchFault)
  | web (location : String) (fault : SourceFault)
  | document (fault : DocumentFault)
  deriving DecidableEq

def OpenApiFault.message : OpenApiFault → String
  | .source fault => fault.message
  | .file path fault =>
    "Failed to parse OpenAPI document at " ++ path ++ ": OpenAPI error: " ++ fault.message
  | .fetch location (.unreachable detail) =>
    "Failed to fetch OpenAPI document from " ++ location ++ ": " ++ detail
  | .fetch location (.status line) =>
    "Failed to fetch OpenAPI document from " ++ location ++ ": HTTP " ++ line
  | .fetch location (.unreadable detail) =>
    "Failed to read response from " ++ location ++ ": " ++ detail
  | .web location fault =>
    "Failed to parse OpenAPI document from " ++ location ++ ": OpenAPI error: " ++ fault.message
  | .document fault => fault.message

def requireMapping : Json → Except SourceFault Json
  | .object members => .ok (.object members)
  | _ => .error .notMapping

def sourceValue (text : String) : Except SourceFault Json :=
  match Json.parse? text with
  | some value => .ok value
  | none =>
    match Yaml.parse? text with
    | some value => requireMapping value
    | none => .error .unreadable

def Document.ofText (text : String) : Except OpenApiFault Document := do
  let value ← (sourceValue text).mapError .source
  (Document.ofJson value).mapError .document

end TypedClient
