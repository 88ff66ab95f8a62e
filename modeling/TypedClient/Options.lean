import TypedClient.Json.Basic
import TypedClient.Text.Comment

namespace TypedClient

inductive OptionsFault where
  | blank (setting : String)
  | sameModule (name : String)
  deriving DecidableEq

def OptionsFault.message : OptionsFault → String
  | .blank setting => setting ++ " must not be empty"
  | .sameModule name => "types_module and request_module are both '" ++ name ++ "'"

structure Options where
  typesModule : String := "types"
  requestModule : String := "request"
  fallbackTag : String := "default"
  fileExtension : String := "ts"
  emitRequestContract : Bool := true
  strictNames : Bool := false
  deriving DecidableEq

namespace Options

def artifactName (options : Options) (stem : String) : String :=
  stem ++ "." ++ options.fileExtension

def texts (options : Options) : List (String × String) := [
  ("types_module", options.typesModule),
  ("request_module", options.requestModule),
  ("fallback_tag", options.fallbackTag),
  ("file_extension", options.fileExtension)]

def fault? (options : Options) : Option OptionsFault :=
  match options.texts.find? fun entry => Text.isBlank entry.2 with
  | some (setting, _) => some (.blank setting)
  | none =>
    if options.typesModule = options.requestModule then some (.sameModule options.typesModule)
    else none

end Options

end TypedClient
