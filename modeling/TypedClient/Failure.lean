import TypedClient.Config.Format
import TypedClient.Document.Source
import TypedClient.Naming.Allocator
import TypedClient.Template.Basic

namespace TypedClient

inductive OverrideFault where
  | directoryNotFound (directory : String)
  | broken (file : String)

def OverrideFault.message : OverrideFault → String
  | .directoryNotFound directory => "Template directory not found: " ++ directory
  | .broken file => file ++ ": "

inductive Failure where
  | io
  | unreadableConfig (format : ConfigFormat)
  | openApi (fault : OpenApiFault)
  | override (fault : OverrideFault)
  | template (fault : Template.Fault)
  | options (fault : OptionsFault)
  | collision (collision : Naming.NameCollision)

/-- What a failure says of itself. Where the details depend on the system or on another format,
the text ends after the kind of failure. -/
def Failure.message : Failure → String
  | .io => "I/O error: "
  | .unreadableConfig .toml => "TOML parsing error: "
  | .unreadableConfig .json => "JSON parsing error: "
  | .unreadableConfig .yaml => "YAML parsing error: "
  | .openApi fault => "OpenAPI error: " ++ fault.message
  | .override fault => "Template error: " ++ fault.message
  | .template _ => "Template engine error: "
  | .options fault => "Configuration error: " ++ fault.message
  | .collision clash => clash.message

end TypedClient
