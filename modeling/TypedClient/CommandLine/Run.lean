import TypedClient.CommandLine.Arguments
import TypedClient.Generation

namespace TypedClient.CommandLine

variable {m : Type → Type} [Monad m] [MonadFiles m]

def defaultOutputDir : String := "api"

inductive CommandFault where
  | schemaPathMissing
  | config (path : String) (failure : Failure)
  | generation (schemaPath : String) (failure : Failure)

namespace CommandFault

def message : CommandFault → String
  | .schemaPathMissing => "--schema-path is required when no --config is given"
  | .config path _ => "Failed to load config from " ++ path
  | .generation schemaPath _ => "Failed to generate client from " ++ schemaPath

def cause? : CommandFault → Option Failure
  | .schemaPathMissing => none
  | .config _ failure => some failure
  | .generation _ failure => some failure

end CommandFault

def Arguments.applyTo (arguments : Arguments) (config : Config) : Config where
  schemaPath := arguments.schemaPath.getD config.schemaPath
  outputDir := arguments.outputDir.getD config.outputDir
  templateDir := arguments.templateDir.or config.templateDir
  options := { config.options with
    fallbackTag := arguments.fallbackTag.getD config.options.fallbackTag
    strictNames := arguments.strictNames || config.options.strictNames
    emitRequestContract := !arguments.noRequestContract && config.options.emitRequestContract }

def baseConfig (arguments : Arguments) : ExceptT CommandFault m Config :=
  match arguments.config, arguments.schemaPath with
  | some path, _ => ExceptT.adapt (.config path) (Config.load path)
  | none, some schemaPath => return { schemaPath, outputDir := defaultOutputDir }
  | none, none => throw .schemaPathMissing

def resolveConfig (arguments : Arguments) : ExceptT CommandFault m Config := do
  return arguments.applyTo (← baseConfig arguments)

def runGenerate (environment : Environment) (arguments : Arguments) :
    ExceptT CommandFault m (Config × Artifacts) := do
  let config ← resolveConfig arguments
  let artifacts ← ExceptT.adapt (.generation config.schemaPath) (generate environment config)
  return (config, artifacts)

inductive Outcome where
  | generated (config : Config) (artifacts : Artifacts) (watches : Bool)
  | help
  | version
  | misused
  | failed (fault : CommandFault)

def Outcome.exitCode : Outcome → Nat
  | .failed _ => 1
  | .misused => 2
  | _ => 0

def run (environment : Environment) (words : List String) : m Outcome := do
  match parse? words with
  | none => return .misused
  | some .help => return .help
  | some .version => return .version
  | some (.generate arguments) =>
    match ← (runGenerate environment arguments).run with
    | .ok (config, artifacts) => return .generated config artifacts arguments.watch
    | .error fault => return .failed fault

end TypedClient.CommandLine
