import TypedClient.CommandLine.Run

namespace TypedClient

def isPresent (path : String) : IO Bool := do
  try
    IO.FS.createDir path
    return false
  catch
    | .alreadyExists .. => return true
    | _ => return false

instance : MonadFiles IO where
  readText? path := do
    try return some (← IO.FS.readFile path)
    catch _ => return none
  isFile path := do
    if ← isPresent (path ++ "/.") then return false
    try
      let _ ← IO.FS.Handle.mk path .read
      return true
    catch _ => return false
  isDirectory path := do
    if path.isEmpty then return false else isPresent (path ++ "/.")
  makeDirectory path := do
    try
      IO.FS.createDir path
      return .made
    catch
      | .noFileOrDirectory .. => return .parentMissing
      | _ => return .refused
  writeText path text := do
    try
      IO.FS.writeFile path text
      return true
    catch _ => return false

namespace CommandLine

def reportFault (fault : CommandFault) : IO Unit := do
  IO.eprintln ("Error: " ++ fault.message)
  if let some failure := fault.cause? then
    IO.eprintln ("\nCaused by:\n    " ++ failure.message)

partial def watch (environment : Environment) (config : Config) (text : Option String) :
    IO Unit := do
  IO.sleep 200
  let next ← MonadFiles.readText? (m := IO) config.schemaPath
  if next != text then
    let result ← (generate (m := IO) environment config).run
    if let .error failure := result then
      reportFault (.generation config.schemaPath failure)
  watch environment config next

def startWatch (environment : Environment) (config : Config) : IO UInt32 := do
  if Url.isWebAddress config.schemaPath then
    IO.eprintln ("Error: --watch needs a local schema file, got " ++ config.schemaPath)
    return 1
  watch environment config (← MonadFiles.readText? (m := IO) config.schemaPath)
  return 0

def report (environment : Environment) (outcome : Outcome) : IO UInt32 := do
  match outcome with
  | .generated config _ true => return ← startWatch environment config
  | .generated _ _ false => pure ()
  | .help => IO.print helpText
  | .version => IO.print versionText
  | .misused => IO.eprint usageText
  | .failed fault => reportFault fault
  return outcome.exitCode.toUInt32

end CommandLine

end TypedClient

open TypedClient

def main (words : List String) : IO UInt32 := do
  let environment : Environment := {
    templateDir := ← IO.getEnv "CLIENTGEN_TEMPLATE_DIR"
    home := (← IO.getEnv "HOME").filter (!·.isEmpty) }
  let outcome ← CommandLine.run (m := IO) environment words
  CommandLine.report environment outcome
