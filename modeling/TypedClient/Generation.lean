import TypedClient.Artifact.Transform
import TypedClient.Failure
import TypedClient.Files.Basic
import TypedClient.Template.Parse
import TypedClient.Url.Basic

/-!
A whole run: a document is loaded, templates are found, the artifacts are made, and only then is
anything written.
-/

namespace TypedClient

namespace Config

variable {m : Type → Type} [Monad m] [MonadFiles m]

def formatOf (path : String) : ConfigFormat := .ofExtension (Path.extension? path)

def load (path : String) : ExceptT Failure m Config := do
  match ← (MonadFiles.readText? path : m _) with
  | none => throw .io
  | some text =>
    match parse? (formatOf path) text with
    | some config => return config
    | none => throw (.unreadableConfig (formatOf path))

def save (config : Config) (path : String) : ExceptT Failure m Unit := do
  if !(← (MonadFiles.writeText path (config.print (formatOf path)) : m _)) then throw .io

end Config

def noNetwork : String → Except FetchFault String :=
  fun _ => .error (.unreachable "no network")

structure Environment where
  templateDir : Option String := none
  home : Option String := none
  fetch : String → Except FetchFault String := noNetwork

namespace Generation

variable {m : Type → Type} [Monad m] [MonadFiles m]

def fetchValue (location : String) (fetch : String → Except FetchFault String) :
    Except OpenApiFault Json := do
  let text ← (fetch location).mapError (.fetch location)
  (sourceValue text).mapError (.web location)

def loadValue (location : String) (fetch : String → Except FetchFault String := noNetwork) :
    ExceptT Failure m Json := do
  if Url.isWebAddress location then
    ExceptT.mk (pure ((fetchValue location fetch).mapError .openApi))
  else
    match ← (MonadFiles.readText? location : m _) with
    | none => throw .io
    | some text =>
      match sourceValue text with
      | .ok value => return value
      | .error fault => throw (.openApi (.file location fault))

def loadDocument (environment : Environment) (location : String) : ExceptT Failure m Document := do
  let value ← loadValue location environment.fetch
  match Document.ofJson value with
  | .ok document => return document
  | .error fault => throw (.openApi (.document fault))

def templatePlaces (environment : Environment) : List String :=
  environment.templateDir.toList ++
    environment.home.toList.map fun home => Path.join (Path.join home ".clientgen") "templates"

def firstDirectory : List String → m (Option String)
  | [] => return none
  | path :: rest => do
    if ← MonadFiles.isDirectory path then return some path else firstDirectory rest

def discoverTemplates (environment : Environment) :
    Option String → ExceptT Failure m (Option String)
  | none => firstDirectory (m := m) (templatePlaces environment)
  | some directory => do
    if ← (MonadFiles.isDirectory directory : m _) then return some directory
    else throw (.override (.directoryNotFound directory))

def overrideTemplate (directory : String) (set : TemplateSet) (kind : ArtifactKind) :
    ExceptT Failure m TemplateSet := do
  let path := Path.join directory kind.fileName
  if ← (MonadFiles.isFile path : m _) then
    match ← (MonadFiles.readText? path : m _) with
    | none => throw .io
    | some source =>
      match Template.parse? source with
      | some template => return set.replace template kind
      | none => throw (.override (.broken path))
  else return set

def loadTemplates : Option String → ExceptT Failure m TemplateSet
  | none => return .builtin
  | some directory => ArtifactKind.all.foldlM (overrideTemplate directory) .builtin

/-- Writes artifacts into a directory, which is made where it is missing. Each is tried even after
one could not be written. -/
def writeArtifacts (directory : String) (artifacts : Artifacts) : ExceptT Failure m Unit := do
  if !(← (MonadFiles.makePath directory : m _)) then throw .io
  let written ← artifacts.mapM fun (name, text) =>
    (MonadFiles.writeText (Path.join directory name) text : m _)
  if !written.all id then throw .io

def prepare (environment : Environment) (config : Config) : ExceptT Failure m Artifacts := do
  let document ← loadDocument environment config.schemaPath
  let directory ← discoverTemplates environment config.templateDir
  let templates ← loadTemplates directory
  ExceptT.mk (pure (transform document config.options templates))

end Generation

def generate {m : Type → Type} [Monad m] [MonadFiles m] (environment : Environment)
    (config : Config) : ExceptT Failure m Artifacts := do
  let artifacts ← Generation.prepare environment config
  Generation.writeArtifacts config.outputDir artifacts
  return artifacts

end TypedClient
