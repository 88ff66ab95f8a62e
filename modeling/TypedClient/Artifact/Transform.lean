import TypedClient.Artifact.Emit
import TypedClient.Files.Path

namespace TypedClient

abbrev Artifacts := Mapping String

namespace Artifact

/-- File stems of the groups. Stems that differ only in case are kept apart, and the stems of the
other artifacts are taken from the start. -/
def groupStems (options : Options) (groups : List TagGroup) :
    Except Naming.NameCollision (List String) := do
  let stems := Naming.Allocator.emptyIgnoringCase "output directory" options.strictNames
  let stems := (stems.reserve options.typesModule).reserve options.requestModule
  let (names, _) ← stems.allocateAll (groups.map fun group => Text.fileStem group.tag)
  return names

def sharedArtifacts (run : Run) : Except Failure Artifacts := do
  let types ← emitTypes run.document run.names run.templates run.banner
  let artifacts : Artifacts := [(run.options.artifactName run.options.typesModule, types)]
  if run.options.emitRequestContract then
    let contract ← emitRequestContract run.templates run.banner
    return artifacts.insert (run.options.artifactName run.options.requestModule) contract
  else return artifacts

def groupArtifacts (run : Run) :
    List (TagGroup × String) → Except Failure (List (String × String))
  | [] => .ok []
  | (group, file) :: rest => do
    let text ← emitGroup run group file
    return (file, text) :: (← groupArtifacts run rest)

end Artifact

def transform (document : Document) (options : Options) (templates : TemplateSet) :
    Except Failure Artifacts := do
  if let some fault := options.fault? then throw (.options fault)
  let typesFile := options.artifactName options.typesModule
  let names ← (Naming.nameRegistry document.schemas.keys typesFile options.strictNames).mapError
    .collision
  let run : Run := ⟨document, names, options, templates, Artifact.banner document⟩
  let shared ← Artifact.sharedArtifacts run
  let groups := document.tagGroups options.fallbackTag
  let stems ← (Artifact.groupStems options groups).mapError .collision
  let rendered ← Artifact.groupArtifacts run (groups.zip (stems.map options.artifactName))
  return rendered.foldl (fun artifacts entry => artifacts.insert entry.1 entry.2) shared

end TypedClient
