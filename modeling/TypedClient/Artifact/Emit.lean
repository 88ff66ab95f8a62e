import TypedClient.Client.Callable
import TypedClient.Document.Basic
import TypedClient.Failure
import TypedClient.Template.Builtin

namespace TypedClient

namespace Artifact

def bannerSource (document : Document) : String :=
  let parts := ([document.title, document.version].filterMap (·.map Text.comment)).filter
    (!·.isEmpty)
  if document.title.isSome && !parts.isEmpty then " from " ++ " ".intercalate parts else ""

def banner (document : Document) : String :=
  "/* eslint-disable */\n// Generated by clientgen" ++ bannerSource document ++
    ". Do not edit by hand."

def texts (values : List String) : Json := .array (values.map .text)

def render (templates : TemplateSet) (kind : ArtifactKind) (bindings : Mapping Json) :
    Except Failure String :=
  ((templates.get kind).render bindings).mapError .template

def componentDeclarations (document : Document) (names : Naming.RegistryNames) :
    List Declaration :=
  document.schemas.filterMap fun (key, schema) =>
    (names.get? key).map fun name => ⟨name, Synthesis.typeOf ⟨document, names, .global⟩ schema⟩

def emitTypes (document : Document) (names : Naming.RegistryNames) (templates : TemplateSet)
    (banner : String) : Except Failure String :=
  render templates .types [
    ("banner", .text banner),
    ("declarations", texts ((componentDeclarations document names).map (·.text)))]

def emitRequestContract (templates : TemplateSet) (banner : String) : Except Failure String :=
  render templates .request [
    ("banner", .text banner),
    ("request_type", .text requestType),
    ("methods", texts (Method.all.map (·.token)))]

end Artifact

def Callable.toJson (callable : Callable) : Json := .object [
  ("name", .text callable.name),
  ("params", .text callable.params),
  ("returns", .text callable.returns),
  ("path", .text callable.path),
  ("method", .text callable.method),
  ("data", .text callable.data),
  ("doc", Artifact.texts callable.doc)]

structure Run where
  document : Document
  names : Naming.RegistryNames
  options : Options
  templates : TemplateSet
  banner : String

namespace Artifact

def groupContent (run : Run) (group : TagGroup) (scope : String) :
    Except Naming.NameCollision (List Signature × List Declaration) :=
  let synthesis : Synthesis := ⟨run.document, run.names, .local⟩
  let (signatures, final) :=
    (ExceptT.run (group.operations.mapM (ArtifactM.signature synthesis))).run
      (ArtifactScope.empty scope run.options.strictNames)
  signatures.map fun signatures => (signatures, final.declarations)

def factoryName (tag : String) : String := "create" ++ Naming.typeName tag ++ "Api"

def emitGroup (run : Run) (group : TagGroup) (scope : String) : Except Failure String := do
  let (signatures, declarations) ← (groupContent run group scope).mapError .collision
  render run.templates .group [
    ("banner", .text run.banner),
    ("request_type", .text requestType),
    ("request_module", .text run.options.requestModule),
    ("types_namespace", .text typesNamespace),
    ("types_module", .text run.options.typesModule),
    ("factory", .text (factoryName group.tag)),
    ("declarations", texts (declarations.map (·.text))),
    ("operations", .array (signatures.map (·.callable.toJson)))]

end Artifact

end TypedClient
