import TypedClient.Template.Basic

namespace TypedClient

inductive ArtifactKind where
  | types
  | group
  | request
  deriving DecidableEq

namespace ArtifactKind

def all : List ArtifactKind := [.types, .group, .request]

def fileName : ArtifactKind → String
  | .types => "types.ts.tera"
  | .group => "group.ts.tera"
  | .request => "request.ts.tera"

end ArtifactKind

namespace Template

def types : Template := ⟨[
  .value ["banner"],
  .each "decl" ["declarations"] [.text "\n\n", .value ["decl"]],
  .whenLength ["declarations"] 0 [.text "\n\nexport \x7b\x7d;"],
  .text "\n"]⟩

def callableParts : List Part := [
  .each "line" ["op", "doc"] [.text "\n    ", .value ["line"]],
  .text "\n    ", .value ["op", "name"], .text "(", .value ["op", "params"],
  .text "): Promise<", .value ["op", "returns"], .text "> \x7b\n      return request<",
  .value ["op", "returns"], .text ">(\"", .value ["op", "path"], .text "\", \"",
  .value ["op", "method"], .text "\", ", .value ["op", "data"], .text ", signal);\n    \x7d,"]

def group : Template := ⟨[
  .value ["banner"],
  .text "\n\nimport type \x7b ", .value ["request_type"], .text " \x7d from \"./",
  .value ["request_module"], .text "\";\nimport type * as ", .value ["types_namespace"],
  .text " from \"./", .value ["types_module"], .text "\";",
  .each "decl" ["declarations"] [.text "\n\n", .value ["decl"]],
  .text "\n\nexport function ", .value ["factory"], .text "(request: ", .value ["request_type"],
  .text ") \x7b\n  return \x7b",
  .each "op" ["operations"] callableParts,
  .text "\n  \x7d;\n\x7d\n"]⟩

def errorContract : String :=
  ";\n\n/** Why a request did not produce a response value. */\n" ++
  "export type RequestError =\n" ++
  "  | \x7b kind: \"aborted\" \x7d\n" ++
  "  | \x7b kind: \"api-failure\"; code: number; body?: unknown \x7d\n" ++
  "  | \x7b kind: \"transport-failure\"; cause: unknown \x7d;\n\n" ++
  "/**\n" ++
  " * Performs one HTTP call and resolves with the decoded success body.\n" ++
  " *\n" ++
  " * Implementations reject with a RequestError and stop the call when `signal` aborts.\n" ++
  " */\nexport type "

def request : Template := ⟨[
  .value ["banner"],
  .text "\n\nexport type HttpMethod =",
  .each "method" ["methods"] [.text "\n  | \"", .value ["method"], .text "\""],
  .text errorContract,
  .value ["request_type"],
  .text (" = <T>(\n  path: string,\n  method: HttpMethod,\n  data: unknown,\n" ++
    "  signal?: AbortSignal,\n) => Promise<T>;\n")]⟩

end Template

structure TemplateSet where
  types : Template
  group : Template
  request : Template

namespace TemplateSet

def builtin : TemplateSet := ⟨Template.types, Template.group, Template.request⟩

def get (set : TemplateSet) : ArtifactKind → Template
  | .types => set.types
  | .group => set.group
  | .request => set.request

def replace (set : TemplateSet) (template : Template) : ArtifactKind → TemplateSet
  | .types => { set with types := template }
  | .group => { set with group := template }
  | .request => { set with request := template }

end TemplateSet

end TypedClient
