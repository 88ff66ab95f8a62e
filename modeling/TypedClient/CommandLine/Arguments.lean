import TypedClient.Text.Split

namespace TypedClient.CommandLine

structure Arguments where
  config : Option String := none
  schemaPath : Option String := none
  outputDir : Option String := none
  templateDir : Option String := none
  fallbackTag : Option String := none
  strictNames : Bool := false
  noRequestContract : Bool := false
  watch : Bool := false
  deriving DecidableEq

inductive Command where
  | generate (arguments : Arguments)
  | help
  | version
  deriving DecidableEq

inductive Stop where
  | usage
  | help
  deriving DecidableEq

def setOnce (current : Option String) (value : String) : Except Stop (Option String) :=
  if current.isSome then .error .usage else .ok (some value)

def setFlag (current : Bool) : Except Stop Bool :=
  if current then .error .usage else .ok true

namespace Arguments

def textOptions : List String :=
  ["--config", "--schema-path", "--output-dir", "--template-dir", "--fallback-tag"]

/-- Takes an option with its text. Only the path of a configuration cannot be empty. -/
def takeText (arguments : Arguments) (option value : String) : Except Stop Arguments :=
  match option with
  | "--config" => do
    if value.isEmpty then throw .usage
    return { arguments with config := ← setOnce arguments.config value }
  | "--schema-path" => do
    return { arguments with schemaPath := ← setOnce arguments.schemaPath value }
  | "--output-dir" => do
    return { arguments with outputDir := ← setOnce arguments.outputDir value }
  | "--template-dir" => do
    return { arguments with templateDir := ← setOnce arguments.templateDir value }
  | "--fallback-tag" => do
    return { arguments with fallbackTag := ← setOnce arguments.fallbackTag value }
  | _ => throw .usage

def takeFlag (arguments : Arguments) (word : String) : Except Stop Arguments :=
  match word with
  | "--strict-names" => do return { arguments with strictNames := ← setFlag arguments.strictNames }
  | "--no-request-contract" => do
    return { arguments with noRequestContract := ← setFlag arguments.noRequestContract }
  | "--watch" => do return { arguments with watch := ← setFlag arguments.watch }
  | "--help" => throw .help
  | word => throw (if word.startsWith "-h" then .help else .usage)

def isOptionLike (word : String) : Bool := word.startsWith "-" && word != "-"

def splitEquals (word : String) : String × Option String :=
  let (name, rest) := word.toList.span (· != '=')
  match rest with
  | [] => (word, none)
  | _ :: value => (String.ofList name, some (String.ofList value))

def takeWords (arguments : Arguments) : List String → Except Stop Arguments
  | [] => .ok arguments
  | ["--"] => .ok arguments
  | word :: rest =>
    match splitEquals word with
    | (option, some value) =>
      if textOptions.contains option then do
        let arguments ← arguments.takeText option value
        takeWords arguments rest
      else if word.startsWith "-h" then .error .help
      else .error .usage
    | (option, none) =>
      if textOptions.contains option then
        match rest with
        | [] => .error .usage
        | value :: rest =>
          if isOptionLike value then .error .usage
          else do
            let arguments ← arguments.takeText option value
            takeWords arguments rest
      else do
        let arguments ← arguments.takeFlag word
        takeWords arguments rest

end Arguments

def parse? : List String → Option Command
  | "generate" :: rest =>
    match Arguments.takeWords {} rest with
    | .ok arguments => some (.generate arguments)
    | .error .help => some .help
    | .error .usage => none
  | ["help"] => some .help
  | ["help", "generate"] => some .help
  | ["help", "help"] => some .help
  | "--help" :: _ => some .help
  | "--version" :: _ => some .version
  | word :: _ =>
    if word.startsWith "-h" then some .help
    else if word.startsWith "-V" then some .version
    else none
  | [] => none

def versionText : String := "clientgen 0.1.0\n"

def usageText : String := "Usage: clientgen generate [OPTIONS]\n"

def optionLines : List String := [
  "  --config <CONFIG>              Config file (YAML, JSON or TOML); flags override its values",
  "  --schema-path <SCHEMA_PATH>    Path or URL to the OpenAPI document (YAML or JSON)",
  "  --output-dir <OUTPUT_DIR>      Output directory for generated code (default: api)",
  "  --template-dir <TEMPLATE_DIR>  Directory with template overrides",
  "  --fallback-tag <FALLBACK_TAG>  Group name for operations without tags (default: default)",
  "  --strict-names                 Fail when two generated names collide",
  "  --no-request-contract          Do not emit the request contract module",
  "  --watch                        Regenerate whenever the schema file changes",
  "  -h, --help                     Print help"]

def helpText : String :=
  "Generate a TypeScript client from an OpenAPI document\n\n" ++ usageText ++ "\nOptions:\n" ++
    String.join (optionLines.map (· ++ "\n"))

end TypedClient.CommandLine
