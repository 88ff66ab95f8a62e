import TypedClient.Config.Basic
import TypedClient.Json.Parse
import TypedClient.Json.Print
import TypedClient.Toml.Document
import TypedClient.Toml.Print
import TypedClient.Yaml.Print

namespace TypedClient

inductive ConfigFormat where
  | toml
  | json
  | yaml
  deriving DecidableEq

namespace ConfigFormat

def ofExtension (extension : Option String) : ConfigFormat :=
  match extension with
  | some "toml" => .toml
  | some "json" => .json
  | _ => .yaml

end ConfigFormat

def Setting.ofToml : Toml.Item → Setting
  | .value value => ⟨value.text?, value.text?.map some, some value⟩
  | _ => ⟨none, none, some .other⟩

/-- A setting of a YAML document. Any scalar is a text by its spelling; a plain scalar that says
nothing leaves an optional text out. -/
def Setting.ofYaml : Yaml.Tree → Setting
  | .scalar tag isPlain text => {
      text? := some text
      optionalText? :=
        match tag, isPlain with
        | none, true => if text.isEmpty || Yaml.isNull text then some none else some (some text)
        | some "tag:yaml.org,2002:null", true => if Yaml.isNull text then some none else none
        | _, _ => some (some text)
      value? := (Yaml.scalarValue? tag isPlain text).map .ofJson }
  | tree => ⟨none, none, if tree.hasValues then some .other else none⟩

namespace Config

def settings? (format : ConfigFormat) (text : String) : Option Settings :=
  match format with
  | .toml => (Toml.entries? text).map (·.map fun (name, item) => (name, .ofToml item))
  | .json => do
    let members ← (← Json.parseRepeated? text).members?
    return members.map fun (name, value) => (name, .ofJson value)
  | .yaml => do
    match ← Yaml.tree? text with
    | .mapping _ entries => entries.mapM fun (key, value) => do return (← key.key?, .ofYaml value)
    | _ => none

def parse? (format : ConfigFormat) (text : String) : Option Config :=
  (settings? format text).bind ofSettings?

def print (format : ConfigFormat) (config : Config) : String :=
  match format with
  | .toml => Toml.lines config.entries
  | .json => (Json.object config.entries).pretty
  | .yaml => Yaml.lines config.entries

end Config

end TypedClient
