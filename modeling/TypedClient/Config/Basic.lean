import TypedClient.Config.Setting
import TypedClient.Options

namespace TypedClient

namespace Options

def names : List String := [
  "types_module", "request_module", "fallback_tag", "file_extension", "emit_request_contract",
  "strict_names"]

def ofSettings? (settings : Settings) : Option Options := do
  let defaults : Options := {}
  guard (names.all settings.isUnique)
  return {
    typesModule := ← settings.getD? SettingValue.text? "types_module" defaults.typesModule
    requestModule := ← settings.getD? SettingValue.text? "request_module" defaults.requestModule
    fallbackTag := ← settings.getD? SettingValue.text? "fallback_tag" defaults.fallbackTag
    fileExtension := ← settings.getD? SettingValue.text? "file_extension" defaults.fileExtension
    emitRequestContract :=
      ← settings.getD? SettingValue.flag? "emit_request_contract" defaults.emitRequestContract
    strictNames := ← settings.getD? SettingValue.flag? "strict_names" defaults.strictNames }

def ofJson? : Json → Option Options
  | .object members => ofSettings? (members.map fun (name, value) => (name, .ofJson value))
  | .array items =>
    if items.length ≤ names.length then ofSettings? (names.zip (items.map .ofJson)) else none
  | _ => none

def entries (options : Options) : List (String × Json) := [
  ("types_module", .text options.typesModule),
  ("request_module", .text options.requestModule),
  ("fallback_tag", .text options.fallbackTag),
  ("file_extension", .text options.fileExtension),
  ("emit_request_contract", .bool options.emitRequestContract),
  ("strict_names", .bool options.strictNames)]

end Options

structure Config where
  schemaPath : String
  outputDir : String
  templateDir : Option String := none
  options : Options := {}
  deriving DecidableEq

namespace Config

def ownNames : List String := ["schema_path", "output_dir", "template_dir"]

/-- A configuration from settings. The schema path and the output directory must be given, no known
name may be repeated, and a value whose kind cannot be kept may stand only where a text is read. -/
def ofSettings? (settings : Settings) : Option Config := do
  guard (ownNames.all settings.isUnique)
  guard (settings.all fun (name, setting) => ownNames.contains name || setting.value?.isSome)
  let schemaPath ← (settings.get? "schema_path").bind (·.text?)
  let outputDir ← (settings.get? "output_dir").bind (·.text?)
  let templateDir ←
    match settings.get? "template_dir" with
    | some setting => setting.optionalText?
    | none => some none
  let options ← Options.ofSettings? settings
  return { schemaPath, outputDir, templateDir, options }

def ofJson? (value : Json) : Option Config := do
  let members ← value.members?
  ofSettings? (members.map fun (name, value) => (name, .ofJson value))

def entries (config : Config) : List (String × Json) :=
  [("schema_path", .text config.schemaPath), ("output_dir", .text config.outputDir),
    ("template_dir", config.templateDir.elim .null .text)] ++ config.options.entries

def names : List String := ownNames ++ Options.names

def nameChars : List Char :=
  ['a', 'b', 'c', 'd', 'e', 'f', 'g', 'h', 'i', 'j', 'k', 'l', 'm', 'n', 'o', 'p', 'q', 'r', 's',
    't', 'u', 'v', 'w', 'x', 'y', 'z', '_']

def IsName (text : List Char) : Prop := text ≠ [] ∧ ∀ c ∈ text, c ∈ nameChars

instance (text : List Char) : Decidable (IsName text) :=
  decidable_of_iff (text ≠ [] ∧ text.all (nameChars.contains ·) = true)
    (and_congr_right fun _ => by simp)

theorem IsName.exists_cons {text : List Char} (h : IsName text) :
    ∃ c rest, text = c :: rest ∧ c ∈ nameChars ∧ ∀ d ∈ rest, d ∈ nameChars := by
  obtain ⟨c, rest, rfl⟩ := List.exists_cons_of_ne_nil h.1
  exact ⟨c, rest, rfl, List.forall_mem_cons.mp h.2⟩

theorem isName_of_mem : ∀ name ∈ names, IsName name.toList := by
  decide

theorem names_nodup : names.Nodup := by
  decide

theorem map_fst_entries (config : Config) : config.entries.map (·.1) = names := by
  rfl

end Config

end TypedClient
