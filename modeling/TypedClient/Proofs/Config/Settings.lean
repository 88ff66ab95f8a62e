import Mathlib.Data.List.Nodup
import Mathlib.Data.Option.Basic
import TypedClient.Config.Basic

namespace TypedClient

def Settings.Gives (settings : Settings) (option : String × Json) : Prop :=
  match settings.get? option.1 with
  | none => option ∈ ({} : Options).entries
  | some setting => setting.value? = some (.ofJson option.2)

def Settings.templateDir? (settings : Settings) : Option (Option String) :=
  match settings.get? "template_dir" with
  | none => some none
  | some setting => setting.optionalText?

structure Config.IsReadFrom (config : Config) (settings : Settings) : Prop where
  isUnique : ∀ name ∈ Config.names, settings.isUnique name = true
  hasKind : ∀ entry ∈ settings, entry.1 ∈ Config.ownNames ∨ entry.2.value?.isSome = true
  schemaPath : ∃ setting, settings.get? "schema_path" = some setting ∧
    setting.text? = some config.schemaPath
  outputDir : ∃ setting, settings.get? "output_dir" = some setting ∧
    setting.text? = some config.outputDir
  templateDir : settings.templateDir? = some config.templateDir
  options : ∀ option ∈ config.options.entries, settings.Gives option

variable {settings : Settings} {config : Config} {options : Options}

theorem Settings.isUnique_of_nodup (h : (settings.map (·.1)).Nodup) (name : String) :
    settings.isUnique name = true := by
  have hcount := List.nodup_iff_count_le_one.mp h name
  rw [List.count, List.countP_map, List.countP_eq_length_filter] at hcount
  exact decide_eq_true hcount

theorem SettingValue.text?_eq_some_iff (content : SettingValue) (text : String) :
    content.text? = some text ↔ content = .ofJson (.text text) := by
  cases content <;> simp [text?, ofJson]

theorem SettingValue.flag?_eq_some_iff (content : SettingValue) (flag : Bool) :
    content.flag? = some flag ↔ content = .ofJson (.bool flag) := by
  cases content <;> simp [flag?, ofJson]

theorem Settings.gives_iff {α : Type} {read : SettingValue → Option α} {write : α → Json}
    (hread : ∀ content value, read content = some value ↔ content = .ofJson (write value))
    {name : String} {value : α} (default : α)
    (hdefault : ∀ other, (name, write other) ∈ ({} : Options).entries ↔ other = default) :
    settings.Gives (name, write value) ↔ settings.getD? read name default = some value := by
  unfold Settings.Gives Settings.getD?
  cases settings.get? name with
  | none => simp [hdefault, eq_comm]
  | some setting =>
    cases hvalue : setting.value? with
    | none => simp [hvalue]
    | some content => simp [hvalue, hread]

theorem Options.ofSettings?_eq_some_iff : Options.ofSettings? settings = some options ↔
    (∀ name ∈ Options.names, settings.isUnique name = true) ∧
      ∀ option ∈ options.entries, settings.Gives option := by
  have htext := @Settings.gives_iff settings String _ _ SettingValue.text?_eq_some_iff
  have hflag := @Settings.gives_iff settings Bool _ _ SettingValue.flag?_eq_some_iff
  rw [Options.entries]
  simp only [List.forall_mem_cons]
  rw [htext ({} : Options).typesModule (by simp [Options.entries]),
    htext ({} : Options).requestModule (by simp [Options.entries]),
    htext ({} : Options).fallbackTag (by simp [Options.entries]),
    htext ({} : Options).fileExtension (by simp [Options.entries]),
    hflag ({} : Options).emitRequestContract (by simp [Options.entries]),
    hflag ({} : Options).strictNames (by simp [Options.entries])]
  unfold Options.ofSettings?
  simp only [Option.bind_eq_bind, Option.bind_eq_some_iff, Option.guard_eq_some', Option.pure_def,
    Option.some_inj]
  constructor
  · rintro ⟨-, hunique, _, htypes, _, hrequest, _, htag, _, hextension, _, hcontract, _, hstrict,
      rfl⟩
    exact ⟨List.all_eq_true.mp hunique, htypes, hrequest, htag, hextension, hcontract, hstrict,
      nofun⟩
  · rintro ⟨hunique, htypes, hrequest, htag, hextension, hcontract, hstrict, -⟩
    exact ⟨(), List.all_eq_true.mpr hunique, _, htypes, _, hrequest, _, htag, _, hextension, _,
      hcontract, _, hstrict, rfl⟩

theorem Config.ofSettings?_eq (settings : Settings) : Config.ofSettings? settings = do
    guard (Config.ownNames.all settings.isUnique)
    guard (settings.all fun (name, setting) =>
      Config.ownNames.contains name || setting.value?.isSome)
    let schemaPath ← (settings.get? "schema_path").bind (·.text?)
    let outputDir ← (settings.get? "output_dir").bind (·.text?)
    let templateDir ← settings.templateDir?
    let options ← Options.ofSettings? settings
    return ⟨schemaPath, outputDir, templateDir, options⟩ := by
  unfold Config.ofSettings? Settings.templateDir?
  cases settings.get? "template_dir" with
  | none => rfl
  | some setting => rfl

theorem Config.ofSettings?_eq_some_iff :
    Config.ofSettings? settings = some config ↔ config.IsReadFrom settings := by
  have hkind : (settings.all fun (name, setting) =>
      Config.ownNames.contains name || setting.value?.isSome) = true ↔
        ∀ entry ∈ settings, entry.1 ∈ Config.ownNames ∨ entry.2.value?.isSome = true := by
    simp
  rw [Config.ofSettings?_eq]
  simp only [Option.bind_eq_bind, Option.bind_eq_some_iff, Option.guard_eq_some', hkind,
    Options.ofSettings?_eq_some_iff, Option.pure_def, Option.some_inj]
  constructor
  · rintro ⟨-, hown, -, hkind, _, hschema, _, houtput, _, htemplate, _, ⟨hnames, hoptions⟩, rfl⟩
    exact {
      isUnique := List.forall_mem_append.mpr ⟨List.all_eq_true.mp hown, hnames⟩
      hasKind := hkind
      schemaPath := hschema
      outputDir := houtput
      templateDir := htemplate
      options := hoptions }
  · intro h
    obtain ⟨hown, hnames⟩ := List.forall_mem_append.mp h.isUnique
    exact ⟨(), List.all_eq_true.mpr hown, (), h.hasKind, _, h.schemaPath, _, h.outputDir, _,
      h.templateDir, _, ⟨hnames, h.options⟩, rfl⟩

end TypedClient
