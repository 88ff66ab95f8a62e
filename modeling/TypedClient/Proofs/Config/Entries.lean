import Mathlib.Data.List.Nodup
import TypedClient.Config.Format
import TypedClient.Proofs.Config.Settings
import TypedClient.Proofs.Json.ReadBack
import TypedClient.Proofs.Outcome
import TypedClient.Proofs.Toml.Lines
import TypedClient.Proofs.Yaml.Document

namespace TypedClient

structure Setting.Holds (setting : Setting) (value : Json) : Prop where
  value? : setting.value? = some (.ofJson value)
  text : ∀ text, value = .text text →
    setting.text? = some text ∧ setting.optionalText? = some (some text)
  null : value = .null → setting.optionalText? = some none

variable {text : String}

theorem Setting.holds_ofJson (value : Json) : (Setting.ofJson value).Holds value where
  value? := rfl
  text := by
    rintro text rfl
    exact ⟨rfl, rfl⟩
  null := by
    rintro rfl
    rfl

theorem Setting.holds_text {setting : Setting} (htext : setting.text? = some text)
    (hoptional : setting.optionalText? = some (some text))
    (hvalue : setting.value? = some (.text text)) : setting.Holds (.text text) where
  value? := hvalue
  text := by
    rintro other h
    cases h
    exact ⟨htext, hoptional⟩
  null := nofun

theorem Setting.holds_ofYaml (text : String) :
    (Setting.ofYaml (.scalar none (Yaml.isWrittenPlain text) text)).Holds (.text text) := by
  cases hplain : Yaml.isWrittenPlain text with
  | false => exact holds_text rfl rfl rfl
  | true =>
    rw [Yaml.isWrittenPlain, Bool.and_eq_true, Bool.and_eq_true] at hplain
    obtain ⟨hfull, hvalue⟩ := Yaml.plainValue?_of_isReadAsText hplain.2.1
    refine holds_text rfl ?_ ?_
    · show (if (text.isEmpty || Yaml.isNull text) = true then _ else _) = _
      rw [hfull]
      rfl
    · show (Yaml.plainValue? text).map _ = _
      rw [hvalue]
      rfl

namespace Config

def printEntries (format : ConfigFormat) (entries : List (String × Json)) : String :=
  match format with
  | .toml => Toml.lines entries
  | .json => (Json.object entries).pretty
  | .yaml => Yaml.lines entries

theorem print_eq (format : ConfigFormat) (config : Config) :
    config.print format = printEntries format config.entries := by
  cases format <;> rfl

def setting? (format : ConfigFormat) (entry : String × Json) : Option Setting :=
  match format with
  | .toml => (Toml.written? entry).map fun written => .ofToml written.2
  | .json => some (.ofJson entry.2)
  | .yaml => (Yaml.written? entry).map fun written => .ofYaml written.2

def writtenSettings (format : ConfigFormat) (entries : List (String × Json)) : Settings :=
  entries.filterMap fun entry => (setting? format entry).map (entry.1, ·)

variable {format : ConfigFormat} {name : String} {entry : String × Json}
  {entries : List (String × Json)}

theorem setting?_cases (format : ConfigFormat) (hflat : entry.2.isFlat = true) :
    (∃ setting, setting? format entry = some setting ∧ setting.Holds entry.2) ∨
      entry.2 = .null ∧ setting? format entry = none := by
  obtain ⟨name, value⟩ := entry
  cases format with
  | toml =>
    match value, hflat with
    | .null, _ => exact .inr ⟨rfl, rfl⟩
    | .bool flag, _ => exact .inl ⟨_, rfl, rfl, nofun, nofun⟩
    | .text text, _ => exact .inl ⟨_, rfl, Setting.holds_text rfl rfl rfl⟩
  | json => exact .inl ⟨_, rfl, Setting.holds_ofJson value⟩
  | yaml =>
    match value, hflat with
    | .null, _ => exact .inl ⟨_, rfl, rfl, nofun, fun _ => rfl⟩
    | .bool flag, _ => exact .inl ⟨_, rfl, by cases flag <;> rfl, nofun, nofun⟩
    | .text text, _ => exact .inl ⟨_, rfl, Setting.holds_ofYaml text⟩

theorem settings?_toml (hnames : ∀ entry ∈ entries, IsName entry.1.toList)
    (hnodup : (entries.map (·.1)).Nodup) : settings? .toml (printEntries .toml entries) =
      some (writtenSettings .toml entries) := by
  show (Toml.entries? (Toml.lines entries)).map _ = _
  rw [Toml.entries?_lines hnames hnodup, Option.map_some, List.map_filterMap]
  congr 2
  funext ⟨name, value⟩
  cases value <;> rfl

theorem settings?_json (hflat : ∀ entry ∈ entries, entry.2.isFlat = true) :
    settings? .json (printEntries .json entries) =
      some (writtenSettings .json entries) := by
  show (Json.parseRepeated? (Json.object entries).pretty).bind _ = _
  rw [Json.parseRepeated?_pretty hflat]
  exact congrArg some (congrFun List.filterMap_eq_map' entries).symm

theorem exists_written? (hflat : entry.2.isFlat = true) :
    ∃ written, Yaml.written? entry = some written := by
  obtain ⟨name, value⟩ := entry
  match value, hflat with
  | .null, _ => exact ⟨_, rfl⟩
  | .bool flag, _ => exact ⟨_, rfl⟩
  | .text text, _ => exact ⟨_, rfl⟩

theorem settings?_yaml (hnames : ∀ entry ∈ entries, IsName entry.1.toList)
    (hlength : ∀ entry ∈ entries, entry.1.toList.length ≤ Yaml.Scanner.longestKey)
    (hflat : ∀ entry ∈ entries, entry.2.isFlat = true) (hne : entries ≠ []) :
    settings? .yaml (printEntries .yaml entries) =
      some (writtenSettings .yaml entries) := by
  have hwritten : entries.filterMap Yaml.written? ≠ [] := by
    obtain ⟨entry, rest, rfl⟩ := List.exists_cons_of_ne_nil hne
    obtain ⟨written, hentry⟩ := exists_written? (hflat entry List.mem_cons_self)
    rw [List.filterMap_cons_some hentry]
    exact List.cons_ne_nil written _
  show (Yaml.tree? (Yaml.lines entries)).bind _ = _
  rw [Yaml.tree?_lines hnames hlength hwritten]
  show ((entries.filterMap Yaml.written?).map _).mapM _ = _
  rw [List.mapM_map]
  have hread : (fun written : String × Yaml.Tree => do
      return (← (Yaml.Tree.scalar none true written.1).key?, Setting.ofYaml written.2)) =
        fun written => pure (f := Option) (written.1, Setting.ofYaml written.2) := rfl
  refine (congrArg (List.mapM · _) hread).trans ?_
  rw [List.mapM_pure, List.map_filterMap]
  refine congrArg some (congrArg (List.filterMap · entries) ?_)
  funext ⟨name, value⟩
  cases value <;> rfl

theorem settings?_printEntries (format : ConfigFormat) (hnames : ∀ entry ∈ entries, entry.1 ∈ names)
    (hnodup : (entries.map (·.1)).Nodup) (hflat : ∀ entry ∈ entries, entry.2.isFlat = true)
    (hne : entries ≠ []) :
    settings? format (printEntries format entries) =
      some (writtenSettings format entries) := by
  have hwords : ∀ entry ∈ entries, IsName entry.1.toList := fun entry hmem =>
    isName_of_mem entry.1 (hnames entry hmem)
  have hshort : ∀ name ∈ names, name.toList.length ≤ Yaml.Scanner.longestKey := by decide
  cases format with
  | toml => exact settings?_toml hwords hnodup
  | json => exact settings?_json hflat
  | yaml =>
    have hlength : ∀ entry ∈ entries, entry.1.toList.length ≤ Yaml.Scanner.longestKey :=
      fun entry hmem => hshort entry.1 (hnames entry hmem)
    exact settings?_yaml hwords hlength hflat hne

theorem writtenSettings_cons (format : ConfigFormat) (entry : String × Json)
    (entries : List (String × Json)) : writtenSettings format (entry :: entries) =
      ((setting? format entry).map (entry.1, ·)).toList ++ writtenSettings format entries := by
  unfold writtenSettings
  cases hsetting : setting? format entry with
  | none => rw [List.filterMap_cons_none (by rw [hsetting]; rfl)]; rfl
  | some setting => rw [List.filterMap_cons_some (by rw [hsetting]; rfl)]; rfl

theorem mem_writtenSettings {written : String × Setting}
    (h : written ∈ writtenSettings format entries) :
    ∃ entry ∈ entries, entry.1 = written.1 ∧ setting? format entry = some written.2 := by
  obtain ⟨entry, hmem, hwritten⟩ := List.mem_filterMap.mp h
  obtain ⟨setting, hsetting, rfl⟩ := Option.map_eq_some_iff.mp hwritten
  exact ⟨entry, hmem, rfl, hsetting⟩

theorem nodup_writtenSettings (format : ConfigFormat) (hnodup : (entries.map (·.1)).Nodup) :
    ((writtenSettings format entries).map (·.1)).Nodup := by
  refine hnodup.sublist ?_
  clear hnodup
  induction entries with
  | nil => exact .slnil
  | cons entry entries ih =>
    rw [writtenSettings_cons]
    cases setting? format entry with
    | none => exact ih.cons entry.1
    | some setting => exact ih.cons_cons entry.1

theorem get?_writtenSettings_of_notMem (format : ConfigFormat) (h : name ∉ entries.map (·.1)) :
    (writtenSettings format entries).get? name = none := by
  cases hget : (writtenSettings format entries).get? name with
  | none => rfl
  | some setting =>
    obtain ⟨entry, hmem, rfl, -⟩ := mem_writtenSettings (Mapping.mem_of_get? hget)
    exact absurd (List.mem_map_of_mem hmem) h

theorem get?_writtenSettings (format : ConfigFormat) (hnodup : (entries.map (·.1)).Nodup)
    (hmem : entry ∈ entries) :
    (writtenSettings format entries).get? entry.1 = setting? format entry := by
  cases hsetting : setting? format entry with
  | some setting =>
    refine Mapping.get?_of_mem (nodup_writtenSettings format hnodup) ?_
    exact List.mem_filterMap.mpr ⟨entry, hmem, by rw [hsetting]; rfl⟩
  | none =>
    cases hget : (writtenSettings format entries).get? entry.1 with
    | none => rfl
    | some setting =>
      -- a setting of this name would come from an entry of this name, and there is only one
      obtain ⟨other, hother, hname, hsetting'⟩ := mem_writtenSettings (Mapping.mem_of_get? hget)
      obtain rfl := List.inj_on_of_nodup_map hnodup hother hmem hname
      cases hsetting.symm.trans hsetting'

end Config

end TypedClient
