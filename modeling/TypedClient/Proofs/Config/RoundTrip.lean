import TypedClient.Generation
import TypedClient.Proofs.Config.Entries
import TypedClient.Proofs.Files.ReadBack
import TypedClient.Proofs.Generation

namespace TypedClient

variable {format : ConfigFormat} {config : Config} {options : Options} {store : Store}
  {path text name : String} {names : List String} {option entry : String × Json} {value : Json}
  {kept : List (String × Json)}

def Options.named (names : List String) (options : Options) (name : String) : Options :=
  if name ∈ names then options else {}

def Options.keeping (names : List String) (options : Options) : Options where
  typesModule := (options.named names "types_module").typesModule
  requestModule := (options.named names "request_module").requestModule
  fallbackTag := (options.named names "fallback_tag").fallbackTag
  fileExtension := (options.named names "file_extension").fileExtension
  emitRequestContract := (options.named names "emit_request_contract").emitRequestContract
  strictNames := (options.named names "strict_names").strictNames

def Config.keeping (names : List String) (config : Config) : Config where
  schemaPath := config.schemaPath
  outputDir := config.outputDir
  templateDir := if "template_dir" ∈ names then config.templateDir else none
  options := config.options.keeping names

theorem Config.keeping_names (config : Config) : config.keeping Config.names = config :=
  rfl

theorem Options.mem_entries_keeping (h : option ∈ (options.keeping names).entries) :
    option ∈ (options.named names option.1).entries := by
  revert option
  simp only [keeping, entries, List.forall_mem_cons]
  simp

theorem Options.ne_null (options : Options) : ∀ option ∈ options.entries, option.2 ≠ .null := by
  simp [entries]

namespace Config

theorem isFlat_entries (config : Config) : ∀ entry ∈ config.entries, entry.2.isFlat = true := by
  obtain ⟨_, _, templateDir, _⟩ := config
  cases templateDir <;> simp [entries, Options.entries, Json.isFlat]

theorem mem_names_of_mem_entries (h : entry ∈ config.entries) :
    entry.1 ∈ Config.names :=
  List.mem_map_of_mem h

theorem nodup_entries (config : Config) : (config.entries.map (·.1)).Nodup :=
  names_nodup

theorem mem_kept (hkept : kept ⊆ config.entries) (hentry : entry ∈ config.entries)
    (hname : entry.1 ∈ kept.map (·.1)) : entry ∈ kept := by
  obtain ⟨other, hother, hsame⟩ := List.mem_map.mp hname
  obtain rfl := List.inj_on_of_nodup_map config.nodup_entries (hkept hother) hentry hsame
  exact hother

theorem get?_kept (format : ConfigFormat) (hkept : kept ⊆ config.entries)
    (hnodup : (kept.map (·.1)).Nodup) (hname : name ∈ kept.map (·.1))
    (hentry : (name, value) ∈ config.entries) (hvalue : value ≠ .null) :
    ∃ setting, (writtenSettings format kept).get? name = some setting ∧ setting.Holds value := by
  have hmem := mem_kept hkept hentry hname
  have hget := get?_writtenSettings format hnodup hmem
  rcases setting?_cases format (config.isFlat_entries _ hentry) with
    ⟨setting, hsetting, hholds⟩ | ⟨hnull, -⟩
  · exact ⟨setting, hget.trans hsetting, hholds⟩
  · exact absurd hnull hvalue

theorem text?_kept (format : ConfigFormat) (hkept : kept ⊆ config.entries)
    (hnodup : (kept.map (·.1)).Nodup) (hname : name ∈ kept.map (·.1))
    (hentry : (name, Json.text text) ∈ config.entries) :
    ∃ setting, (writtenSettings format kept).get? name = some setting ∧
      setting.text? = some text := by
  obtain ⟨setting, hget, hholds⟩ := get?_kept format hkept hnodup hname hentry nofun
  exact ⟨setting, hget, (hholds.text text rfl).1⟩

theorem templateDir?_kept (format : ConfigFormat) (hkept : kept ⊆ config.entries)
    (hnodup : (kept.map (·.1)).Nodup) : (writtenSettings format kept).templateDir? =
      some (if "template_dir" ∈ kept.map (·.1) then config.templateDir else none) := by
  unfold Settings.templateDir?
  by_cases hname : "template_dir" ∈ kept.map (·.1)
  · rw [if_pos hname]
    have hentry : ("template_dir", config.templateDir.elim .null .text) ∈ config.entries := by
      simp [entries]
    cases hdir : config.templateDir with
    | none =>
      -- a null, which is not written in TOML
      rw [hdir] at hentry
      have hget := get?_writtenSettings format hnodup (mem_kept hkept hentry hname)
      rw [hget]
      rcases setting?_cases format (config.isFlat_entries _ hentry) with
        ⟨setting, hsetting, hholds⟩ | ⟨-, hsetting⟩
      · rw [hsetting]
        exact hholds.null rfl
      · rw [hsetting]
    | some directory =>
      rw [hdir] at hentry
      obtain ⟨setting, hget, hholds⟩ := get?_kept format hkept hnodup hname hentry nofun
      rw [hget]
      exact (hholds.text directory rfl).2
  · rw [if_neg hname, get?_writtenSettings_of_notMem format hname]

theorem gives_kept (format : ConfigFormat) (hkept : kept ⊆ config.entries)
    (hnodup : (kept.map (·.1)).Nodup)
    (h : option ∈ (config.options.keeping (kept.map (·.1))).entries) :
    (writtenSettings format kept).Gives option := by
  have hoption := Options.mem_entries_keeping h
  unfold Settings.Gives
  by_cases hname : option.1 ∈ kept.map (·.1)
  · rw [Options.named, if_pos hname] at hoption
    obtain ⟨setting, hget, hholds⟩ := get?_kept format hkept hnodup hname
      (List.mem_append_right _ hoption) (config.options.ne_null option hoption)
    rw [hget]
    exact hholds.value?
  · rw [Options.named, if_neg hname] at hoption
    rw [get?_writtenSettings_of_notMem format hname]
    exact hoption

theorem isReadFrom_writtenSettings (format : ConfigFormat) (hkept : kept ⊆ config.entries)
    (hnodup : (kept.map (·.1)).Nodup) (hschema : "schema_path" ∈ kept.map (·.1))
    (houtput : "output_dir" ∈ kept.map (·.1)) :
    (config.keeping (kept.map (·.1))).IsReadFrom (writtenSettings format kept) where
  isUnique := fun name _ =>
    Settings.isUnique_of_nodup (nodup_writtenSettings format hnodup) name
  hasKind := by
    intro written hwritten
    obtain ⟨entry, hmem, -, hsetting⟩ := mem_writtenSettings hwritten
    rcases setting?_cases format (config.isFlat_entries entry (hkept hmem)) with
      ⟨setting, hsetting', hholds⟩ | ⟨-, hnone⟩
    · obtain rfl := Option.some.inj (hsetting'.symm.trans hsetting)
      exact .inr (by rw [hholds.value?]; rfl)
    · cases hnone.symm.trans hsetting
  schemaPath := text?_kept format hkept hnodup hschema (by simp [entries, keeping])
  outputDir := text?_kept format hkept hnodup houtput (by simp [entries, keeping])
  templateDir := templateDir?_kept format hkept hnodup
  options := fun _ hoption => gives_kept format hkept hnodup hoption

theorem parse?_printEntries (format : ConfigFormat) (hkept : kept ⊆ config.entries)
    (hnodup : (kept.map (·.1)).Nodup) (hschema : "schema_path" ∈ kept.map (·.1))
    (houtput : "output_dir" ∈ kept.map (·.1)) :
    parse? format (printEntries format kept) = some (config.keeping (kept.map (·.1))) := by
  have hsettings := settings?_printEntries format
    (fun entry hmem => mem_names_of_mem_entries (hkept hmem)) hnodup
    (fun entry hmem => config.isFlat_entries entry (hkept hmem))
    (fun hnil => by rw [hnil] at hschema; cases hschema)
  rw [parse?, hsettings]
  exact ofSettings?_eq_some_iff.mpr
    (isReadFrom_writtenSettings format hkept hnodup hschema houtput)

theorem parse?_print (format : ConfigFormat) (config : Config) :
    parse? format (config.print format) = some config := by
  have hall := parse?_printEntries format (List.Subset.refl config.entries) config.nodup_entries
    (by decide : "schema_path" ∈ Config.names) (by decide : "output_dir" ∈ Config.names)
  rwa [map_fst_entries, keeping_names, ← print_eq] at hall

theorem runOn_save (config : Config) (path : String) (store : Store) :
    runOn (save config path) store =
      (if store.accepts path then .ok () else .error .io,
        (store.writeText path (config.print (formatOf path))).2) := by
  have hrun : (MonadFiles.writeText path (config.print (formatOf path)) : StateM Store Bool).run
      store = store.writeText path (config.print (formatOf path)) := rfl
  rw [save, runOn_bind, runOn_lift, hrun, Store.writeText_fst]
  cases store.accepts path with
  | false => rfl
  | true => rfl

theorem runOn_load (path : String) (store : Store) :
    runOn (load path) store =
      (match store.readText? path with
        | none => .error .io
        | some text =>
          match parse? (formatOf path) text with
          | some config => .ok config
          | none => .error (.unreadableConfig (formatOf path)), store) := by
  have hrun : (MonadFiles.readText? path : StateM Store (Option String)).run store =
      (store.readText? path, store) := rfl
  rw [load, runOn_bind, runOn_lift, hrun]
  cases store.readText? path with
  | none => rfl
  | some text =>
    dsimp only
    cases parse? (formatOf path) text with
    | none => rfl
    | some config => rfl

theorem runOn_load_iff (h : store.readText? path = some text) :
    runOn (load path) store = (.ok config, store) ↔ parse? (formatOf path) text = some config := by
  rw [runOn_load, h]
  cases hparse : parse? (formatOf path) text with
  | none => simp [hparse]
  | some found => simp [hparse]

/-- A configuration that has been saved is loaded as it was, in every format and whatever its texts
are. A file of some of its settings, in any order, is loaded with the defaults of the others, and a
file is loaded exactly as a configuration that its settings are read as. -/
theorem load_save_and_defaults :
    (∀ (config : Config) (path : String) (store : Store),
      (runOn (save config path) store).1 = .ok () →
        runOn (load path) (runOn (save config path) store).2 =
          (.ok config, (runOn (save config path) store).2)) ∧
    (∀ (config : Config) (kept : List (String × Json)) (path : String) (store : Store),
      kept ⊆ config.entries → (kept.map (·.1)).Nodup → "schema_path" ∈ kept.map (·.1) →
      "output_dir" ∈ kept.map (·.1) →
      store.readText? path = some (printEntries (formatOf path) kept) →
        runOn (load path) store = (.ok (config.keeping (kept.map (·.1))), store)) ∧
    (∀ (config : Config) (path text : String) (store : Store), store.readText? path = some text →
      (runOn (load path) store = (.ok config, store) ↔
        ∃ settings, settings? (formatOf path) text = some settings ∧ config.IsReadFrom settings)) := by
  refine ⟨?_, ?_, ?_⟩
  · intro config path store hsave
    have haccepts : store.accepts path = true := by
      by_contra hrefused
      rw [runOn_save, if_neg hrefused] at hsave
      cases hsave
    rw [runOn_save]
    have hread := Store.readText?_writeText haccepts (config.print (formatOf path))
    exact (runOn_load_iff hread).mpr (parse?_print (formatOf path) config)
  · intro config kept path store hkept hnodup hschema houtput hread
    exact (runOn_load_iff hread).mpr
      (parse?_printEntries (formatOf path) hkept hnodup hschema houtput)
  · intro config path text store hread
    rw [runOn_load_iff hread, parse?, Option.bind_eq_some_iff]
    simp only [ofSettings?_eq_some_iff]

theorem load_save_and_defaults_null :
    let config : Config := ⟨"null", "~\n ", some "", { fallbackTag := "~", strictNames := true }⟩
    let kept := [
      ("output_dir", Json.text "~\n "), ("strict_names", .bool true), ("schema_path", .text "null")]
    let text := printEntries (formatOf "client.yaml") kept
    let store := (Store.empty.writeText "client.yaml" text).2
    (runOn (save config "client.yaml") .empty).1 = .ok () ∧
      runOn (load "client.yaml") (runOn (save config "client.yaml") .empty).2 =
        (.ok config, (runOn (save config "client.yaml") .empty).2) ∧
      store.readText? "client.yaml" = some text ∧
      runOn (load "client.yaml") store =
        (.ok ⟨"null", "~\n ", none, { strictNames := true }⟩, store) ∧
      ∃ settings, settings? (formatOf "client.yaml") text = some settings ∧
        (⟨"null", "~\n ", none, { strictNames := true }⟩ : Config).IsReadFrom settings := by
  intro config kept text store
  have hsaved : (runOn (save config "client.yaml") Store.empty).1 = .ok () := by
    rw [runOn_save, if_pos (by decide)]
  have hread : store.readText? "client.yaml" = some text :=
    Store.readText?_writeText (by decide) text
  have hkept : kept ⊆ config.entries := by
    simp [kept, config, entries, Options.entries]
  have hload := load_save_and_defaults.2.1 config kept "client.yaml" store hkept (by decide)
    (by decide) (by decide) hread
  exact ⟨hsaved, load_save_and_defaults.1 config "client.yaml" .empty hsaved, hread, hload,
    (load_save_and_defaults.2.2 _ "client.yaml" text store hread).mp hload⟩

end Config

end TypedClient
