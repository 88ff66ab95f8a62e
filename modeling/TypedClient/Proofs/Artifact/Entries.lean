import TypedClient.Proofs.Artifact.GivenNames
import TypedClient.Proofs.Files.FileNames

namespace TypedClient

namespace Options

variable {options : Options}

theorem not_blank_of_fault (h : options.fault? = none) :
    ∀ entry ∈ options.texts, Text.isBlank entry.2 = false := by
  unfold fault? at h
  split at h
  · cases h
  next hnone =>
    intro entry hentry
    simpa using List.find?_eq_none.mp hnone entry hentry

theorem ne_empty_of_fault (h : options.fault? = none) :
    options.typesModule ≠ "" ∧ options.requestModule ≠ "" ∧ options.fileExtension ≠ "" := by
  have hblank := not_blank_of_fault h
  simp only [texts, List.forall_mem_cons] at hblank
  obtain ⟨htypes, hrequest, -, hextension, -⟩ := hblank
  refine ⟨?_, ?_, ?_⟩
  · rintro he
    rw [he] at htypes
    exact absurd htypes (by decide)
  · rintro he
    rw [he] at hrequest
    exact absurd hrequest (by decide)
  · rintro he
    rw [he] at hextension
    exact absurd hextension (by decide)

theorem isFileName_artifactName (h : options.fault? = none) {stem : String} (hstem : stem ≠ "")
    (hslash : '/' ∉ stem.toList) (hextension : '/' ∉ options.fileExtension.toList) :
    Path.IsFileName (options.artifactName stem) := by
  obtain ⟨-, -, hne⟩ := ne_empty_of_fault h
  have hlist : (options.artifactName stem).toList =
      stem.toList ++ '.' :: options.fileExtension.toList := by
    simp [artifactName]
  have hlength : 3 ≤ (options.artifactName stem).toList.length := by
    have hfirst := List.length_pos_iff.mpr (show stem.toList ≠ [] by simpa using hstem)
    have hlast := List.length_pos_iff.mpr
      (show options.fileExtension.toList ≠ [] by simpa using hne)
    rw [hlist, List.length_append, List.length_cons]
    omega
  constructor
  · rintro he
    simp [he] at hlength
  · rw [hlist]
    simp [hslash, hextension]
  · rintro he
    simp [he] at hlength
  · rintro he
    simp [he] at hlength

structure IsConfined (options : Options) : Prop where
  typesModule : '/' ∉ options.typesModule.toList
  requestModule : '/' ∉ options.requestModule.toList
  fileExtension : '/' ∉ options.fileExtension.toList

end Options

namespace Artifact

open Naming (Allocator)

variable {options : Options} {run : Run} {groups : List TagGroup} {stems : List String}

theorem mem_right_of_forall₂ {α β : Type} {r : α → β → Prop} {xs : List α} {ys : List β}
    (h : List.Forall₂ r xs ys) (p : β → Prop) (hr : ∀ x y, r x y → p y) : ∀ y ∈ ys, p y := by
  induction h with
  | nil => simp
  | cons hfirst _ ih =>
    intro y hy
    rcases List.mem_cons.mp hy with rfl | hy
    · exact hr _ _ hfirst
    · exact ih y hy

theorem isStem_of_groupStems (h : groupStems options groups = .ok stems) :
    ∀ stem ∈ stems, Text.IsStem stem := by
  obtain ⟨next, hall⟩ := groupStems_eq_ok_iff.mp h
  obtain ⟨hnumbers, -, -⟩ := Allocator.allocateAll_ok hall
  rw [List.forall₂_map_left_iff] at hnumbers
  exact mem_right_of_forall₂ hnumbers Text.IsStem fun group stem =>
    Text.isStem_of_numbers (Text.isStem_fileStem _)

def IsContract (run : Run) (contract : Artifacts) : Prop :=
  if run.options.emitRequestContract then
    ∃ text, emitRequestContract run.templates run.banner = .ok text ∧
      contract = [(run.options.artifactName run.options.requestModule, text)]
  else contract = []

theorem IsContract.keys_eq {contract : Artifacts} (h : IsContract run contract) :
    Mapping.keys contract = if run.options.emitRequestContract then
      [run.options.artifactName run.options.requestModule] else [] := by
  unfold IsContract at h
  split at h
  next hwanted =>
    obtain ⟨text, -, rfl⟩ := h
    rw [if_pos hwanted]
    rfl
  next hwanted =>
    rw [h, if_neg hwanted]
    rfl

theorem IsContract.length {contract : Artifacts} (h : IsContract run contract) :
    contract.length = if run.options.emitRequestContract then 1 else 0 := by
  have hlength := congrArg List.length h.keys_eq
  unfold Mapping.keys at hlength
  rw [List.length_map] at hlength
  rw [hlength]
  split <;> rfl

theorem IsContract.keys {contract : Artifacts} (h : IsContract run contract) :
    ∀ file ∈ Mapping.keys contract, file = run.options.artifactName run.options.requestModule := by
  rw [h.keys_eq]
  split <;> simp

theorem IsContract.keys_cons {contract : Artifacts} (h : IsContract run contract) (types : String) :
    ∀ file ∈ Mapping.keys ((run.options.artifactName run.options.typesModule, types) :: contract),
      file = run.options.artifactName run.options.typesModule ∨
        file = run.options.artifactName run.options.requestModule := by
  intro file hfile
  rcases List.mem_cons.mp hfile with he | hfile
  · exact .inl he
  · exact .inr (h.keys file hfile)

theorem IsContract.nodup_keys {contract : Artifacts} (h : IsContract run contract) :
    (Mapping.keys contract).Nodup := by
  rw [h.keys_eq]
  split <;> simp

theorem sharedArtifacts_ok {shared : Artifacts} (h : sharedArtifacts run = .ok shared)
    (hmodules : run.options.typesModule ≠ run.options.requestModule) :
    ∃ types contract, emitTypes run.document run.names run.templates run.banner = .ok types ∧
      IsContract run contract ∧
      shared = (run.options.artifactName run.options.typesModule, types) :: contract := by
  obtain ⟨types, htypes, h⟩ := Outcome.bind_ok h
  dsimp only at h
  unfold IsContract
  cases hwanted : run.options.emitRequestContract with
  | false =>
    rw [hwanted] at h
    cases h
    exact ⟨types, [], htypes, rfl, rfl⟩
  | true =>
    rw [hwanted] at h
    obtain ⟨contract, hcontract, h⟩ := Outcome.bind_ok h
    have hfiles : run.options.artifactName run.options.requestModule ∉
        Mapping.keys [(run.options.artifactName run.options.typesModule, types)] := by
      intro hmem
      have he := List.mem_singleton.mp hmem
      exact hmodules (artifactName_injective run.options he).symm
    have hshared := Except.ok.inj h
    rw [Mapping.insert_new hfiles] at hshared
    exact ⟨types, _, htypes, ⟨contract, hcontract, rfl⟩, hshared.symm⟩

theorem groupArtifacts_forall₂ {rendered : List (String × String)}
    (hlength : stems.length = groups.length) (hstems : ∀ stem ∈ stems, Text.IsStem stem)
    (h : groupArtifacts run (groups.zip (stems.map run.options.artifactName)) = .ok rendered) :
    rendered.map (·.1) = stems.map run.options.artifactName ∧
      List.Forall₂ (fun group entry => ∃ stem, Text.IsStem stem ∧
        entry.1 = run.options.artifactName stem ∧ emitGroup run group entry.1 = .ok entry.2)
        groups rendered := by
  induction groups generalizing stems rendered with
  | nil =>
    obtain rfl := List.length_eq_zero_iff.mp hlength
    cases h
    exact ⟨rfl, .nil⟩
  | cons group groups ih =>
    cases stems with
    | nil => cases hlength
    | cons stem stems =>
      obtain ⟨text, htext, h⟩ := Outcome.bind_ok h
      obtain ⟨rest, hrest, h⟩ := Outcome.bind_ok h
      cases h
      obtain ⟨hfiles, hentries⟩ := ih (by simpa using hlength)
        (fun other hother => hstems other (List.mem_cons_of_mem _ hother)) hrest
      refine ⟨by simp [hfiles], .cons ?_ hentries⟩
      exact ⟨stem, hstems stem (by simp), rfl, htext⟩

theorem nodup_keys_shared {contract : Artifacts} (types : String)
    (hmodules : run.options.typesModule ≠ run.options.requestModule)
    (hcontract : IsContract run contract) :
    (Mapping.keys
      ((run.options.artifactName run.options.typesModule, types) :: contract)).Nodup := by
  apply List.nodup_cons.mpr
  refine ⟨?_, hcontract.nodup_keys⟩
  intro hmem
  exact hmodules (artifactName_injective run.options (hcontract.keys _ hmem))

theorem transform_appends {document : Document} {templates : TemplateSet} {artifacts : Artifacts}
    (h : transform document options templates = .ok artifacts) : options.fault? = none ∧
    ∃ names types contract stems clients,
      Naming.nameRegistry document.schemas.keys (options.artifactName options.typesModule)
        options.strictNames = .ok names ∧
      emitTypes document names templates (banner document) = .ok types ∧
      IsContract (runOf document names options templates) contract ∧
      groupStems options (document.tagGroups options.fallbackTag) = .ok stems ∧
      clients.map (·.1) = stems.map options.artifactName ∧
      List.Forall₂ (fun group entry => ∃ stem, Text.IsStem stem ∧
          entry.1 = options.artifactName stem ∧
          emitGroup (runOf document names options templates) group entry.1 = .ok entry.2)
        (document.tagGroups options.fallbackTag) clients ∧
      artifacts = (options.artifactName options.typesModule, types) :: (contract ++ clients) ∧
      (artifacts.map (·.1)).Nodup := by
  obtain ⟨hfault, names, shared, stems, rendered, hnames, hshared, hstems, hrendered, rfl⟩ :=
    transform_steps h
  obtain ⟨types, contract, htypes, hcontract, rfl⟩ := sharedArtifacts_ok hshared (modules_differ hfault)
  obtain ⟨hlength, hnodup, htypesModule, hrequestModule⟩ := groupStems_ok hstems
  obtain ⟨hfiles, hclients⟩ :=
    groupArtifacts_forall₂ hlength (isStem_of_groupStems hstems) hrendered
  have hnodupFiles : (rendered.map (·.1)).Nodup :=
    hfiles ▸ hnodup.map (artifactName_injective options)
  have hnew := not_mem_keys_shared (hcontract.keys_cons types) htypesModule hrequestModule
  rw [← hfiles] at hnew
  have happend := Mapping.foldl_insert_new hnodupFiles fun entry hentry =>
    hnew entry.1 (List.mem_map.mpr ⟨entry, hentry, rfl⟩)
  refine ⟨hfault, names, types, contract, stems, rendered, hnames, htypes, hcontract, hstems, hfiles,
    hclients, happend, ?_⟩
  rw [happend, List.map_append]
  apply List.nodup_append.mpr
  refine ⟨nodup_keys_shared types (modules_differ hfault) hcontract, hnodupFiles, ?_⟩
  rintro file hfile _ hmem rfl
  exact hnew file hmem hfile

theorem transform_laid_out {document : Document} {templates : TemplateSet} {artifacts : Artifacts}
    (h : transform document options templates = .ok artifacts) : options.fault? = none ∧
    ∃ names types contract clients,
      Naming.nameRegistry document.schemas.keys (options.artifactName options.typesModule)
        options.strictNames = .ok names ∧
      emitTypes document names templates (banner document) = .ok types ∧
      IsContract (runOf document names options templates) contract ∧
      List.Forall₂ (fun group entry => ∃ stem, Text.IsStem stem ∧
          entry.1 = options.artifactName stem ∧
          emitGroup (runOf document names options templates) group entry.1 = .ok entry.2)
        (document.tagGroups options.fallbackTag) clients ∧
      artifacts = (options.artifactName options.typesModule, types) :: (contract ++ clients) ∧
      (artifacts.map (·.1)).Nodup := by
  obtain ⟨hfault, names, types, contract, -, clients, hnames, htypes, hcontract, -, -, hclients,
    hartifacts, hnodup⟩ := transform_appends h
  exact ⟨hfault, names, types, contract, clients, hnames, htypes, hcontract, hclients, hartifacts,
    hnodup⟩

theorem files_of_transform {document : Document} {templates : TemplateSet} {artifacts : Artifacts}
    (h : transform document options templates = .ok artifacts) : ∃ stems,
      groupStems options (document.tagGroups options.fallbackTag) = .ok stems ∧
      artifacts.map (·.1) = options.artifactName options.typesModule ::
        ((if options.emitRequestContract then [options.artifactName options.requestModule] else []) ++
          stems.map options.artifactName) := by
  obtain ⟨-, names, types, contract, stems, clients, -, -, hcontract, hstems, hfiles, -, rfl, -⟩ :=
    transform_appends h
  have hkeys : contract.map (·.1) = if options.emitRequestContract then
      [options.artifactName options.requestModule] else [] := hcontract.keys_eq
  refine ⟨stems, hstems, ?_⟩
  rw [List.map_cons, List.map_append, hkeys, hfiles]

theorem isFileName_of_transform {document : Document} {templates : TemplateSet}
    {artifacts : Artifacts} (h : transform document options templates = .ok artifacts)
    (hconfined : options.IsConfined) : ∀ entry ∈ artifacts, Path.IsFileName entry.1 := by
  obtain ⟨hfault, names, types, contract, clients, -, -, hcontract, hclients, rfl, -⟩ :=
    transform_laid_out h
  obtain ⟨htypesModule, hrequestModule, -⟩ := Options.ne_empty_of_fault hfault
  obtain ⟨htypes, hrequest, hextension⟩ := hconfined
  intro entry hentry
  rcases List.mem_cons.mp hentry with rfl | hentry
  · exact Options.isFileName_artifactName hfault htypesModule htypes hextension
  rcases List.mem_append.mp hentry with hentry | hentry
  · rw [hcontract.keys entry.1 (List.mem_map.mpr ⟨entry, hentry, rfl⟩)]
    exact Options.isFileName_artifactName hfault hrequestModule hrequest hextension
  · refine mem_right_of_forall₂ hclients (fun client => Path.IsFileName client.1) ?_ entry hentry
    rintro group client ⟨stem, hstem, hfile, -⟩
    rw [hfile]
    exact Options.isFileName_artifactName hfault (by simpa using hstem.ne_nil) hstem.slash hextension

def writtenFiles? (raw : Json) (options : Options) : Option (List String) :=
  (Document.ofJson raw).toOption.bind fun document =>
    (transform document options .builtin).toOption.map fun artifacts => artifacts.map (·.1)

theorem exists_of_writtenFiles? {raw : Json} {files : List String}
    (h : writtenFiles? raw options = some files) : ∃ document artifacts,
      Document.ofJson raw = .ok document ∧ transform document options .builtin = .ok artifacts ∧
        artifacts.map (·.1) = files := by
  obtain ⟨document, hread, hrun⟩ := Option.bind_eq_some_iff.mp h
  obtain ⟨artifacts, hwritten, hfiles⟩ := Option.map_eq_some_iff.mp hrun
  exact ⟨document, artifacts, Outcome.ok_of_toOption hread, Outcome.ok_of_toOption hwritten, hfiles⟩

/-- Component types, the request contract where it is wanted, and one artifact for each group, each
in a file of its own. The files of the groups stay in the directory they are written to. -/
theorem entries_of_transform {document : Document} {templates : TemplateSet} {artifacts : Artifacts}
    (h : transform document options templates = .ok artifacts) :
    ∃ names types contract clients,
      Naming.nameRegistry document.schemas.keys (options.artifactName options.typesModule)
        options.strictNames = .ok names ∧
      emitTypes document names templates (banner document) = .ok types ∧
      (if options.emitRequestContract then
        ∃ text, emitRequestContract templates (banner document) = .ok text ∧
          contract = [(options.artifactName options.requestModule, text)]
      else contract = []) ∧
      List.Forall₂ (fun group entry => ∃ stem,
          (stem.toList ≠ [] ∧
            ∀ c ∈ stem.toList, Text.isAsciiAlphanumeric c = true ∨ c = '_' ∨ c = '-') ∧
          entry.1 = options.artifactName stem ∧
          emitGroup (runOf document names options templates) group entry.1 = .ok entry.2 ∧
          ('/' ∉ options.fileExtension.toList → Path.IsFileName entry.1 ∧ ∀ directory,
            Path.names (Path.join directory entry.1) = Path.names directory ++ [entry.1]))
        (document.tagGroups options.fallbackTag) clients ∧
      artifacts = (options.artifactName options.typesModule, types) :: (contract ++ clients) ∧
      (artifacts.map (·.1)).Nodup ∧
      artifacts.length = 1 + (if options.emitRequestContract then 1 else 0) +
        (document.tagGroups options.fallbackTag).length := by
  obtain ⟨hfault, names, types, contract, clients, hnames, htypes, hcontract, hclients, rfl, hnodup⟩ :=
    transform_laid_out h
  refine ⟨names, types, contract, clients, hnames, htypes, hcontract, ?_, rfl, hnodup, ?_⟩
  · apply hclients.imp
    rintro group entry ⟨stem, hstem, hfile, htext⟩
    refine ⟨stem, ⟨hstem.ne_nil, hstem.chars⟩, hfile, htext, ?_⟩
    intro hextension
    have hname : Path.IsFileName entry.1 := by
      rw [hfile]
      exact Options.isFileName_artifactName hfault (by simpa using hstem.ne_nil) hstem.slash
        hextension
    exact ⟨hname, Path.names_join hname⟩
  · have hcount : contract.length = if options.emitRequestContract then 1 else 0 := hcontract.length
    rw [List.length_cons, List.length_append, hcount, hclients.length_eq]
    omega

theorem entries_of_transform_clashing_tags :
    let tagged : String → Json := fun tag => .object [
      ("get", .object [("tags", .array [.text tag])])]
    let raw : Json := .object [("paths", .object [
      ("/a", tagged "../b"), ("/b", tagged "../B"), ("/c", tagged "Types")])]
    let files := ["types.ts", "request.ts", "___b.ts", "___B2.ts", "Types2.ts"]
    ∃ document artifacts, Document.ofJson raw = .ok document ∧
      transform document {} .builtin = .ok artifacts ∧ artifacts.map (·.1) = files ∧
      (artifacts.map (·.1)).Nodup ∧
      artifacts.length = 2 + (document.tagGroups "default").length := by
  intro tagged raw files
  have hfiles : ((Document.ofJson raw).toOption.bind fun document =>
      (transform document {} .builtin).toOption.map fun artifacts => artifacts.map (·.1)) =
        some files := by decide +kernel
  obtain ⟨document, hread, hrun⟩ := Option.bind_eq_some_iff.mp hfiles
  obtain ⟨artifacts, hwritten, hnames⟩ := Option.map_eq_some_iff.mp hrun
  have hdocument := Outcome.ok_of_toOption hread
  have hartifacts := Outcome.ok_of_toOption hwritten
  obtain ⟨-, -, -, -, -, -, -, -, -, hnodup, hlength⟩ := entries_of_transform hartifacts
  exact ⟨document, artifacts, hdocument, hartifacts, hnames, hnodup, hlength⟩

end Artifact

end TypedClient
