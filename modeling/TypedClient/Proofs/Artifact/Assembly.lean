import TypedClient.Artifact.Transform
import TypedClient.Proofs.Artifact.Layout
import TypedClient.Proofs.Naming.Freshness

namespace TypedClient

structure GroupClient where
  group : TagGroup
  file : String
  signatures : List Signature
  declarations : List Declaration

namespace Artifact

variable {options : Options}

def runOf (document : Document) (names : Naming.RegistryNames) (options : Options)
    (templates : TemplateSet) : Run :=
  ⟨document, names, options, templates, banner document⟩

def builtinRun (document : Document) (names : Naming.RegistryNames) (options : Options) : Run :=
  ⟨document, names, options, .builtin, banner document⟩

def clientText (run : Run) (client : GroupClient) : String :=
  groupText run.options run.banner (factoryName client.group.tag)
    (client.declarations.map (·.text)) (client.signatures.map (·.callable))

def contractArtifacts (run : Run) : Artifacts :=
  if run.options.emitRequestContract then
    [(run.options.artifactName run.options.requestModule, requestText run.banner)]
  else []

def assembled (run : Run) (clients : List GroupClient) : Artifacts :=
  (run.options.artifactName run.options.typesModule,
      typesText run.banner ((componentDeclarations run.document run.names).map (·.text))) ::
    (contractArtifacts run ++ clients.map fun client => (client.file, clientText run client))

structure HasClients (run : Run) (clients : List GroupClient) : Prop where
  groups : clients.map (·.group) = run.document.tagGroups run.options.fallbackTag
  content : ∀ client ∈ clients, groupContent run client.group client.file =
    .ok (client.signatures, client.declarations)

theorem componentDeclarations_forall₂ {document : Document} {names : Naming.RegistryNames}
    (h : names.keys = document.schemas.keys) :
    List.Forall₂
      (fun component declaration => names.get? component.1 = some declaration.name ∧
        declaration.type = Synthesis.typeOf ⟨document, names, .global⟩ component.2)
      document.schemas (componentDeclarations document names) := by
  have hall : ∀ component ∈ document.schemas, ∃ name, names.get? component.1 = some name :=
    fun component hmem => Mapping.get?_of_mem_keys (h ▸ List.mem_map.mpr ⟨component, hmem, rfl⟩)
  unfold componentDeclarations
  generalize document.schemas = components at hall
  induction components with
  | nil => exact .nil
  | cons component components ih =>
    obtain ⟨key, schema⟩ := component
    obtain ⟨name, hname⟩ := hall (key, schema) (by simp)
    have hrest := ih fun component hmem => hall component (List.mem_cons_of_mem _ hmem)
    rw [List.filterMap_cons]
    simp only [hname, Option.map_some]
    exact .cons ⟨hname, rfl⟩ hrest

theorem artifactName_injective (options : Options) :
    Function.Injective options.artifactName := by
  intro stem other h
  have hlists := congrArg String.toList h
  simp only [Options.artifactName, String.toList_append, List.append_assoc] at hlists
  exact String.toList_inj.mp (List.append_cancel_right hlists)

theorem modules_differ (h : options.fault? = none) : options.typesModule ≠ options.requestModule := by
  unfold Options.fault? at h
  split at h
  · cases h
  · split at h
    · cases h
    next hne => exact hne

theorem groupStems_ok {groups : List TagGroup} {stems : List String}
    (h : groupStems options groups = .ok stems) :
    stems.length = groups.length ∧ stems.Nodup ∧ options.typesModule ∉ stems ∧
      options.requestModule ∉ stems := by
  obtain ⟨⟨names, final⟩, hall, hreturn⟩ := Outcome.bind_ok h
  cases hreturn
  obtain ⟨hnumbers, hnodup, hnew⟩ := Naming.Allocator.allocateAll_ok hall
  refine ⟨?_, hnodup.of_map, ?_, ?_⟩
  · simpa using hnumbers.length_eq.symm
  · intro hmem
    apply hnew _ hmem
    rw [Naming.Allocator.mem_taken_reserve, Naming.Allocator.mem_taken_reserve]
    exact .inr (.inl rfl)
  · intro hmem
    apply hnew _ hmem
    rw [Naming.Allocator.mem_taken_reserve]
    exact .inl rfl

theorem groupArtifacts_ok (run : Run) (hrun : run.templates = .builtin) {targets : List (TagGroup × String)}
    {rendered : List (String × String)} (h : groupArtifacts run targets = .ok rendered) :
    ∃ clients : List GroupClient,
      clients.map (fun client => (client.group, client.file)) = targets ∧
      (∀ client ∈ clients, groupContent run client.group client.file =
        .ok (client.signatures, client.declarations)) ∧
      rendered = clients.map fun client => (client.file, clientText run client) := by
  induction targets generalizing rendered with
  | nil =>
    cases h
    exact ⟨[], rfl, by simp, rfl⟩
  | cons target targets ih =>
    obtain ⟨group, file⟩ := target
    rw [groupArtifacts] at h
    obtain ⟨text, htext, h⟩ := Outcome.bind_ok h
    obtain ⟨rest, hrest, h⟩ := Outcome.bind_ok h
    cases h
    obtain ⟨clients, htargets, hcontent, rfl⟩ := ih hrest
    rw [emitGroup_builtin run hrun] at htext
    cases hgroup : groupContent run group file with
    | error clash =>
      rw [hgroup] at htext
      cases htext
    | ok content =>
      obtain ⟨signatures, declarations⟩ := content
      rw [hgroup] at htext
      let first : GroupClient := ⟨group, file, signatures, declarations⟩
      have hwritten : clientText run first = text := Except.ok.inj htext
      rw [← hwritten]
      refine ⟨first :: clients, by simp [first, htargets], ?_, rfl⟩
      intro client hclient
      rcases List.mem_cons.mp hclient with rfl | hclient
      · exact hgroup
      · exact hcontent client hclient

theorem map_targets {clients : List GroupClient} {groups : List TagGroup} {files : List String}
    (hlength : files.length = groups.length)
    (h : clients.map (fun client => (client.group, client.file)) = groups.zip files) :
    clients.map (·.group) = groups ∧ clients.map (·.file) = files := by
  have hgroups := congrArg (List.map Prod.fst) h
  have hfiles := congrArg (List.map Prod.snd) h
  rw [List.map_map, List.map_fst_zip (by simp [hlength])] at hgroups
  rw [List.map_map, List.map_snd_zip (by simp [hlength])] at hfiles
  exact ⟨hgroups, hfiles⟩

theorem mem_keys_shared (run : Run) (text : String) :
    ∀ file ∈ Mapping.keys ((run.options.artifactName run.options.typesModule, text) ::
      contractArtifacts run), file = run.options.artifactName run.options.typesModule ∨
        file = run.options.artifactName run.options.requestModule := by
  intro file h
  rcases List.mem_cons.mp h with h | h
  · exact .inl h
  · unfold contractArtifacts at h
    split at h
    · exact .inr (List.mem_singleton.mp h)
    · cases h

theorem not_mem_keys_shared {shared : Artifacts} {stems : List String}
    (hshared : ∀ file ∈ Mapping.keys shared, file = options.artifactName options.typesModule ∨
      file = options.artifactName options.requestModule)
    (htypes : options.typesModule ∉ stems) (hrequest : options.requestModule ∉ stems) :
    ∀ file ∈ stems.map options.artifactName, file ∉ Mapping.keys shared := by
  intro file hfile hmem
  obtain ⟨stem, hstem, he⟩ := List.mem_map.mp hfile
  rcases hshared file hmem with hkey | hkey
  · obtain rfl := artifactName_injective options (he.trans hkey)
    exact htypes hstem
  · obtain rfl := artifactName_injective options (he.trans hkey)
    exact hrequest hstem

theorem sharedArtifacts_builtin (run : Run) (hrun : run.templates = .builtin)
    (hmodules : run.options.typesModule ≠ run.options.requestModule) :
    sharedArtifacts run = .ok ((run.options.artifactName run.options.typesModule,
      typesText run.banner ((componentDeclarations run.document run.names).map (·.text))) ::
        contractArtifacts run) := by
  have hfiles : run.options.artifactName run.options.typesModule ≠
      run.options.artifactName run.options.requestModule :=
    fun h => hmodules (artifactName_injective _ h)
  unfold sharedArtifacts contractArtifacts
  rw [hrun, emitTypes_builtin]
  cases run.options.emitRequestContract with
  | false => rfl
  | true =>
    simp only [bind, Except.bind, if_true, emitRequestContract_builtin, pure, Except.pure]
    rw [Mapping.insert_new (by simpa [Mapping.keys] using Ne.symm hfiles)]
    rfl

theorem transform_steps {document : Document} {templates : TemplateSet} {artifacts : Artifacts}
    (h : transform document options templates = .ok artifacts) :
    options.fault? = none ∧ ∃ names shared stems rendered,
      Naming.nameRegistry document.schemas.keys (options.artifactName options.typesModule)
        options.strictNames = .ok names ∧
      sharedArtifacts (runOf document names options templates) = .ok shared ∧
      groupStems options (document.tagGroups options.fallbackTag) = .ok stems ∧
      groupArtifacts (runOf document names options templates)
        ((document.tagGroups options.fallbackTag).zip (stems.map options.artifactName)) =
          .ok rendered ∧
      artifacts = rendered.foldl (fun artifacts entry => artifacts.insert entry.1 entry.2) shared := by
  unfold transform at h
  cases hfault : options.fault? with
  | some fault =>
    rw [hfault] at h
    cases h
  | none =>
    rw [hfault] at h
    obtain ⟨names, hnames, h⟩ := Outcome.bind_ok h
    obtain ⟨shared, hshared, h⟩ := Outcome.bind_ok h
    obtain ⟨stems, hstems, h⟩ := Outcome.bind_ok h
    obtain ⟨rendered, hrendered, h⟩ := Outcome.bind_ok h
    exact ⟨rfl, names, shared, stems, rendered, Outcome.mapError_ok hnames, hshared,
      Outcome.mapError_ok hstems, hrendered, (Except.ok.inj h).symm⟩

theorem transform_ok {document : Document} {artifacts : Artifacts}
    (h : transform document options .builtin = .ok artifacts) :
    options.fault? = none ∧ ∃ names clients,
      Naming.nameRegistry document.schemas.keys (options.artifactName options.typesModule)
        options.strictNames = .ok names ∧
      HasClients (builtinRun document names options) clients ∧
      artifacts = assembled (builtinRun document names options) clients := by
  obtain ⟨hfault, names, shared, stems, rendered, hnames, hshared, hstems, hrendered, rfl⟩ :=
    transform_steps h
  let run := builtinRun document names options
  have hbuilt := sharedArtifacts_builtin run rfl (modules_differ hfault)
  obtain rfl := Except.ok.inj (hbuilt.symm.trans hshared)
  obtain ⟨hlength, hnodup, htypes, hrequest⟩ := groupStems_ok hstems
  obtain ⟨clients, htargets, hcontent, rfl⟩ := groupArtifacts_ok run rfl hrendered
  obtain ⟨hgroups, hfiles⟩ := map_targets (by simp [hlength]) htargets
  refine ⟨hfault, names, clients, hnames, ⟨hgroups, hcontent⟩, ?_⟩
  rw [Mapping.foldl_insert_new]
  · rfl
  · rw [List.map_map]
    exact hfiles ▸ hnodup.map (artifactName_injective options)
  · intro entry hentry
    obtain ⟨client, hclient, rfl⟩ := List.mem_map.mp hentry
    exact not_mem_keys_shared (mem_keys_shared run _) htypes hrequest client.file
      (hfiles ▸ List.mem_map.mpr ⟨client, hclient, rfl⟩)

end Artifact

end TypedClient
