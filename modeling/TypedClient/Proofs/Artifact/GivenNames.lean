import TypedClient.Proofs.Artifact.Assembly
import TypedClient.Proofs.Client.Strictness

namespace TypedClient

open Naming (Allocator)

structure GivenNames where
  registry : Naming.RegistryNames
  stems : List String
  clients : List GroupClient

namespace Artifact

variable {document : Document} {options : Options} {templates : TemplateSet} {given : GivenNames}
  {groups : List TagGroup} {stems : List String}

structure Gives (document : Document) (options : Options) (templates : TemplateSet)
    (given : GivenNames) : Prop where
  registry : Naming.nameRegistry document.schemas.keys (options.artifactName options.typesModule)
    options.strictNames = .ok given.registry
  stems : groupStems options (document.tagGroups options.fallbackTag) = .ok given.stems
  targets : given.clients.map (fun client => (client.group, client.file)) =
    (document.tagGroups options.fallbackTag).zip (given.stems.map options.artifactName)
  content : ∀ client ∈ given.clients,
    groupContent (runOf document given.registry options templates) client.group client.file =
      .ok (client.signatures, client.declarations)

theorem exists_clients (run : Run) (targets : List (TagGroup × String))
    (h : ∀ target ∈ targets, ∃ signatures declarations,
      groupContent run target.1 target.2 = .ok (signatures, declarations)) :
    ∃ clients : List GroupClient,
      clients.map (fun client => (client.group, client.file)) = targets ∧
      ∀ client ∈ clients, groupContent run client.group client.file =
        .ok (client.signatures, client.declarations) := by
  induction targets with
  | nil => exact ⟨[], rfl, by simp⟩
  | cons target targets ih =>
    obtain ⟨signatures, declarations, hfirst⟩ := h target (by simp)
    obtain ⟨clients, htargets, hcontent⟩ := ih fun other hother => h other (by simp [hother])
    refine ⟨⟨target.1, target.2, signatures, declarations⟩ :: clients, by simp [htargets], ?_⟩
    intro client hclient
    rcases List.mem_cons.mp hclient with rfl | hclient
    · exact hfirst
    · exact hcontent client hclient

theorem emitGroup_ok {run : Run} {group : TagGroup} {scope text : String}
    (h : emitGroup run group scope = .ok text) :
    ∃ signatures declarations, groupContent run group scope = .ok (signatures, declarations) := by
  obtain ⟨⟨signatures, declarations⟩, hcontent, -⟩ := Outcome.bind_ok h
  exact ⟨signatures, declarations, Outcome.mapError_ok hcontent⟩

theorem emitGroup_of_groupArtifacts {run : Run} {targets : List (TagGroup × String)}
    {rendered : List (String × String)} (h : groupArtifacts run targets = .ok rendered) :
    ∀ target ∈ targets, ∃ text, emitGroup run target.1 target.2 = .ok text := by
  induction targets generalizing rendered with
  | nil => simp
  | cons target targets ih =>
    obtain ⟨text, htext, h⟩ := Outcome.bind_ok h
    obtain ⟨rest, hrest, -⟩ := Outcome.bind_ok h
    intro other hother
    rcases List.mem_cons.mp hother with rfl | hother
    · exact ⟨text, htext⟩
    · exact ih hrest other hother

theorem gives_of_transform {artifacts : Artifacts}
    (h : transform document options templates = .ok artifacts) :
    ∃ given, Gives document options templates given := by
  obtain ⟨-, names, shared, stems, rendered, hnames, -, hstems, hrendered, -⟩ := transform_steps h
  obtain ⟨clients, htargets, hcontent⟩ := exists_clients _ _ fun target htarget =>
    (emitGroup_of_groupArtifacts hrendered target htarget).elim fun _ => emitGroup_ok
  exact ⟨⟨names, stems, clients⟩, hnames, hstems, htargets, hcontent⟩

def stemScope (options : Options) : Allocator :=
  ((Allocator.emptyIgnoringCase "output directory" options.strictNames).reserve
    options.typesModule).reserve options.requestModule

theorem groupStems_eq_ok_iff : groupStems options groups = .ok stems ↔
    ∃ next, (stemScope options).allocateAll (groups.map fun group => Text.fileStem group.tag) =
      .ok (stems, next) := by
  constructor
  · intro h
    obtain ⟨⟨names, next⟩, hall, hreturn⟩ := Outcome.bind_ok h
    cases hreturn
    exact ⟨next, hall⟩
  · rintro ⟨next, hall⟩
    show ((stemScope options).allocateAll _ >>= fun result => pure result.1) = .ok stems
    rw [hall]
    rfl

theorem exists_gives (document : Document) (templates : TemplateSet)
    (hloose : options.strictNames = false) : ∃ given, Gives document options templates given := by
  obtain ⟨names, hnames⟩ := Naming.exists_nameRegistry document.schemas.keys
    (options.artifactName options.typesModule)
  obtain ⟨stems, next, hstems⟩ := Allocator.exists_allocateAll
    (show (stemScope options).strict = false from hloose)
    ((document.tagGroups options.fallbackTag).map fun group => Text.fileStem group.tag)
  obtain ⟨clients, htargets, hcontent⟩ := exists_clients (runOf document names options templates)
    ((document.tagGroups options.fallbackTag).zip (stems.map options.artifactName))
    fun target _ => exists_groupContent hloose target.1 target.2
  exact ⟨⟨names, stems, clients⟩, hloose ▸ hnames, groupStems_eq_ok_iff.mpr ⟨next, hstems⟩,
    htargets, hcontent⟩

theorem clients_unique {run : Run} {clients others : List GroupClient}
    (htargets : clients.map (fun client => (client.group, client.file)) =
      others.map fun client => (client.group, client.file))
    (h : ∀ client ∈ clients, groupContent run client.group client.file =
      .ok (client.signatures, client.declarations))
    (hothers : ∀ client ∈ others, groupContent run client.group client.file =
      .ok (client.signatures, client.declarations)) : clients = others := by
  induction clients generalizing others with
  | nil => exact (List.map_eq_nil_iff.mp htargets.symm).symm
  | cons client clients ih =>
    obtain ⟨other, others, rfl, htarget, hrest⟩ := List.map_eq_cons_iff.mp htargets.symm
    have hfirst := h client (by simp)
    have hother := hothers other (by simp)
    cases client
    cases other
    cases htarget
    cases hfirst.symm.trans hother
    rw [ih hrest.symm (fun client hclient => h client (List.mem_cons_of_mem _ hclient))
      fun client hclient => hothers client (List.mem_cons_of_mem _ hclient)]

theorem Gives.unique {other : GivenNames} (h : Gives document options templates given)
    (hother : Gives document options templates other) : given = other := by
  obtain ⟨registry, stems, clients⟩ := given
  obtain ⟨registry', stems', clients'⟩ := other
  obtain rfl : registry = registry' := Except.ok.inj (h.registry.symm.trans hother.registry)
  obtain rfl : stems = stems' := Except.ok.inj (h.stems.symm.trans hother.stems)
  obtain rfl : clients = clients' :=
    clients_unique (h.targets.trans hother.targets.symm) h.content hother.content
  rfl

end Artifact

end TypedClient
