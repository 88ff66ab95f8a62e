import Mathlib.Data.List.Forall2
import TypedClient.Proofs.Artifact.Entries
import TypedClient.Proofs.Artifact.StrictNaming
import TypedClient.Proofs.Client.Continuation
import TypedClient.Proofs.Grouping
import TypedClient.Proofs.Naming.Continuation

namespace TypedClient

/-- The client of the same group in a later run: what it was before stands first in it. -/
structure GroupClient.ContinuedBy (client later : GroupClient) : Prop where
  tag : later.group.tag = client.group.tag
  file : later.file = client.file
  operations : client.group.operations <+: later.group.operations
  names : client.signatures.map (·.names) <+: later.signatures.map (·.names)
  declarations : client.declarations.map (·.name) <+: later.declarations.map (·.name)

def TagGroup.ExtendedBy (group later : TagGroup) : Prop :=
  later.tag = group.tag ∧ group.operations <+: later.operations

namespace Document

theorem groupsOf_append (fallback : String) (operations more : List BoundOperation) :
    ∃ kept added, groupsOf fallback (operations ++ more) = kept ++ added ∧
      List.Forall₂ TagGroup.ExtendedBy (groupsOf fallback operations) kept := by
  unfold groupsOf
  rw [List.flatMap_append, List.eraseDups_append, List.map_append]
  refine ⟨_, _, rfl, ?_⟩
  rw [List.forall₂_map_left_iff, List.forall₂_map_right_iff, List.forall₂_same]
  intro tag _
  rw [List.filter_append]
  exact ⟨rfl, List.prefix_append _ _⟩

theorem tagGroups_append {document later : Document} (fallback : String)
    (h : document.operations <+: later.operations) :
    ∃ kept added, later.tagGroups fallback = kept ++ added ∧
      List.Forall₂ TagGroup.ExtendedBy (document.tagGroups fallback) kept := by
  obtain ⟨more, hmore⟩ := h
  rw [tagGroups_eq_groupsOf, tagGroups_eq_groupsOf, ← hmore]
  exact groupsOf_append fallback document.operations more

theorem tags_of_extended {groups kept : List TagGroup}
    (h : List.Forall₂ TagGroup.ExtendedBy groups kept) :
    kept.map (·.tag) = groups.map (·.tag) := by
  induction h with
  | nil => rfl
  | cons hfirst _ ih => rw [List.map_cons, List.map_cons, hfirst.1, ih]

theorem tags_continued {document later : Document} (fallback : String)
    (h : document.operations <+: later.operations) :
    (document.tagGroups fallback).map (·.tag) <+: (later.tagGroups fallback).map (·.tag) := by
  obtain ⟨kept, added, hgroups, hkept⟩ := tagGroups_append fallback h
  rw [hgroups, List.map_append, tags_of_extended hkept]
  exact List.prefix_append _ _

end Document

namespace Artifact

variable {document later : Document} {options : Options} {templates : TemplateSet}
  {given given' : GivenNames}

theorem groupStems_prefix {groups groups' : List TagGroup} {stems stems' : List String}
    (h : groupStems options groups = .ok stems) (h' : groupStems options groups' = .ok stems')
    (htags : groups.map (·.tag) <+: groups'.map (·.tag)) : stems <+: stems' := by
  obtain ⟨next, hall⟩ := groupStems_eq_ok_iff.mp h
  obtain ⟨next', hall'⟩ := groupStems_eq_ok_iff.mp h'
  have hbases := htags.map Text.fileStem
  rw [List.map_map, List.map_map] at hbases
  exact Naming.Allocator.allocateAll_prefix hall hall' hbases

theorem split_clients {clients : List GroupClient} {kept added : List TagGroup}
    {files more : List String} (hlength : kept.length = files.length)
    (h : clients.map (fun client => (client.group, client.file)) = (kept ++ added).zip (files ++ more)) :
    ∃ first rest, clients = first ++ rest ∧
      first.map (fun client => (client.group, client.file)) = kept.zip files := by
  rw [List.zip_append hlength] at h
  obtain ⟨first, rest, hclients, hfirst, -⟩ := List.map_eq_append_iff.mp h
  exact ⟨first, rest, hclients, hfirst⟩

theorem zip_extended {groups kept : List TagGroup}
    (h : List.Forall₂ TagGroup.ExtendedBy groups kept)
    (files : List String) :
    List.Forall₂ (fun target later => TagGroup.ExtendedBy target.1 later.1 ∧ later.2 = target.2)
      (groups.zip files) (kept.zip files) := by
  induction h generalizing files with
  | nil => exact .nil
  | cons hfirst _ ih =>
    cases files with
    | nil => exact .nil
    | cons file files => exact .cons ⟨hfirst, rfl⟩ (ih files)

theorem continuedBy_of_content {run run' : Run} {client next : GroupClient}
    (h : groupContent run client.group client.file = .ok (client.signatures, client.declarations))
    (h' : groupContent run' next.group next.file = .ok (next.signatures, next.declarations))
    (hstrict : run.options.strictNames = run'.options.strictNames)
    (hgroup : client.group.ExtendedBy next.group) (hfile : next.file = client.file) :
    client.ContinuedBy next := by
  rw [hfile] at h'
  obtain ⟨hnames, hdeclarations⟩ := groupContent_prefix hstrict hgroup.2 h h'
  exact ⟨hgroup.1, hfile, hgroup.2, hnames, hdeclarations⟩

theorem Gives.stems_prefix (h : Gives document options templates given)
    (h' : Gives later options templates given')
    (hoperations : document.operations <+: later.operations) : given.stems <+: given'.stems :=
  groupStems_prefix h.stems h'.stems (Document.tags_continued options.fallbackTag hoperations)

theorem Gives.clients_continued (h : Gives document options templates given)
    (h' : Gives later options templates given')
    (hoperations : document.operations <+: later.operations) :
    ∃ kept added, given'.clients = kept ++ added ∧
      List.Forall₂ GroupClient.ContinuedBy given.clients kept := by
  obtain ⟨kept, added, hgroups, hkept⟩ :=
    Document.tagGroups_append options.fallbackTag hoperations
  obtain ⟨more, hstems⟩ := h.stems_prefix h' hoperations
  obtain ⟨hlength, -⟩ := groupStems_ok h.stems
  have htargets := h'.targets
  rw [hgroups, ← hstems, List.map_append] at htargets
  obtain ⟨first, rest, hclients, hfirst⟩ := split_clients
    (by rw [List.length_map, hlength, hkept.length_eq]) htargets
  refine ⟨first, rest, hclients, ?_⟩
  have hzip := zip_extended hkept (given.stems.map options.artifactName)
  rw [← h.targets, ← hfirst, List.forall₂_map_left_iff, List.forall₂_map_right_iff] at hzip
  have hcontent : ∀ client ∈ first, groupContent (runOf later given'.registry options templates)
      client.group client.file = .ok (client.signatures, client.declarations) :=
    fun client hclient => h'.content client (hclients ▸ List.mem_append_left rest hclient)
  -- What each run wrote for a client goes into the relation, on the left and then on the right.
  have hboth := (List.forall₂_and_left _ _).mpr ⟨h.content, hzip⟩
  have hflip := (List.forall₂_and_left _ _).mpr ⟨hcontent, hboth.flip⟩
  apply hflip.flip.imp
  rintro client next ⟨hnext, hclient, hgroup, hfile⟩
  exact continuedBy_of_content hclient hnext rfl hgroup hfile

theorem Gives.registry_kept (h : Gives document options templates given)
    (h' : Gives later options templates given')
    (hkeys : document.schemas.keys <+: later.schemas.keys) :
    ∀ key ∈ document.schemas.keys, ∃ name, given.registry.get? key = some name ∧
      given'.registry.get? key = some name := by
  intro key hkey
  obtain ⟨hregistry, -, -⟩ := Naming.nameRegistry_ok h.registry
  obtain ⟨name, hname⟩ := Mapping.get?_of_mem_keys (hregistry ▸ hkey)
  have hkept := Naming.nameRegistry_prefix h.registry h'.registry hkeys
  exact ⟨name, hname, Mapping.get?_of_prefix hkept hname⟩

theorem files_prefix {artifacts artifacts' : Artifacts}
    (hoperations : document.operations <+: later.operations)
    (h : transform document options templates = .ok artifacts)
    (h' : transform later options templates = .ok artifacts') :
    artifacts.map (·.1) <+: artifacts'.map (·.1) := by
  obtain ⟨stems, hstems, hfiles⟩ := files_of_transform h
  obtain ⟨stems', hstems', hfiles'⟩ := files_of_transform h'
  have hbefore := groupStems_prefix hstems hstems'
    (Document.tags_continued options.fallbackTag hoperations)
  rw [hfiles, hfiles']
  apply (List.prefix_cons_inj _).mpr
  apply (List.prefix_append_right_inj _).mpr
  exact hbefore.map options.artifactName

/-- Appending to a document renames nothing: schemas keep the names of their types, groups keep their
files, and the operations of a group keep the names of their callables and types and stand before the
new ones. -/
theorem stable_under_appending {document later : Document} {options : Options}
    (templates : TemplateSet) (hloose : options.strictNames = false)
    (hkeys : document.schemas.keys <+: later.schemas.keys)
    (hoperations : document.operations <+: later.operations) :
    ∃ given given', Gives document options templates given ∧
      Gives later options templates given' ∧
      (∀ key ∈ document.schemas.keys, ∃ name, given.registry.get? key = some name ∧
        given'.registry.get? key = some name) ∧
      (document.tagGroups options.fallbackTag).map (·.tag) <+:
        (later.tagGroups options.fallbackTag).map (·.tag) ∧
      (∃ kept added, given'.clients = kept ++ added ∧
        List.Forall₂ GroupClient.ContinuedBy given.clients kept) ∧
      (∀ client ∈ given.clients ++ given'.clients,
        client.signatures.map (·.bound) = client.group.operations ∧
          client.declarations.map (·.name) = client.signatures.flatMap (·.names.types)) ∧
      ∀ artifacts artifacts', transform document options templates = .ok artifacts →
        transform later options templates = .ok artifacts' →
          artifacts.map (·.1) <+: artifacts'.map (·.1) := by
  obtain ⟨given, hgiven⟩ := exists_gives document templates hloose
  obtain ⟨given', hgiven'⟩ := exists_gives later templates hloose
  refine ⟨given, given', hgiven, hgiven', hgiven.registry_kept hgiven' hkeys,
    Document.tags_continued options.fallbackTag hoperations,
    hgiven.clients_continued hgiven' hoperations, ?_, ?_⟩
  · intro client hclient
    rcases List.mem_append.mp hclient with hclient | hclient
    · exact groupContent_declared (hgiven.content client hclient)
    · exact groupContent_declared (hgiven'.content client hclient)
  · exact fun artifacts artifacts' => files_prefix hoperations

theorem stable_under_appending_collisions :
    let tagged : String → Json := fun tag => .object [("get", .object [
      ("operationId", .text "find"), ("tags", .array [.text tag])])]
    let schemas : List String → Json := fun keys =>
      .object [("schemas", .object (keys.map fun key => (key, .object [])))]
    let raw : Json := .object [("components", schemas ["pet"]),
      ("paths", .object [("/a", tagged "a b")])]
    let raw' : Json := .object [("components", schemas ["pet", "Pet"]),
      ("paths", .object [("/a", tagged "a b"), ("/b", tagged "a/b"), ("/c", tagged "a b")])]
    ∃ document later artifacts artifacts', Document.ofJson raw = .ok document ∧
      Document.ofJson raw' = .ok later ∧ document.schemas.keys <+: later.schemas.keys ∧
      document.operations <+: later.operations ∧
      transform document {} .builtin = .ok artifacts ∧
      transform later {} .builtin = .ok artifacts' ∧
      artifacts.map (·.1) = ["types.ts", "request.ts", "a_b.ts"] ∧
      artifacts'.map (·.1) = ["types.ts", "request.ts", "a_b.ts", "a_b2.ts"] ∧
      artifacts.map (·.1) <+: artifacts'.map (·.1) ∧
      ∃ given given' name, Gives document {} .builtin given ∧ Gives later {} .builtin given' ∧
        given.registry.get? "pet" = some name ∧ given'.registry.get? "pet" = some name ∧
        ∃ kept added, given'.clients = kept ++ added ∧
          List.Forall₂ GroupClient.ContinuedBy given.clients kept := by
  intro tagged schemas raw raw'
  have hwritten : writtenFiles? raw {} = some ["types.ts", "request.ts", "a_b.ts"] := by
    decide +kernel
  have hwritten' : writtenFiles? raw' {} =
      some ["types.ts", "request.ts", "a_b.ts", "a_b2.ts"] := by decide +kernel
  obtain ⟨document, later, hdocument, hlater, hpet, hkeys, hoperations⟩ : ∃ document later,
      Document.ofJson raw = .ok document ∧ Document.ofJson raw' = .ok later ∧
      "pet" ∈ document.schemas.keys ∧ document.schemas.keys <+: later.schemas.keys ∧
      document.operations <+: later.operations :=
    ⟨_, _, rfl, rfl, .head _, ⟨["Pet"], rfl⟩, ⟨_, rfl⟩⟩
  obtain ⟨_, artifacts, hread, hrun, hfiles⟩ := exists_of_writtenFiles? hwritten
  obtain ⟨_, artifacts', hread', hrun', hfiles'⟩ := exists_of_writtenFiles? hwritten'
  obtain rfl := Except.ok.inj (hdocument.symm.trans hread)
  obtain rfl := Except.ok.inj (hlater.symm.trans hread')
  obtain ⟨given, given', hgiven, hgiven', hregistry, -, hclients, -, hbefore⟩ :=
    stable_under_appending .builtin (rfl : ({} : Options).strictNames = false) hkeys hoperations
  obtain ⟨name, hname, hname'⟩ := hregistry "pet" hpet
  exact ⟨document, later, artifacts, artifacts', hdocument, hlater, hkeys, hoperations, hrun, hrun',
    hfiles, hfiles', hbefore artifacts artifacts' hrun hrun', given, given', name, hgiven, hgiven',
    hname, hname', hclients⟩

end Artifact

end TypedClient
