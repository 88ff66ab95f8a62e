import TypedClient.Proofs.Artifact.Failures

/-!
Strict naming only adds a check. A strict run stops at a name collision or does what the run does
that numbers equal names. Where that run succeeds, the strict run stops exactly when a name was
given that was not asked for.
-/

namespace TypedClient

open Naming (Allocator)

structure GivenNames.Unsuffixed (given : GivenNames) : Prop where
  registry : ∀ entry ∈ given.registry, entry.2 = Naming.registryBase entry.1
  stems : given.stems = given.clients.map fun client => Text.fileStem client.group.tag
  content : ∀ client ∈ given.clients,
    Artifact.HasOwnNames client.group client.signatures client.declarations

namespace Artifact

/-- What a strict step does: it stops at a collision, or does what another step does. -/
def StopsOrAgrees {α : Type} (strict loose : Except Failure α) : Prop :=
  (∃ clash, strict = .error (.collision clash)) ∨ strict = loose

namespace StopsOrAgrees

variable {α β : Type} {strict loose : Except Failure α}

theorem refl (step : Except Failure α) : StopsOrAgrees step step := .inr rfl

theorem bind {next next' : α → Except Failure β} (h : StopsOrAgrees strict loose)
    (hnext : ∀ value, StopsOrAgrees (next value) (next' value)) :
    StopsOrAgrees (strict >>= next) (loose >>= next') := by
  rcases h with ⟨clash, rfl⟩ | rfl
  · exact .inl ⟨clash, rfl⟩
  · cases strict with
    | error failure => exact .refl _
    | ok value => exact hnext value

theorem mapError {strict loose : Except Naming.NameCollision α}
    (h : ∀ value, strict = .ok value → loose = .ok value) :
    StopsOrAgrees (strict.mapError .collision) (loose.mapError .collision) := by
  cases strict with
  | error clash => exact .inl ⟨clash, rfl⟩
  | ok value =>
    rw [h value rfl]
    exact .refl _

end StopsOrAgrees

variable {document : Document} {options : Options} {templates : TemplateSet} {given : GivenNames}
  {groups : List TagGroup} {stems : List String}

theorem groupStems_strict (hstrict : options.strictNames = true)
    (h : groupStems options groups = .ok stems) :
    stems = groups.map fun group => Text.fileStem group.tag := by
  obtain ⟨next, hall⟩ := groupStems_eq_ok_iff.mp h
  exact Allocator.allocateAll_strict (show (stemScope options).strict = true from hstrict) hall

theorem groupStems_withStrict (h : groupStems options groups = .ok stems)
    (hown : stems = groups.map fun group => Text.fileStem group.tag) (strict : Bool) :
    groupStems (options.withStrict strict) groups = .ok stems := by
  obtain ⟨next, hall⟩ := groupStems_eq_ok_iff.mp h
  subst hown
  exact groupStems_eq_ok_iff.mpr ⟨_, Allocator.allocateAll_withStrict hall strict⟩

theorem emitGroup_stopsOrAgrees (run : Run) (hstrict : run.options.strictNames = true)
    (strict : Bool) (group : TagGroup) (scope : String) :
    StopsOrAgrees (emitGroup run group scope) (emitGroup (run.withStrict strict) group scope) := by
  apply StopsOrAgrees.bind
  · apply StopsOrAgrees.mapError
    intro content h
    exact groupContent_withStrict h (groupContent_strict hstrict h) strict
  · exact fun content => .refl _

theorem groupArtifacts_stopsOrAgrees (run : Run) (hstrict : run.options.strictNames = true)
    (strict : Bool) (targets : List (TagGroup × String)) :
    StopsOrAgrees (groupArtifacts run targets) (groupArtifacts (run.withStrict strict) targets) := by
  induction targets with
  | nil => exact .refl _
  | cons target targets ih =>
    apply StopsOrAgrees.bind (emitGroup_stopsOrAgrees run hstrict strict target.1 target.2)
    intro text
    exact StopsOrAgrees.bind ih fun rest => .refl _

theorem transform_stopsOrAgrees (document : Document) (templates : TemplateSet)
    (hstrict : options.strictNames = true) (strict : Bool) :
    StopsOrAgrees (transform document options templates)
      (transform document (options.withStrict strict) templates) := by
  have hfault : (options.withStrict strict).fault? = options.fault? := rfl
  unfold transform
  rw [hfault]
  cases options.fault? with
  | some fault => exact .refl _
  | none =>
    apply StopsOrAgrees.bind
    · apply StopsOrAgrees.mapError
      intro names h
      rw [hstrict] at h
      exact Naming.nameRegistry_unsuffixed h (Naming.nameRegistry_strict h) strict
    intro names
    apply StopsOrAgrees.bind (.refl _)
    intro shared
    apply StopsOrAgrees.bind
    · apply StopsOrAgrees.mapError
      intro stems h
      exact groupStems_withStrict h (groupStems_strict hstrict h) strict
    intro stems
    apply StopsOrAgrees.bind
    · exact groupArtifacts_stopsOrAgrees (runOf document names options templates) hstrict strict _
    · exact fun rendered => .refl _

theorem Gives.map_group (h : Gives document options templates given) :
    given.clients.map (·.group) = document.tagGroups options.fallbackTag := by
  obtain ⟨hlength, -⟩ := groupStems_ok h.stems
  exact (map_targets (by simpa using hlength) h.targets).1

theorem Gives.unsuffixed (h : Gives document options templates given)
    (hstrict : options.strictNames = true) : given.Unsuffixed := by
  constructor
  · have hregistry := h.registry
    rw [hstrict] at hregistry
    exact Naming.nameRegistry_strict hregistry
  · rw [groupStems_strict hstrict h.stems, ← h.map_group, List.map_map]
    rfl
  · exact fun client hclient => groupContent_strict hstrict (h.content client hclient)

theorem Gives.withStrict (h : Gives document options templates given) (hown : given.Unsuffixed)
    (strict : Bool) : Gives document (options.withStrict strict) templates given := by
  constructor
  · exact Naming.nameRegistry_unsuffixed h.registry hown.registry strict
  · apply groupStems_withStrict h.stems
    rw [hown.stems, ← h.map_group, List.map_map]
    rfl
  · exact h.targets
  · intro client hclient
    exact groupContent_withStrict (h.content client hclient) (hown.content client hclient) strict

theorem loose_of_strict {artifacts : Artifacts}
    (hgiven : Gives document (options.withStrict false) templates given)
    (h : transform document (options.withStrict true) templates = .ok artifacts) :
    transform document (options.withStrict false) templates = .ok artifacts ∧ given.Unsuffixed := by
  constructor
  · have hagrees := transform_stopsOrAgrees document templates
      (rfl : (options.withStrict true).strictNames = true) false
    rw [h] at hagrees
    rcases hagrees with ⟨clash, hclash⟩ | hsame
    · cases hclash
    · exact hsame.symm
  · -- The names of the strict run can be given in the loose run, so they are its names.
    obtain ⟨other, hother⟩ := gives_of_transform h
    have hown := hother.unsuffixed rfl
    obtain rfl := hgiven.unique (hother.withStrict hown false)
    exact hown

theorem strict_of_unsuffixed (hgiven : Gives document (options.withStrict false) templates given)
    (hown : given.Unsuffixed) : transform document (options.withStrict true) templates =
      transform document (options.withStrict false) templates := by
  rcases transform_stopsOrAgrees document templates
    (rfl : (options.withStrict true).strictNames = true) false with ⟨clash, hclash⟩ | hsame
  · exact absurd ⟨clash, rfl⟩ ((hgiven.withStrict hown true).failsOnly _ hclash)
  · exact hsame

theorem collision_of_suffixed {artifacts : Artifacts}
    (hgiven : Gives document (options.withStrict false) templates given)
    (hsuffixed : ¬given.Unsuffixed)
    (h : transform document (options.withStrict false) templates = .ok artifacts) :
    ∃ clash, transform document (options.withStrict true) templates = .error (.collision clash) := by
  rcases transform_stopsOrAgrees document templates
    (rfl : (options.withStrict true).strictNames = true) false with hclash | hsame
  · exact hclash
  · exact absurd (loose_of_strict hgiven (hsame.trans h)).2 hsuffixed

/-- Strict naming changes nothing but to refuse what would be numbered, with any templates. -/
theorem strict_only_checks (document : Document) (options : Options) (templates : TemplateSet) :
    ∃ given, Gives document (options.withStrict false) templates given ∧
      (∀ artifacts, transform document (options.withStrict true) templates = .ok artifacts ↔
        transform document (options.withStrict false) templates = .ok artifacts ∧
          given.Unsuffixed) ∧
      ∀ artifacts, transform document (options.withStrict false) templates = .ok artifacts →
        ¬given.Unsuffixed → ∃ clash,
          transform document (options.withStrict true) templates = .error (.collision clash) := by
  obtain ⟨given, hgiven⟩ :=
    exists_gives document templates (rfl : (options.withStrict false).strictNames = false)
  refine ⟨given, hgiven, fun artifacts => ⟨loose_of_strict hgiven, ?_⟩, ?_⟩
  · rintro ⟨h, hown⟩
    exact (strict_of_unsuffixed hgiven hown).trans h
  · intro artifacts h hsuffixed
    exact collision_of_suffixed hgiven hsuffixed h

theorem strict_only_checks_stems :
    let raw : Json := .object [("paths", .object [
      ("/a", .object [("get", .object [("tags", .array [.text "a b"])])]),
      ("/b", .object [("get", .object [("tags", .array [.text "a/b"])])])])]
    let strict : Options := { strictNames := true }
    ∃ document given artifacts, Document.ofJson raw = .ok document ∧
      Gives document {} .builtin given ∧ ¬given.Unsuffixed ∧
      transform document {} .builtin = .ok artifacts ∧
      ∃ clash, transform document strict .builtin = .error (.collision clash) := by
  intro raw strict
  have hloose : ((Document.ofJson raw).toOption.bind fun document =>
      (transform document {} .builtin).toOption).isSome = true := by decide +kernel
  have hclash : ((Document.ofJson raw).toOption.bind fun document =>
      (transform document strict .builtin).toOption).isSome = false := by decide +kernel
  obtain ⟨document, hdocument⟩ : ∃ document, Document.ofJson raw = .ok document := ⟨_, rfl⟩
  rw [hdocument] at hloose hclash
  obtain ⟨artifacts, hartifacts⟩ := Outcome.exists_ok hloose
  obtain ⟨given, hgiven, hiff, hcollides⟩ := strict_only_checks document {} .builtin
  have hsuffixed : ¬given.Unsuffixed := by
    intro hown
    have hstrict : transform document strict .builtin = .ok artifacts :=
      (hiff artifacts).mpr ⟨hartifacts, hown⟩
    simp [Except.toOption, hstrict] at hclash
  exact ⟨document, given, artifacts, hdocument, hgiven, hsuffixed, hartifacts,
    hcollides artifacts hartifacts hsuffixed⟩

end Artifact

end TypedClient
