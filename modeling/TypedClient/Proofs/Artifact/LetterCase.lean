import TypedClient.Proofs.Artifact.Entries
import TypedClient.Proofs.Text.Lowercase

/-!
Artifacts in a file system that ignores letter case. The stems of the groups are given in a scope that
ignores it too, so they stay apart from everything else. The two configured modules are compared as
they are written, so nothing but their own names keeps these two apart.
-/

namespace TypedClient

namespace Artifact

variable {document : Document} {options : Options} {templates : TemplateSet} {artifacts : Artifacts}
  {groups : List TagGroup} {stems : List String}

theorem lowercase_groupStems (h : groupStems options groups = .ok stems) :
    (stems.map Text.lowercase).Nodup ∧
      Text.lowercase options.typesModule ∉ stems.map Text.lowercase ∧
      Text.lowercase options.requestModule ∉ stems.map Text.lowercase := by
  obtain ⟨next, hall⟩ := groupStems_eq_ok_iff.mp h
  obtain ⟨-, hnodup, hnew⟩ := Naming.Allocator.allocateAll_ok hall
  have hkey : (stemScope options).key = Text.lowercase := rfl
  rw [hkey] at hnodup hnew
  refine ⟨hnodup, ?_, ?_⟩
  · intro hmem
    obtain ⟨stem, hstem, he⟩ := List.mem_map.mp hmem
    apply hnew stem hstem
    rw [stemScope, Naming.Allocator.mem_taken_reserve, Naming.Allocator.mem_taken_reserve]
    exact .inr (.inl he)
  · intro hmem
    obtain ⟨stem, hstem, he⟩ := List.mem_map.mp hmem
    apply hnew stem hstem
    rw [stemScope, Naming.Allocator.mem_taken_reserve]
    exact .inl he

theorem lowercase_artifactName {stem other : String} (hstem : Text.IsStem stem)
    (h : Text.lowercase (options.artifactName stem) = Text.lowercase (options.artifactName other)) :
    Text.lowercase stem = Text.lowercase other := by
  unfold Options.artifactName at h
  rw [String.append_assoc, String.append_assoc] at h
  exact hstem.lowercase_eq h

theorem nodup_lowercase_files (options : Options) (hstems : ∀ stem ∈ stems, Text.IsStem stem)
    (h : (stems.map Text.lowercase).Nodup) :
    ((stems.map options.artifactName).map Text.lowercase).Nodup := by
  rw [List.map_map]
  apply List.Nodup.map_on
  · intro stem hstem other hother he
    have hlower := lowercase_artifactName (hstems stem hstem) he
    exact List.inj_on_of_nodup_map h hstem hother hlower
  · exact h.of_map

theorem not_mem_lowercase_files (options : Options) (hstems : ∀ stem ∈ stems, Text.IsStem stem)
    {base : String} (h : Text.lowercase base ∉ stems.map Text.lowercase) :
    Text.lowercase (options.artifactName base) ∉
      (stems.map options.artifactName).map Text.lowercase := by
  rw [List.map_map]
  intro hmem
  obtain ⟨stem, hstem, he⟩ := List.mem_map.mp hmem
  have hlower := lowercase_artifactName (hstems stem hstem) he
  exact h (List.mem_map.mpr ⟨stem, hstem, hlower⟩)

section

variable {types request : String} {files : List String}

theorem nodup_shared_iff (wanted : Bool) (hfiles : files.Nodup) (htypes : types ∉ files)
    (hrequest : request ∉ files) :
    (types :: ((if wanted then [request] else []) ++ files)).Nodup ↔
      (wanted = true → types ≠ request) := by
  cases wanted with
  | false => simp [hfiles, htypes]
  | true => simp [hfiles, htypes, hrequest]

theorem pairwise_shared (wanted : Bool) (hfiles : (files.map Text.lowercase).Nodup)
    (htypes : Text.lowercase types ∉ files.map Text.lowercase)
    (hrequest : Text.lowercase request ∉ files.map Text.lowercase) :
    (types :: ((if wanted then [request] else []) ++ files)).Pairwise fun file other =>
      Text.lowercase file = Text.lowercase other → file = types ∧ other = request := by
  have hcontract : ∀ file ∈ (if wanted then [request] else []), file = request := by
    intro file hfile
    split at hfile
    · exact List.mem_singleton.mp hfile
    · cases hfile
  have hapart : ∀ file : String, Text.lowercase file ∉ files.map Text.lowercase →
      ∀ other ∈ files, Text.lowercase file ≠ Text.lowercase other :=
    fun file hnew other hother he => hnew (he ▸ List.mem_map_of_mem hother)
  apply List.pairwise_cons.mpr
  constructor
  · intro other hother he
    rcases List.mem_append.mp hother with hother | hother
    · exact ⟨rfl, hcontract other hother⟩
    · exact absurd he (hapart types htypes other hother)
  · apply List.pairwise_append.mpr
    refine ⟨?_, ?_, ?_⟩
    · split
      · exact List.pairwise_singleton _ _
      · exact .nil
    · exact (List.pairwise_map.mp hfiles).imp fun hne he => absurd he hne
    · intro file hfile other hother he
      rw [hcontract file hfile] at he
      exact absurd he (hapart request hrequest other hother)

end

/-- In a file system that ignores letter case no artifact takes the place of another, unless the two
configured modules take the place of each other. -/
theorem letterCase_of_transform (h : transform document options templates = .ok artifacts) :
    artifacts.Pairwise (fun entry other => Text.lowercase entry.1 = Text.lowercase other.1 →
      entry.1 = options.artifactName options.typesModule ∧
        other.1 = options.artifactName options.requestModule) ∧
    ((artifacts.map fun entry => Text.lowercase entry.1).Nodup ↔
      (options.emitRequestContract = true →
        Text.lowercase (options.artifactName options.typesModule) ≠
          Text.lowercase (options.artifactName options.requestModule))) := by
  obtain ⟨stems, hstems, hfiles⟩ := files_of_transform h
  have hstem := isStem_of_groupStems hstems
  obtain ⟨hnodup, htypes, hrequest⟩ := lowercase_groupStems hstems
  have hgroups := nodup_lowercase_files options hstem hnodup
  have htypesFile := not_mem_lowercase_files options hstem htypes
  have hrequestFile := not_mem_lowercase_files options hstem hrequest
  constructor
  · have hpairs := pairwise_shared options.emitRequestContract hgroups htypesFile hrequestFile
    rw [← hfiles] at hpairs
    exact List.pairwise_map.mp hpairs
  · have hforms := congrArg (List.map Text.lowercase) hfiles
    rw [List.map_map, List.map_cons, List.map_append, apply_ite (List.map Text.lowercase),
      List.map_singleton, List.map_nil] at hforms
    have hentries : (artifacts.map fun entry => Text.lowercase entry.1) =
        artifacts.map (Text.lowercase ∘ fun entry => entry.1) := rfl
    rw [hentries, hforms]
    exact nodup_shared_iff _ hgroups htypesFile hrequestFile

theorem letterCase_of_transform_tags :
    let tagged : String → Json := fun tag => .object [
      ("get", .object [("tags", .array [.text tag])])]
    let raw : Json := .object [("paths", .object [
      ("/a", tagged "Pets"), ("/b", tagged "pets"), ("/c", tagged "Request")])]
    ∃ document artifacts, Document.ofJson raw = .ok document ∧
      transform document {} .builtin = .ok artifacts ∧
      artifacts.map (·.1) = ["types.ts", "request.ts", "Pets.ts", "pets2.ts", "Request2.ts"] ∧
      (artifacts.map fun entry => Text.lowercase entry.1).Nodup := by
  intro tagged raw
  have hwritten : writtenFiles? raw {} =
      some ["types.ts", "request.ts", "Pets.ts", "pets2.ts", "Request2.ts"] := by decide +kernel
  obtain ⟨document, artifacts, hdocument, hartifacts, hfiles⟩ := exists_of_writtenFiles? hwritten
  have hmodules : Text.lowercase "types.ts" ≠ Text.lowercase "request.ts" := by decide +kernel
  exact ⟨document, artifacts, hdocument, hartifacts, hfiles,
    (letterCase_of_transform hartifacts).2.mpr fun _ => hmodules⟩

theorem modules_share_letters :
    let raw : Json := .object [("openapi", .text "3.0.0"), ("paths", .object [])]
    let options : Options := { typesModule := "types", requestModule := "Types" }
    ∃ document artifacts, Document.ofJson raw = .ok document ∧ options.fault? = none ∧
      transform document options .builtin = .ok artifacts ∧
      artifacts.map (·.1) = ["types.ts", "Types.ts"] ∧
      ¬(artifacts.map fun entry => Text.lowercase entry.1).Nodup := by
  intro raw options
  have hwritten : writtenFiles? raw options = some ["types.ts", "Types.ts"] := by decide +kernel
  obtain ⟨document, artifacts, hdocument, hartifacts, hfiles⟩ := exists_of_writtenFiles? hwritten
  have hforms : ¬(["types.ts", "Types.ts"].map Text.lowercase).Nodup := by decide +kernel
  rw [← hfiles, List.map_map] at hforms
  exact ⟨document, artifacts, hdocument, by decide +kernel, hartifacts, hfiles, hforms⟩

end Artifact

end TypedClient
