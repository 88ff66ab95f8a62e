import TypedClient.Proofs.Artifact.GivenNames

namespace TypedClient

open Outcome (FailsOnly failsOnly_mapError)

def Failure.IsCollision (failure : Failure) : Prop := ∃ clash, failure = .collision clash

namespace Document

theorem isLegacy_eq_false_iff (root : Mapping Json) : isLegacy root = false ↔
    root.has "swagger" = false ∧
      ∀ version, root.get? "openapi" = some (.text version) → version.startsWith "2" = false := by
  unfold isLegacy
  rw [Bool.or_eq_false_iff]
  apply and_congr_right'
  cases root.get? "openapi" with
  | none => simp
  | some value => cases value <;> simp [Json.text?]

theorem ofJson_ok_iff (raw : Json) : (∃ document, ofJson raw = .ok document) ↔
    ∃ root : Mapping Json, raw = .object root ∧ root.has "swagger" = false ∧
      ∀ version, root.get? "openapi" = some (.text version) → version.startsWith "2" = false := by
  unfold ofJson
  cases raw with
  | object root =>
    simp only [Json.members?, Json.object.injEq, exists_eq_left', ← isLegacy_eq_false_iff]
    cases isLegacy root <;> simp
  | _ => simp [Json.members?]

end Document

namespace Artifact

variable {document : Document} {options : Options} {templates : TemplateSet} {given : GivenNames}
  {Kind : Failure → Prop}

theorem failsOnly_groupArtifacts {run : Run} {targets : List (TagGroup × String)}
    (h : ∀ target ∈ targets, FailsOnly Kind (emitGroup run target.1 target.2)) :
    FailsOnly Kind (groupArtifacts run targets) := by
  induction targets with
  | nil => exact .ok []
  | cons target targets ih =>
    apply FailsOnly.bind (h target (by simp))
    intro text _
    apply FailsOnly.bind (ih fun other hother => h other (by simp [hother]))
    intro rest _
    exact .ok _

theorem failsOnly_transform (hfault : ∀ fault, options.fault? = some fault → Kind (.options fault))
    (hnames : FailsOnly Kind ((Naming.nameRegistry document.schemas.keys
      (options.artifactName options.typesModule) options.strictNames).mapError .collision))
    (hstems : FailsOnly Kind
      ((groupStems options (document.tagGroups options.fallbackTag)).mapError .collision))
    (hrun : options.fault? = none → ∀ names, Naming.nameRegistry document.schemas.keys
        (options.artifactName options.typesModule) options.strictNames = .ok names →
      FailsOnly Kind (sharedArtifacts (runOf document names options templates)) ∧
      ∀ stems, groupStems options (document.tagGroups options.fallbackTag) = .ok stems →
        ∀ target ∈ (document.tagGroups options.fallbackTag).zip (stems.map options.artifactName),
          FailsOnly Kind (emitGroup (runOf document names options templates) target.1 target.2)) :
    FailsOnly Kind (transform document options templates) := by
  unfold transform
  cases hoptions : options.fault? with
  | some fault =>
    intro failure h
    cases h
    exact hfault fault hoptions
  | none =>
    apply FailsOnly.bind hnames
    intro names hnames'
    obtain ⟨hshared, hgroups⟩ := hrun hoptions names (Outcome.mapError_ok hnames')
    apply FailsOnly.bind hshared
    intro shared _
    apply FailsOnly.bind hstems
    intro stems hstems'
    apply FailsOnly.bind (failsOnly_groupArtifacts (hgroups stems (Outcome.mapError_ok hstems')))
    intro rendered _
    exact .ok _

theorem failsOnly_emitGroup_builtin {run : Run} (hrun : run.templates = .builtin)
    (group : TagGroup) (scope : String) :
    FailsOnly Failure.IsCollision (emitGroup run group scope) := by
  intro failure h
  rw [emitGroup_builtin run hrun] at h
  cases hcontent : groupContent run group scope with
  | error clash =>
    rw [hcontent] at h
    cases h
    exact ⟨clash, rfl⟩
  | ok content =>
    rw [hcontent] at h
    cases h

theorem failsOnly_transform_builtin (document : Document) (hfault : options.fault? = none) :
    FailsOnly Failure.IsCollision (transform document options .builtin) := by
  apply failsOnly_transform
  · intro fault h
    rw [hfault] at h
    cases h
  · exact failsOnly_mapError (fun clash => ⟨clash, rfl⟩) _
  · exact failsOnly_mapError (fun clash => ⟨clash, rfl⟩) _
  · intro _ names _
    constructor
    · have hshared := sharedArtifacts_builtin (runOf document names options .builtin) rfl
        (modules_differ hfault)
      rw [hshared]
      exact .ok _
    · exact fun _ _ target _ => failsOnly_emitGroup_builtin rfl target.1 target.2

theorem failsOnly_render (templates : TemplateSet) (kind : ArtifactKind) (bindings : Mapping Json) :
    FailsOnly (¬·.IsCollision) (render templates kind bindings) := by
  apply failsOnly_mapError
  rintro fault ⟨clash, h⟩
  cases h

theorem failsOnly_sharedArtifacts (run : Run) : FailsOnly (¬·.IsCollision) (sharedArtifacts run) := by
  apply FailsOnly.bind (failsOnly_render _ _ _)
  intro types _
  dsimp only
  split
  · exact FailsOnly.bind (failsOnly_render _ _ _) fun _ _ => .ok _
  · exact .ok _

theorem Gives.failsOnly (h : Gives document options templates given) :
    FailsOnly (¬·.IsCollision) (transform document options templates) := by
  apply failsOnly_transform
  · rintro fault - ⟨clash, h⟩
    cases h
  · rw [h.registry]
    exact .ok _
  · rw [h.stems]
    exact .ok _
  · intro _ names hnames
    obtain rfl := Except.ok.inj (hnames.symm.trans h.registry)
    refine ⟨failsOnly_sharedArtifacts _, ?_⟩
    intro stems hstems target htarget
    obtain rfl := Except.ok.inj (hstems.symm.trans h.stems)
    rw [← h.targets] at htarget
    obtain ⟨client, hclient, rfl⟩ := List.mem_map.mp htarget
    unfold emitGroup
    rw [h.content client hclient]
    exact failsOnly_render _ _ _

theorem transform_options_iff (document : Document) (options : Options) (fault : OptionsFault) :
    transform document options .builtin = .error (.options fault) ↔ options.fault? = some fault := by
  cases hfault : options.fault? with
  | some fault' =>
    unfold transform
    rw [hfault]
    constructor
    · intro h
      cases h
      rfl
    · intro h
      cases h
      rfl
  | none =>
    constructor
    · intro h
      obtain ⟨clash, hclash⟩ := failsOnly_transform_builtin document hfault _ h
      cases hclash
    · intro h
      cases h

theorem transform_loose (document : Document) (hfault : options.fault? = none)
    (hloose : options.strictNames = false) :
    ∃ artifacts, transform document options .builtin = .ok artifacts := by
  obtain ⟨given, hgiven⟩ := exists_gives document .builtin hloose
  cases h : transform document options .builtin with
  | ok artifacts => exact ⟨artifacts, rfl⟩
  | error failure =>
    exact absurd (failsOnly_transform_builtin document hfault failure h) (hgiven.failsOnly failure h)

/-- Every object is a document unless it says that it is of the second version of the format. From
there on only settings, or equal names that are refused, stop a transformation. -/
theorem failures_of_transform (raw : Json) :
    ((∃ document, Document.ofJson raw = .ok document) ↔
      ∃ root : Mapping Json, raw = .object root ∧ root.has "swagger" = false ∧
        ∀ version, root.get? "openapi" = some (.text version) →
          version.startsWith "2" = false) ∧
    ∀ document, Document.ofJson raw = .ok document → ∀ options : Options,
      (∀ fault, transform document options .builtin = .error (.options fault) ↔
        options.fault? = some fault) ∧
      (options.fault? = none → options.strictNames = false →
        ∃ artifacts, transform document options .builtin = .ok artifacts) ∧
      (options.fault? = none → options.strictNames = true →
        ∀ failure, transform document options .builtin = .error failure →
          ∃ clash, failure = .collision clash) := by
  refine ⟨Document.ofJson_ok_iff raw, fun document _ options => ⟨?_, ?_, ?_⟩⟩
  · exact transform_options_iff document options
  · exact transform_loose document
  · exact fun hfault _ => failsOnly_transform_builtin document hfault

theorem failures_of_transform_malformed :
    let refer : String → Json := fun pointer => .object [("$ref", .text pointer)]
    let raw : Json := .object [
      ("openapi", .number (.whole 2)), ("info", .text "none"),
      ("paths", .object [
        ("/a", .object [("post", .object [("tags", .bool true), ("responses", .array [])])]),
        ("/b", .object [("post", .object [("requestBody", refer "#/none"), ("responses", .object [
          ("200", .object [("content", .object [("text", .object [
            ("schema", refer "#/components/schemas/loop")])])])])])]),
        ("/c", refer "#/paths/~1c"), ("/d", .null)]),
      ("components", .object [("schemas", .object [
        ("loop", .object [("type", .number (.whole 1)),
          ("items", refer "#/components/schemas/loop/items")])])])]
    let strict : Options := { strictNames := true }
    let blank : Options := { fallbackTag := " " }
    ∃ document, Document.ofJson raw = .ok document ∧
      (∃ artifacts, transform document {} .builtin = .ok artifacts) ∧
      (∃ clash, transform document strict .builtin = .error (.collision clash)) ∧
      transform document blank .builtin = .error (.options (.blank "fallback_tag")) := by
  intro refer raw strict blank
  obtain ⟨hread, hstops⟩ := failures_of_transform raw
  obtain ⟨document, hdocument⟩ := hread.mpr
    ⟨_, rfl, by decide, fun version h => by simp [Mapping.get?] at h⟩
  have hclash : ((Document.ofJson raw).toOption.bind fun document =>
      (transform document strict .builtin).toOption).isSome = false := by decide +kernel
  rw [hdocument] at hclash
  refine ⟨document, hdocument, ?_, ?_, ?_⟩
  · obtain ⟨-, hloose, -⟩ := hstops document hdocument {}
    exact hloose (by decide) rfl
  · obtain ⟨-, -, honly⟩ := hstops document hdocument strict
    cases htransform : transform document strict .builtin with
    | ok artifacts => simp [Except.toOption, htransform] at hclash
    | error failure =>
      obtain ⟨clash, rfl⟩ := honly (by decide) rfl failure htransform
      exact ⟨clash, rfl⟩
  · obtain ⟨hoptions, -, -⟩ := hstops document hdocument blank
    exact (hoptions (.blank "fallback_tag")).mpr (by decide)

end Artifact

end TypedClient
