import TypedClient.CommandLine.Run
import TypedClient.Proofs.Generation

namespace TypedClient.CommandLine

open Generation (prepare writeArtifacts Delivered)

variable {environment : Environment} {arguments : Arguments} {words : List String}

theorem load_readsOnly (path : String) : ReadsOnly (Config.load path) := by
  apply ReadsOnly.bind (.lift fun _ => rfl)
  intro text?
  split
  · exact .throw _
  · split
    · exact .pure _
    · exact .throw _

theorem baseConfig_readsOnly (arguments : Arguments) : ReadsOnly (baseConfig arguments) := by
  unfold baseConfig
  split
  · exact (load_readsOnly _).adapt _
  · exact .pure _
  · exact .throw _

theorem resolveConfig_readsOnly (arguments : Arguments) : ReadsOnly (resolveConfig arguments) :=
  (baseConfig_readsOnly arguments).bind fun _ => .pure _

def outcomeOf (config : Config) (watches : Bool) : Except Failure Artifacts → Outcome
  | .ok artifacts => .generated config artifacts watches
  | .error failure => .failed (.generation config.schemaPath failure)

theorem exitCode_outcomeOf (config : Config) (watches : Bool) (result : Except Failure Artifacts) :
    (outcomeOf config watches result).exitCode = 0 ↔ ∃ artifacts, result = .ok artifacts := by
  cases result <;> simp [outcomeOf, Outcome.exitCode]

theorem run_generate (hwords : parse? words = some (.generate arguments))
    (environment : Environment) (store : Store) :
    (run environment words : StateM Store Outcome).run store =
      (match (runOn (runGenerate environment arguments) store).1 with
        | .ok (config, artifacts) => .generated config artifacts arguments.watch
        | .error fault => .failed fault,
      (runOn (runGenerate environment arguments) store).2) := by
  have hstep : (run environment words : StateM Store Outcome).run store =
      (match (runOn (runGenerate environment arguments) store).1 with
        | .ok (config, artifacts) => pure (.generated config artifacts arguments.watch)
        | .error fault => pure (.failed fault) : StateM Store Outcome).run
          (runOn (runGenerate environment arguments) store).2 := by
    unfold run
    rw [hwords]
    rfl
  rw [hstep]
  cases runOn (runGenerate environment arguments) store with
  | mk result last => cases result <;> rfl

theorem run_of_unresolved {store : Store} {fault : CommandFault}
    (hwords : parse? words = some (.generate arguments))
    (h : runOn (resolveConfig arguments) store = (.error fault, store))
    (environment : Environment) :
    (run environment words : StateM Store Outcome).run store = (.failed fault, store) := by
  have hgenerate : runOn (runGenerate environment arguments) store = (.error fault, store) := by
    unfold runGenerate
    rw [runOn_bind, h]
  rw [run_generate hwords, hgenerate]

theorem run_of_resolved {store : Store} {config : Config}
    (hwords : parse? words = some (.generate arguments))
    (h : runOn (resolveConfig arguments) store = (.ok config, store))
    (environment : Environment) : (run environment words : StateM Store Outcome).run store =
      (outcomeOf config arguments.watch (runOn (generate environment config) store).1,
        (runOn (generate environment config) store).2) := by
  rw [run_generate hwords]
  unfold runGenerate
  rw [runOn_bind, h]
  dsimp only
  rw [runOn_bind, runOn_adapt]
  cases runOn (generate environment config) store with
  | mk result last => cases result <;> rfl

/-- A run that fails before it writes leaves the files as they were, and one that succeeds puts each
artifact into its file, in whatever order, and touches no other file; so does the program, whose
status tells which it was. -/
theorem writes_only_artifacts (environment : Environment) (store : Store) :
    (∀ config, ∃ prepared, runOn (prepare environment config) store = (prepared, store) ∧
      (∀ failure, prepared = .error failure →
        runOn (generate environment config) store = (.error failure, store)) ∧
      ∀ artifacts last, runOn (generate environment config) store = (.ok artifacts, last) →
        prepared = .ok artifacts ∧ (config.options.IsConfined →
          Delivered config.outputDir artifacts store last ∧
          ∀ order, order.Perm artifacts → ∃ after,
            runOn (writeArtifacts config.outputDir order) store = (.ok (), after) ∧
            Delivered config.outputDir artifacts store after)) ∧
    ∀ words arguments, parse? words = some (.generate arguments) → arguments.watch = false →
      ∃ resolved outcome last, runOn (resolveConfig arguments) store = (resolved, store) ∧
        (run environment words : StateM Store Outcome).run store = (outcome, last) ∧
        (outcome.exitCode = 0 ↔ ∃ config artifacts, resolved = .ok config ∧
          (runOn (generate environment config) store).1 = .ok artifacts) ∧
        (∀ config artifacts, resolved = .ok config →
          (runOn (generate environment config) store).1 = .ok artifacts →
          outcome = .generated config artifacts false ∧
          (config.options.IsConfined → Delivered config.outputDir artifacts store last)) ∧
        (∀ fault, resolved = .error fault → outcome.exitCode = 1 ∧ last = store) ∧
        ∀ config failure, resolved = .ok config →
          (runOn (prepare environment config) store).1 = .error failure →
          outcome.exitCode = 1 ∧ last = store := by
  constructor
  · intro config
    have hreads := Generation.prepare_readsOnly environment config
    obtain ⟨prepared, hprepared⟩ := hreads.exists_result store
    refine ⟨prepared, hprepared, ?_, ?_⟩
    · rintro failure rfl
      exact Generation.generate_of_failed hprepared
    · intro artifacts last hrun
      have hboth := (Generation.generate_eq_ok_iff.mp hrun).1
      refine ⟨congrArg Prod.fst (hprepared.symm.trans hboth), ?_⟩
      intro hconfined
      exact ⟨Generation.delivered_of_generate hrun hconfined, fun order horder =>
        Generation.delivered_in_order hrun hconfined horder⟩
  · intro words arguments hwords hwatch
    obtain ⟨resolved, hresolved⟩ := (resolveConfig_readsOnly arguments).exists_result store
    cases resolved with
    | error fault =>
      have hrun := run_of_unresolved hwords hresolved environment
      refine ⟨_, _, _, hresolved, hrun, ?_, ?_, ?_, ?_⟩
      · simp [Outcome.exitCode]
      · rintro config artifacts ⟨⟩
      · intro _ _
        exact ⟨rfl, rfl⟩
      · rintro config failure ⟨⟩
    | ok config =>
      have hrun := run_of_resolved hwords hresolved environment
      rw [hwatch] at hrun
      refine ⟨_, _, _, hresolved, hrun, ?_, ?_, ?_, ?_⟩
      · rw [exitCode_outcomeOf]
        simp
      · rintro _ artifacts ⟨⟩ hresult
        refine ⟨by rw [hresult]; rfl, ?_⟩
        exact Generation.delivered_of_generate (Prod.ext hresult rfl)
      · rintro fault ⟨⟩
      · rintro _ failure ⟨⟩ hfailed
        have hprepared := Generation.prepare_readsOnly environment config store
        have hgenerate := Generation.generate_of_failed (Prod.ext hfailed hprepared)
        rw [hgenerate]
        exact ⟨rfl, rfl⟩

theorem writes_only_artifacts_new_directory :
    let text := "\x7b\"paths\": \x7b\"/a\": \x7b\"get\": \x7b\x7d\x7d\x7d\x7d"
    let store : Store := ⟨.directory [("work", .directory [("api.json", .file text)])], ["work"]⟩
    let config : Config := { schemaPath := "api.json", outputDir := "out/api" }
    let words := ["generate", "--schema-path", "api.json", "--output-dir", "out/api"]
    let missing := ["generate", "--schema-path", "none.json"]
    ∃ artifacts last outcome ended failed,
      runOn (generate {} config) store = (.ok artifacts, last) ∧
      artifacts.map (·.1) = ["types.ts", "request.ts", "default.ts"] ∧
      Delivered "out/api" artifacts store last ∧
      (run {} words : StateM Store Outcome).run store = (outcome, ended) ∧ outcome.exitCode = 0 ∧
      Delivered "out/api" artifacts store ended ∧
      (run {} missing : StateM Store Outcome).run store = (failed, store) ∧ failed.exitCode = 1 := by
  intro text store config words missing
  have hfiles : ((runOn (generate {} config) store).1.toOption.map fun artifacts =>
      artifacts.map (·.1)) = some ["types.ts", "request.ts", "default.ts"] := by decide +kernel
  obtain ⟨artifacts, hartifacts, hnames⟩ := Option.map_eq_some_iff.mp hfiles
  have hresult := Outcome.ok_of_toOption hartifacts
  have hconfined : config.options.IsConfined := ⟨by decide, by decide, by decide⟩
  obtain ⟨hgenerate, hprogram⟩ := writes_only_artifacts {} store
  obtain ⟨prepared, -, -, hok⟩ := hgenerate config
  have hlast := (hok artifacts _ (Prod.ext hresult rfl)).2 hconfined
  obtain ⟨resolved, outcome, ended, hresolved, hrun, hexit, hended, -, -⟩ := hprogram words
    { schemaPath := some "api.json", outputDir := some "out/api" } (by decide +kernel) rfl
  obtain rfl : resolved = .ok config := congrArg Prod.fst hresolved.symm
  obtain ⟨failing, failed, after, hfailing, hfailed, -, -, -, hkept⟩ := hprogram missing
    { schemaPath := some "none.json" } (by decide +kernel) rfl
  obtain rfl : failing = .ok { schemaPath := "none.json", outputDir := defaultOutputDir } :=
    congrArg Prod.fst hfailing.symm
  obtain ⟨hstatus, rfl⟩ := hkept _ .io rfl rfl
  exact ⟨artifacts, _, outcome, ended, failed, Prod.ext hresult rfl, hnames, hlast.1, hrun,
    hexit.mpr ⟨config, artifacts, rfl, hresult⟩, (hended config artifacts rfl hresult).2 hconfined,
    hfailed, hstatus⟩

end TypedClient.CommandLine
