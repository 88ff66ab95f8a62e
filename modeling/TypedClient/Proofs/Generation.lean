import TypedClient.Proofs.Artifact.Entries
import TypedClient.Proofs.Files.Writing

namespace TypedClient

open Store (run_bind writeEach)

section

variable {ε ε' α β : Type}

def runOn (action : ExceptT ε (StateM Store) α) (store : Store) : Except ε α × Store :=
  action.run.run store

theorem runOn_bind (action : ExceptT ε (StateM Store) α)
    (next : α → ExceptT ε (StateM Store) β) (store : Store) :
    runOn (action >>= next) store =
      match runOn action store with
      | (.ok value, after) => runOn (next value) after
      | (.error fault, after) => (.error fault, after) := by
  unfold runOn
  rw [ExceptT.run_bind, run_bind]
  cases hrun : action.run.run store with
  | mk result after => cases result <;> rfl

theorem runOn_bind_eq_ok_iff {action : ExceptT ε (StateM Store) α}
    {next : α → ExceptT ε (StateM Store) β} {store last : Store} {result : β} :
    runOn (action >>= next) store = (.ok result, last) ↔
      ∃ value between, runOn action store = (.ok value, between) ∧
        runOn (next value) between = (.ok result, last) := by
  rw [runOn_bind]
  cases hrun : runOn action store with
  | mk first after => cases first <;> simp

theorem runOn_lift (action : StateM Store α) (store : Store) :
    runOn (liftM action : ExceptT ε (StateM Store) α) store =
      (.ok (action.run store).1, (action.run store).2) :=
  rfl

theorem runOn_adapt (f : ε → ε') (action : ExceptT ε (StateM Store) α) (store : Store) :
    runOn (ExceptT.adapt f action) store =
      ((runOn action store).1.mapError f, (runOn action store).2) :=
  rfl

theorem runOn_mapM_lift (action : α → StateM Store β) (items : List α) (store : Store) :
    runOn (items.mapM fun item => (liftM (action item) : ExceptT ε (StateM Store) β)) store =
      (.ok ((items.mapM action).run store).1, ((items.mapM action).run store).2) := by
  induction items generalizing store with
  | nil => rfl
  | cons item items ih =>
    rw [List.mapM_cons, List.mapM_cons, runOn_bind, runOn_lift]
    dsimp only
    rw [runOn_bind, ih]
    rfl

def ReadsOnly (action : ExceptT ε (StateM Store) α) : Prop :=
  ∀ store, (runOn action store).2 = store

theorem ReadsOnly.exists_result {action : ExceptT ε (StateM Store) α} (h : ReadsOnly action)
    (store : Store) : ∃ result, runOn action store = (result, store) :=
  ⟨_, Prod.ext rfl (h store)⟩

theorem ReadsOnly.of_except (result : Except ε α) :
    ReadsOnly (ExceptT.mk (pure result : StateM Store (Except ε α))) :=
  fun _ => rfl

theorem ReadsOnly.pure (value : α) : ReadsOnly (pure value : ExceptT ε (StateM Store) α) :=
  fun _ => rfl

theorem ReadsOnly.throw (fault : ε) : ReadsOnly (throw fault : ExceptT ε (StateM Store) α) :=
  fun _ => rfl

theorem ReadsOnly.lift {action : StateM Store α} (h : ∀ store, (action.run store).2 = store) :
    ReadsOnly (liftM action : ExceptT ε (StateM Store) α) :=
  h

theorem ReadsOnly.adapt (f : ε → ε') {action : ExceptT ε (StateM Store) α}
    (h : ReadsOnly action) : ReadsOnly (ExceptT.adapt f action) :=
  h

theorem ReadsOnly.bind {action : ExceptT ε (StateM Store) α}
    {next : α → ExceptT ε (StateM Store) β} (haction : ReadsOnly action)
    (hnext : ∀ value, ReadsOnly (next value)) : ReadsOnly (action >>= next) := by
  intro before
  have hbefore := haction before
  rw [runOn_bind]
  cases hrun : runOn action before with
  | mk result after =>
    rw [hrun] at hbefore
    cases hbefore
    cases result with
    | error fault => rfl
    | ok value => exact hnext value after

theorem ReadsOnly.foldlM {step : β → α → ExceptT ε (StateM Store) β}
    (h : ∀ value item, ReadsOnly (step value item)) (items : List α) (value : β) :
    ReadsOnly (items.foldlM step value) := by
  induction items generalizing value with
  | nil => exact .pure value
  | cons item items ih =>
    rw [List.foldlM_cons]
    exact (h value item).bind ih

end

namespace Generation

variable {environment : Environment} {config : Config} {store last : Store}

theorem loadValue_readsOnly (location : String) (fetch : String → Except FetchFault String) :
    ReadsOnly (loadValue location fetch) := by
  unfold loadValue
  split
  · exact .of_except _
  apply ReadsOnly.bind (.lift fun _ => rfl)
  intro text?
  split
  · exact .throw _
  · split
    · exact .pure _
    · exact .throw _

theorem loadDocument_readsOnly (environment : Environment) (location : String) :
    ReadsOnly (loadDocument environment location) := by
  apply (loadValue_readsOnly location environment.fetch).bind
  intro value
  split
  · exact .pure _
  · exact .throw _

theorem firstDirectory_reads (places : List String) (store : Store) :
    ((firstDirectory places : StateM Store (Option String)).run store).2 = store := by
  induction places generalizing store with
  | nil => rfl
  | cons path rest ih =>
    rw [firstDirectory, run_bind]
    split
    · rfl
    · exact ih store

theorem discoverTemplates_readsOnly (environment : Environment) (asked : Option String) :
    ReadsOnly (discoverTemplates environment asked) := by
  cases asked with
  | none => exact .lift (firstDirectory_reads (templatePlaces environment))
  | some directory =>
    apply ReadsOnly.bind (.lift fun _ => rfl)
    intro found
    split
    · exact .pure _
    · exact .throw _

theorem overrideTemplate_readsOnly (directory : String) (set : TemplateSet) (kind : ArtifactKind) :
    ReadsOnly (overrideTemplate directory set kind) := by
  apply ReadsOnly.bind (.lift fun _ => rfl)
  intro found
  split
  · apply ReadsOnly.bind (.lift fun _ => rfl)
    intro source?
    split
    · exact .throw _
    · split
      · exact .pure _
      · exact .throw _
  · exact .pure _

theorem loadTemplates_readsOnly (directory : Option String) :
    ReadsOnly (loadTemplates directory) := by
  cases directory with
  | none => exact .pure _
  | some directory => exact .foldlM (overrideTemplate_readsOnly directory) _ _

theorem prepare_readsOnly (environment : Environment) (config : Config) :
    ReadsOnly (prepare environment config) := by
  apply (loadDocument_readsOnly environment config.schemaPath).bind
  intro document
  apply (discoverTemplates_readsOnly environment config.templateDir).bind
  intro directory
  apply (loadTemplates_readsOnly directory).bind
  intro templates
  exact .of_except _

theorem runOn_writeArtifacts (directory : String) (entries : Artifacts) (store : Store) :
    runOn (writeArtifacts directory entries) store =
      let made := (MonadFiles.makePath directory : StateM Store Bool).run store
      let written := (writeEach directory entries).run made.2
      if made.1 then (if written.1.all id then .ok () else .error .io, written.2)
      else (.error .io, made.2) := by
  unfold writeArtifacts
  rw [runOn_bind, runOn_lift]
  cases hmade : (MonadFiles.makePath directory : StateM Store Bool).run store with
  | mk made between =>
    cases made with
    | false => rfl
    | true =>
      have heach : runOn (entries.mapM fun entry =>
          (liftM (MonadFiles.writeText (Path.join directory entry.1) entry.2 : StateM Store Bool) :
            ExceptT Failure (StateM Store) Bool)) between =
          (.ok ((writeEach directory entries).run between).1,
            ((writeEach directory entries).run between).2) := runOn_mapM_lift _ entries between
      change runOn (_ >>= _) between = _
      rw [runOn_bind, heach]
      dsimp only
      cases ((writeEach directory entries).run between).1.all id <;> rfl

theorem writeArtifacts_eq_ok_iff {directory : String} {entries : Artifacts} :
    runOn (writeArtifacts directory entries) store = (.ok (), last) ↔
      ∃ between, (MonadFiles.makePath directory : StateM Store Bool).run store = (true, between) ∧
        (∀ entry ∈ entries, between.accepts (Path.join directory entry.1) = true) ∧
        ((writeEach directory entries).run between).2 = last := by
  rw [runOn_writeArtifacts]
  cases hmade : (MonadFiles.makePath directory : StateM Store Bool).run store with
  | mk made between =>
    have haccepts : ((writeEach directory entries).run between).1.all id = true ↔
        ∀ entry ∈ entries, between.accepts (Path.join directory entry.1) = true := by
      rw [Store.writeEach_fst, List.all_map, List.all_eq_true]
      rfl
    dsimp only
    constructor
    · intro h
      cases made with
      | false => cases h
      | true =>
        by_cases hall : ((writeEach directory entries).run between).1.all id = true
        · rw [if_pos rfl, if_pos hall] at h
          exact ⟨between, rfl, haccepts.mp hall, congrArg Prod.snd h⟩
        · rw [if_pos rfl, if_neg hall] at h
          cases h
    · rintro ⟨between', hbetween, hall, rfl⟩
      cases hbetween
      rw [if_pos rfl, if_pos (haccepts.mpr hall)]

/-- Each artifact is in its file, and apart from that only the directory and those above it are
new. -/
structure Delivered (directory : String) (artifacts : Artifacts) (before after : Store) : Prop where
  content : ∀ entry ∈ artifacts, after.readText? (Path.join directory entry.1) = some entry.2
  frame : Store.Frame (after.placesOn directory) (after.placesOf directory artifacts) before after

theorem delivered_of_writeArtifacts {directory : String} {artifacts : Artifacts}
    (hnames : ∀ entry ∈ artifacts, Path.IsFileName entry.1)
    (hdistinct : (artifacts.map (·.1)).Nodup)
    (h : runOn (writeArtifacts directory artifacts) store = (.ok (), last)) :
    Delivered directory artifacts store last := by
  obtain ⟨between, hmade, haccepts, rfl⟩ := writeArtifacts_eq_ok_iff.mp h
  have hgrown := Store.grown_makePath store directory
  rw [hmade] at hgrown
  have hframe := Store.writeEach_frame directory artifacts between
  constructor
  · intro entry hentry
    exact Store.readText?_writeEach hnames hdistinct entry hentry (haccepts entry hentry)
  · apply Store.Frame.trans
    · exact hgrown.mono (hframe.placesOn directory) (Set.empty_subset _)
    · apply hframe.mono (Set.empty_subset _)
      rintro place ⟨entry, hentry, hplace⟩
      exact ⟨entry, hentry, hframe.locatePath hplace⟩

theorem delivered_of_perm {directory : String} {artifacts order : Artifacts}
    (hnames : ∀ entry ∈ artifacts, Path.IsFileName entry.1)
    (hdistinct : (artifacts.map (·.1)).Nodup) (horder : order.Perm artifacts)
    (h : runOn (writeArtifacts directory artifacts) store = (.ok (), last)) :
    ∃ after, runOn (writeArtifacts directory order) store = (.ok (), after) ∧
      Delivered directory artifacts store after := by
  obtain ⟨between, hmade, haccepts, -⟩ := writeArtifacts_eq_ok_iff.mp h
  have hrun : runOn (writeArtifacts directory order) store =
      (.ok (), ((writeEach directory order).run between).2) := writeArtifacts_eq_ok_iff.mpr
    ⟨between, hmade, fun entry hentry => haccepts entry (horder.mem_iff.mp hentry), rfl⟩
  have hdelivered := delivered_of_writeArtifacts
    (fun entry hentry => hnames entry (horder.mem_iff.mp hentry))
    ((horder.map (·.1)).nodup_iff.mpr hdistinct) hrun
  refine ⟨_, hrun, fun entry hentry => ?_, ?_⟩
  · exact hdelivered.content entry (horder.mem_iff.mpr hentry)
  · apply hdelivered.frame.mono (Set.Subset.refl _)
    rintro place ⟨entry, hentry, hplace⟩
    exact ⟨entry, horder.mem_iff.mp hentry, hplace⟩

theorem transform_of_prepare {artifacts : Artifacts}
    (h : runOn (prepare environment config) store = (.ok artifacts, last)) :
    ∃ document templates, transform document config.options templates = .ok artifacts := by
  obtain ⟨document, _, -, h⟩ := runOn_bind_eq_ok_iff.mp h
  obtain ⟨directory, _, -, h⟩ := runOn_bind_eq_ok_iff.mp h
  obtain ⟨templates, _, -, h⟩ := runOn_bind_eq_ok_iff.mp h
  exact ⟨document, templates, congrArg Prod.fst h⟩

theorem generate_of_failed {failure : Failure}
    (h : runOn (prepare environment config) store = (.error failure, store)) :
    runOn (generate environment config) store = (.error failure, store) := by
  unfold generate
  rw [runOn_bind, h]

theorem generate_eq_ok_iff {artifacts : Artifacts} :
    runOn (generate environment config) store = (.ok artifacts, last) ↔
      runOn (prepare environment config) store = (.ok artifacts, store) ∧
        runOn (writeArtifacts config.outputDir artifacts) store = (.ok (), last) := by
  have hreads := prepare_readsOnly environment config store
  constructor
  · intro h
    obtain ⟨prepared, between, hprepared, h⟩ := runOn_bind_eq_ok_iff.mp h
    obtain ⟨_, _, hwritten, h⟩ := runOn_bind_eq_ok_iff.mp h
    cases h
    rw [hprepared] at hreads
    cases hreads
    exact ⟨hprepared, hwritten⟩
  · rintro ⟨hprepared, hwritten⟩
    exact runOn_bind_eq_ok_iff.mpr ⟨artifacts, store, hprepared,
      runOn_bind_eq_ok_iff.mpr ⟨(), last, hwritten, rfl⟩⟩

theorem wellNamed_of_prepare {artifacts : Artifacts}
    (h : runOn (prepare environment config) store = (.ok artifacts, last))
    (hconfined : config.options.IsConfined) :
    (∀ entry ∈ artifacts, Path.IsFileName entry.1) ∧ (artifacts.map (·.1)).Nodup := by
  obtain ⟨document, templates, htransform⟩ := transform_of_prepare h
  obtain ⟨-, _, _, _, _, -, -, -, -, -, hdistinct⟩ := Artifact.transform_laid_out htransform
  exact ⟨Artifact.isFileName_of_transform htransform hconfined, hdistinct⟩

theorem delivered_of_generate {artifacts : Artifacts}
    (h : runOn (generate environment config) store = (.ok artifacts, last))
    (hconfined : config.options.IsConfined) :
    Delivered config.outputDir artifacts store last := by
  obtain ⟨hprepared, hwritten⟩ := generate_eq_ok_iff.mp h
  obtain ⟨hnames, hdistinct⟩ := wellNamed_of_prepare hprepared hconfined
  exact delivered_of_writeArtifacts hnames hdistinct hwritten

theorem delivered_in_order {artifacts order : Artifacts}
    (h : runOn (generate environment config) store = (.ok artifacts, last))
    (hconfined : config.options.IsConfined) (horder : order.Perm artifacts) :
    ∃ after, runOn (writeArtifacts config.outputDir order) store = (.ok (), after) ∧
      Delivered config.outputDir artifacts store after := by
  obtain ⟨hprepared, hwritten⟩ := generate_eq_ok_iff.mp h
  obtain ⟨hnames, hdistinct⟩ := wellNamed_of_prepare hprepared hconfined
  exact delivered_of_perm hnames hdistinct horder hwritten

end Generation

end TypedClient
