import Mathlib.Data.Set.Insert
import TypedClient.Proofs.Files.FileNames
import TypedClient.Proofs.Files.Places

/-!
What operations on files leave alone. A path that leads somewhere still leads there after any of
them, because no directory goes away.
-/

namespace TypedClient

namespace Store

def nodeAt? (store : Store) (place : List String) : Option Node := store.root.node? place

structure DirectoriesIn (before after : Store) : Prop where
  workingDirectory : after.workingDirectory = before.workingDirectory
  directory : ∀ place, before.nodeAt? place = some .directory →
    after.nodeAt? place = some .directory

/-- One store becomes another by directories made at some places and files written at others. -/
structure Frame (made written : Set (List String)) (before after : Store) : Prop
    extends DirectoriesIn before after where
  new : ∀ place ∉ made, after.nodeAt? place = some .directory →
    before.nodeAt? place = some .directory
  file : ∀ place ∉ written, ∀ text,
    after.nodeAt? place = some (.file text) ↔ before.nodeAt? place = some (.file text)

section

variable {made made' written written' : Set (List String)} {before middle after : Store}

theorem Frame.refl (made written : Set (List String)) (store : Store) :
    Frame made written store store where
  workingDirectory := rfl
  directory := fun _ h => h
  new := fun _ _ h => h
  file := fun _ _ _ => Iff.rfl

theorem Frame.mono (h : Frame made written before after) (hmade : made ⊆ made')
    (hwritten : written ⊆ written') : Frame made' written' before after where
  toDirectoriesIn := h.toDirectoriesIn
  new := fun place hplace => h.new place fun hmem => hplace (hmade hmem)
  file := fun place hplace => h.file place fun hmem => hplace (hwritten hmem)

theorem Frame.trans (hfirst : Frame made written before middle)
    (hsecond : Frame made written middle after) : Frame made written before after where
  workingDirectory := hsecond.workingDirectory.trans hfirst.workingDirectory
  directory := fun place h => hsecond.directory place (hfirst.directory place h)
  new := fun place hplace h => hfirst.new place hplace (hsecond.new place hplace h)
  file := fun place hplace text =>
    (hsecond.file place hplace text).trans (hfirst.file place hplace text)

theorem Frame.directoriesIn (h : Frame ∅ written before after) : DirectoriesIn after before where
  workingDirectory := h.workingDirectory.symm
  directory := fun place => h.new place (Set.notMem_empty place)

end

def next? (place : List String) (name : String) : Option (List String) :=
  if name = "." then some place
  else if name = ".." then some place.dropLast
  else if name.utf8ByteSize > maxName then none
  else some (place ++ [name])

variable {store before after : Store} {place next : List String} {names : List String}
  {path name text directory : String}

theorem step_eq_ok_iff : store.step place name = .ok next ↔
    store.nodeAt? place = some .directory ∧ next? place name = some next := by
  unfold step next? nodeAt? Entry.node?
  cases hentry : store.root.descend? place with
  | none => simp
  | some entry =>
    cases entry with
    | file text => simp [Entry.node]
    | directory entries =>
      simp only [Option.map_some, Entry.node, true_and]
      split_ifs <;> simp

theorem DirectoriesIn.step (h : DirectoriesIn before after)
    (hstep : before.step place name = .ok next) : after.step place name = .ok next := by
  obtain ⟨hplace, hnext⟩ := step_eq_ok_iff.mp hstep
  exact step_eq_ok_iff.mpr ⟨h.directory place hplace, hnext⟩

theorem DirectoriesIn.steps (h : DirectoriesIn before after)
    (hsteps : names.foldlM before.step place = .ok next) :
    names.foldlM after.step place = .ok next := by
  induction names generalizing place with
  | nil => exact hsteps
  | cons name names ih =>
    rw [List.foldlM_cons] at hsteps ⊢
    obtain ⟨between, hstep, hsteps⟩ := Outcome.bind_ok hsteps
    rw [h.step hstep]
    exact ih hsteps

def start (store : Store) (path : String) : List String :=
  if Path.isAbsolute path then [] else store.workingDirectory

theorem locate_eq_ok_iff : store.locate path names = .ok place ↔
    (path.isEmpty = false ∧ ¬(path.utf8ByteSize > maxPath || path.toList.contains '\x00') = true) ∧
      names.foldlM store.step (store.start path) = .ok place := by
  unfold locate start
  by_cases hempty : path.isEmpty = true
  · simp [hempty]
  · rw [if_neg hempty]
    by_cases hrefused : (path.utf8ByteSize > maxPath || path.toList.contains '\x00') = true
    · rw [if_pos hrefused]
      simp only [hrefused]
      simp
    · rw [if_neg hrefused]
      simp only [hrefused, hempty]
      simp

theorem DirectoriesIn.locate (h : DirectoriesIn before after)
    (hlocate : before.locate path names = .ok place) : after.locate path names = .ok place := by
  obtain ⟨htext, hsteps⟩ := locate_eq_ok_iff.mp hlocate
  have hstart : after.start path = before.start path := by
    unfold start
    rw [h.workingDirectory]
  exact locate_eq_ok_iff.mpr ⟨htext, hstart ▸ h.steps hsteps⟩

theorem DirectoriesIn.locatePath (h : DirectoriesIn before after)
    (hlocate : before.locatePath path = .ok place) : after.locatePath path = .ok place :=
  h.locate hlocate

theorem locatePath_join (hname : Path.IsFileName name)
    (h : store.locatePath (Path.join directory name) = .ok place) :
    ∃ parent, (Path.names directory).foldlM store.step (store.start directory) = .ok parent ∧
      store.nodeAt? parent = some .directory ∧ place = parent ++ [name] := by
  unfold locatePath at h
  rw [Path.endsInSlash_join hname, if_neg (by decide), List.append_nil, Path.names_join hname] at h
  obtain ⟨-, hsteps⟩ := locate_eq_ok_iff.mp h
  have hstart : store.start (Path.join directory name) = store.start directory := by
    unfold start
    rw [Path.isAbsolute_join hname]
  rw [hstart, List.foldlM_append] at hsteps
  obtain ⟨parent, hparent, hlast⟩ := Outcome.bind_ok hsteps
  obtain ⟨next, hstep, hlast⟩ := Outcome.bind_ok hlast
  cases hlast
  obtain ⟨hdirectory, hnext⟩ := step_eq_ok_iff.mp hstep
  refine ⟨parent, hparent, hdirectory, ?_⟩
  unfold next? at hnext
  rw [if_neg hname.ne_dot, if_neg hname.ne_dots] at hnext
  split at hnext
  · cases hnext
  · exact (Option.some.inj hnext).symm

theorem locatePath_join_injective {other : String} (hname : Path.IsFileName name)
    (hother : Path.IsFileName other) (h : store.locatePath (Path.join directory name) = .ok place)
    (h' : store.locatePath (Path.join directory other) = .ok place) : name = other := by
  obtain ⟨parent, hparent, -, rfl⟩ := locatePath_join hname h
  obtain ⟨parent', hparent', -, he⟩ := locatePath_join hother h'
  rw [hparent] at hparent'
  cases hparent'
  simpa using he

theorem readText?_eq_some_iff : store.readText? path = some text ↔
    ∃ place, store.locatePath path = .ok place ∧ store.nodeAt? place = some (.file text) := by
  unfold readText? find? nodeAt? Entry.node?
  cases store.locatePath path with
  | error fault => simp
  | ok place =>
    cases hentry : store.root.descend? place with
    | none => simp [hentry]
    | some entry => cases entry <;> simp [hentry, Entry.node]

theorem frame_put_file (text : String) (h : store.nodeAt? place ≠ some .directory) :
    Frame ∅ {place} store { store with root := Entry.put (.file text) place store.root } := by
  have hput := Entry.node?_put (Entry.isLeaf_file text) h
  constructor
  · constructor
    · rfl
    · intro other hother
      rcases hput other with he | ⟨rfl, -⟩
      · exact he.trans hother
      · exact absurd hother h
  · intro other _ hother
    rcases hput other with he | ⟨-, he⟩
    · exact he.symm.trans hother
    · cases he.symm.trans hother
  · intro other hne text'
    rcases hput other with he | ⟨he, -⟩
    · unfold nodeAt?
      rw [he]
    · exact absurd he hne

theorem frame_put_directory (h : store.nodeAt? place = none) :
    Frame {place} ∅ store { store with root := Entry.put (.directory []) place store.root } := by
  have hplace : store.root.node? place ≠ some .directory := by
    intro he
    cases h.symm.trans he
  have hput := Entry.node?_put Entry.isLeaf_directory hplace
  constructor
  · constructor
    · rfl
    · intro other hother
      rcases hput other with he | ⟨rfl, -⟩
      · exact he.trans hother
      · cases h.symm.trans hother
  · intro other hne hother
    rcases hput other with he | ⟨he, -⟩
    · exact he.symm.trans hother
    · exact absurd he hne
  · intro other _ text
    rcases hput other with he | ⟨rfl, he⟩
    · unfold nodeAt?
      rw [he]
    · constructor
      · intro hother
        cases he.symm.trans hother
      · intro hother
        cases h.symm.trans hother

theorem makeDirectory_cases (store : Store) (path : String) :
    (store.makeDirectory path).2 = store ∨
      ∃ place, store.locate path (Path.names path) = .ok place ∧ store.nodeAt? place = none ∧
        (store.makeDirectory path).2 =
          { store with root := Entry.put (.directory []) place store.root } := by
  unfold makeDirectory
  split
  · exact .inl rfl
  · exact .inl rfl
  next place hlocate =>
    split
    · exact .inl rfl
    next hnone =>
      refine .inr ⟨place, hlocate, ?_, rfl⟩
      unfold nodeAt? Entry.node?
      rw [Option.not_isSome_iff_eq_none.mp hnone]
      rfl

theorem makeDirectory_frame (store : Store) (path : String) :
    Frame {place | (store.makeDirectory path).2.locate path (Path.names path) = .ok place} ∅ store
      (store.makeDirectory path).2 := by
  rcases makeDirectory_cases store path with h | ⟨place, hlocate, hnone, h⟩
  · rw [h]
    exact Frame.refl _ _ store
  · have hframe := frame_put_directory hnone
    rw [h]
    apply hframe.mono _ (Set.Subset.refl _)
    rintro _ rfl
    exact hframe.locate hlocate

def accepts (store : Store) (path : String) : Bool :=
  match store.locatePath path with
  | .error _ => false
  | .ok place => store.nodeAt? place != some .directory

theorem accepts_iff : store.accepts path = true ↔
    ∃ place, store.locatePath path = .ok place ∧ store.nodeAt? place ≠ some .directory := by
  unfold accepts
  cases store.locatePath path with
  | error fault => simp
  | ok place => simp

theorem writeText_eq (store : Store) (path text : String) : store.writeText path text =
    match store.locatePath path with
    | .error _ => (false, store)
    | .ok place =>
      if store.nodeAt? place = some .directory then (false, store)
      else (true, { store with root := Entry.put (.file text) place store.root }) := by
  unfold writeText nodeAt? Entry.node?
  cases store.locatePath path with
  | error fault => rfl
  | ok place =>
    cases hentry : store.root.descend? place with
    | none => simp [hentry]
    | some entry => cases entry <;> simp [hentry, Entry.node]

theorem writeText_fst (store : Store) (path text : String) :
    (store.writeText path text).1 = store.accepts path := by
  rw [writeText_eq, accepts]
  cases store.locatePath path with
  | error fault => rfl
  | ok place =>
    dsimp only
    split
    next h => simp [h]
    next h => simpa using h

theorem writeText_frame (store : Store) (path text : String) :
    Frame ∅ {place | store.locatePath path = .ok place} store (store.writeText path text).2 := by
  rw [writeText_eq]
  cases hlocate : store.locatePath path with
  | error fault => exact Frame.refl _ _ store
  | ok place =>
    dsimp only
    split
    · exact Frame.refl _ _ store
    next h =>
      apply (frame_put_file text h).mono (Set.Subset.refl _)
      rintro _ rfl
      rfl

theorem nodeAt?_writeText_join (text : String) (hname : Path.IsFileName name)
    (haccepts : store.accepts (Path.join directory name) = true) :
    ∃ place, store.locatePath (Path.join directory name) = .ok place ∧
      (store.writeText (Path.join directory name) text).2.nodeAt? place = some (.file text) := by
  obtain ⟨place, hlocate, hfree⟩ := accepts_iff.mp haccepts
  obtain ⟨parent, -, hparent, rfl⟩ := locatePath_join hname hlocate
  refine ⟨_, hlocate, ?_⟩
  rw [writeText_eq, hlocate]
  dsimp only
  rw [if_neg hfree]
  exact Entry.node?_put_self (.file text) name hparent

-- Whether a file can be written depends on directories alone, and these are the same.
theorem Frame.accepts {written : Set (List String)} (h : Frame ∅ written before after)
    (path : String) : after.accepts path = before.accepts path := by
  have hmono : ∀ {one other : Store}, DirectoriesIn one other → DirectoriesIn other one →
      one.accepts path = true → other.accepts path = true := by
    intro one other hin hback haccepts
    obtain ⟨place, hlocate, hfree⟩ := accepts_iff.mp haccepts
    exact accepts_iff.mpr ⟨place, hin.locatePath hlocate, fun hd => hfree (hback.directory place hd)⟩
  rw [Bool.eq_iff_iff]
  exact ⟨hmono h.directoriesIn h.toDirectoriesIn, hmono h.toDirectoriesIn h.directoriesIn⟩

end Store

end TypedClient
