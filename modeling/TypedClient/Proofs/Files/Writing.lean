import TypedClient.Generation
import TypedClient.Proofs.Files.Frame

namespace TypedClient

inductive Path.IsAtOrAbove : String → String → Prop
  | self (path : String) : IsAtOrAbove path path
  | parent {top path parent : String} :
    Path.parent? path = some parent → IsAtOrAbove top parent → IsAtOrAbove top path

namespace Store

variable {α β : Type}

theorem run_bind (action : StateM Store α) (next : α → StateM Store β) (store : Store) :
    (action >>= next).run store = (next (action.run store).1).run (action.run store).2 :=
  rfl

def placesOn (store : Store) (path : String) : Set (List String) :=
  {place | ∃ top, Path.IsAtOrAbove top path ∧ store.locate top (Path.names top) = .ok place}

variable {before after : Store} {path parent : String}

theorem DirectoriesIn.placesOn (h : DirectoriesIn before after) (path : String) :
    before.placesOn path ⊆ after.placesOn path := by
  rintro place ⟨top, htop, hlocate⟩
  exact ⟨top, htop, h.locate hlocate⟩

theorem placesOn_parent (store : Store) (h : Path.parent? path = some parent) :
    store.placesOn parent ⊆ store.placesOn path := by
  rintro place ⟨top, htop, hlocate⟩
  exact ⟨top, .parent h htop, hlocate⟩

def Grown (path : String) (before after : Store) : Prop :=
  Frame (after.placesOn path) ∅ before after

theorem Grown.refl (path : String) (store : Store) : Grown path store store :=
  Frame.refl _ _ store

theorem Grown.trans {middle : Store} (hfirst : Grown path before middle)
    (hsecond : Grown path middle after) : Grown path before after := by
  apply Frame.trans _ hsecond
  exact hfirst.mono (hsecond.toDirectoriesIn.placesOn path) (Set.Subset.refl _)

theorem Grown.of_parent (hparent : Path.parent? path = some parent)
    (h : Grown parent before after) : Grown path before after :=
  h.mono (placesOn_parent after hparent) (Set.Subset.refl _)

theorem grown_makeDirectory (store : Store) (path : String) :
    Grown path store (store.makeDirectory path).2 := by
  apply (makeDirectory_frame store path).mono _ (Set.Subset.refl _)
  intro place hplace
  exact ⟨path, .self path, hplace⟩

theorem grown_ensureDirectory (store : Store) (path : String) :
    Grown path store ((MonadFiles.ensureDirectory path : StateM Store Bool).run store).2 := by
  have hmake := grown_makeDirectory store path
  unfold MonadFiles.ensureDirectory
  rw [run_bind]
  split
  · exact hmake
  · exact hmake

theorem grown_makeDirectories (limit : Nat) (path : String) (store : Store) :
    Grown path store
      ((MonadFiles.makeDirectories limit path : StateM Store Bool).run store).2 := by
  induction limit generalizing path store with
  | zero => exact Grown.refl path store
  | succ limit ih =>
    rw [MonadFiles.makeDirectories]
    split
    · exact Grown.refl path store
    have hmake := grown_makeDirectory store path
    rw [run_bind]
    split
    · exact hmake
    · exact hmake
    split
    · exact hmake
    next parent hparent =>
      -- the directories above are made first, and then the path is tried once more
      rw [run_bind]
      have habove := hmake.trans ((ih parent _).of_parent hparent)
      split
      · exact habove.trans (grown_ensureDirectory _ path)
      · exact habove

theorem grown_makePath (store : Store) (path : String) :
    Grown path store ((MonadFiles.makePath path : StateM Store Bool).run store).2 :=
  grown_makeDirectories _ path store

def writeEach (directory : String) (entries : Artifacts) : StateM Store (List Bool) :=
  entries.mapM fun (name, text) => MonadFiles.writeText (Path.join directory name) text

variable {store : Store} {directory : String} {entries : Artifacts}

def placesOf (store : Store) (directory : String) (entries : Artifacts) : Set (List String) :=
  {place | ∃ entry ∈ entries, store.locatePath (Path.join directory entry.1) = .ok place}

theorem writeEach_cons (directory : String) (entry : String × String) (entries : Artifacts)
    (store : Store) : (writeEach directory (entry :: entries)).run store =
      let written := store.writeText (Path.join directory entry.1) entry.2
      let rest := (writeEach directory entries).run written.2
      (written.1 :: rest.1, rest.2) := by
  rw [writeEach, List.mapM_cons]
  rfl

theorem writeEach_frame (directory : String) (entries : Artifacts) (store : Store) :
    Frame ∅ (store.placesOf directory entries) store
      ((writeEach directory entries).run store).2 := by
  induction entries generalizing store with
  | nil => exact Frame.refl _ _ store
  | cons entry entries ih =>
    rw [writeEach_cons]
    have hfirst := writeText_frame store (Path.join directory entry.1) entry.2
    have hrest := ih (store.writeText (Path.join directory entry.1) entry.2).2
    apply Frame.trans
    · apply hfirst.mono (Set.Subset.refl _)
      intro place hplace
      exact ⟨entry, by simp, hplace⟩
    · apply hrest.mono (Set.Subset.refl _)
      rintro place ⟨other, hother, hplace⟩
      exact ⟨other, by simp [hother], hfirst.directoriesIn.locatePath hplace⟩

theorem writeEach_fst (directory : String) (entries : Artifacts) (store : Store) :
    ((writeEach directory entries).run store).1 =
      entries.map fun entry => store.accepts (Path.join directory entry.1) := by
  induction entries generalizing store with
  | nil => rfl
  | cons entry entries ih =>
    have hfirst := writeText_frame store (Path.join directory entry.1) entry.2
    rw [writeEach_cons, List.map_cons]
    dsimp only
    rw [writeText_fst, ih]
    simp only [hfirst.accepts]

theorem readText?_writeEach (hnames : ∀ entry ∈ entries, Path.IsFileName entry.1)
    (hdistinct : (entries.map (·.1)).Nodup) :
    ∀ entry ∈ entries, store.accepts (Path.join directory entry.1) = true →
      ((writeEach directory entries).run store).2.readText? (Path.join directory entry.1) =
        some entry.2 := by
  induction entries generalizing store with
  | nil => simp
  | cons first entries ih =>
    obtain ⟨hnew, hdistinct⟩ := List.nodup_cons.mp hdistinct
    have hfirst := writeText_frame store (Path.join directory first.1) first.2
    have hrest := writeEach_frame directory entries
      (store.writeText (Path.join directory first.1) first.2).2
    intro entry hentry haccepts
    rw [writeEach_cons]
    rcases List.mem_cons.mp hentry with rfl | hentry
    · obtain ⟨place, hlocate, hnode⟩ :=
        nodeAt?_writeText_join entry.2 (hnames entry (by simp)) haccepts
      have hlater := hfirst.locatePath hlocate
      refine readText?_eq_some_iff.mpr ⟨place, hrest.locatePath hlater, ?_⟩
      -- no later file has this name, so no later write comes to this place
      refine (hrest.file place ?_ entry.2).mpr hnode
      rintro ⟨other, hother, hplace⟩
      have he := locatePath_join_injective (hnames entry (by simp))
        (hnames other (by simp [hother])) hlater hplace
      exact hnew (List.mem_map.mpr ⟨other, hother, he.symm⟩)
    · apply ih (fun other hother => hnames other (by simp [hother])) hdistinct entry hentry
      rw [hfirst.accepts]
      exact haccepts

end Store

end TypedClient
