import TypedClient.Proofs.Files.Frame

/-!
A text that has been written is read back, whatever the path looks like: a path that ends in a dot
or two leads to a directory, so a file is always written below one, under its own name.
-/

namespace TypedClient

theorem Text.exists_part {separator c : Char} {text : List Char} (hmem : c ∈ text)
    (hne : c ≠ separator) : ∃ part ∈ split separator text, part ≠ [] := by
  induction text with
  | nil => cases hmem
  | cons d text ih =>
    rw [split]
    split
    next hd =>
      have hrest : c ∈ text := (List.mem_cons.mp hmem).resolve_left fun he => hne (he.trans hd)
      obtain ⟨part, hpart, hfull⟩ := ih hrest
      exact ⟨part, List.mem_cons_of_mem [] hpart, hfull⟩
    · split
      · exact ⟨[d], List.mem_cons_self, List.cons_ne_nil d []⟩
      next part parts _ => exact ⟨d :: part, List.mem_cons_self, List.cons_ne_nil d part⟩

theorem Path.names_ne_nil {path : String} (hpath : path ≠ "") (hslash : endsInSlash path = false) :
    names path ≠ [] := by
  have hne : path.toList ≠ [] := by simpa using hpath
  have hlast : path.toList.getLast hne ≠ '/' := by
    simpa [endsInSlash, List.getLast?_eq_some_getLast hne] using hslash
  obtain ⟨part, hpart, hfull⟩ := Text.exists_part (List.getLast_mem hne) hlast
  intro hnil
  have hnames : String.ofList part ∈ names path :=
    List.mem_map_of_mem (List.mem_filter.mpr ⟨hpart, by simpa using hfull⟩)
  rw [hnil] at hnames
  cases hnames

namespace Store

variable {store : Store} {place next : List String} {names : List String} {path name text : String}

theorem next?_cases (hplace : store.nodeAt? place = some .directory)
    (hnext : next? place name = some next) :
    store.nodeAt? next = some .directory ∨ next = place ++ [name] := by
  unfold next? at hnext
  split at hnext
  · obtain rfl := Option.some.inj hnext
    exact .inl hplace
  · split at hnext
    · obtain rfl := Option.some.inj hnext
      left
      by_cases hroot : place = []
      · rw [hroot] at hplace ⊢
        exact hplace
      · rw [← List.dropLast_concat_getLast hroot] at hplace
        exact Entry.node?_of_append (List.cons_ne_nil _ []) hplace
    · split at hnext
      · cases hnext
      · exact .inr (Option.some.inj hnext).symm

theorem steps_cases (hnames : names ≠ []) (h : names.foldlM store.step place = .ok next) :
    store.nodeAt? next = some .directory ∨
      ∃ parent name, store.nodeAt? parent = some .directory ∧ next = parent ++ [name] := by
  rw [← List.dropLast_concat_getLast hnames, List.foldlM_append] at h
  obtain ⟨parent, -, hlast⟩ := Outcome.bind_ok h
  obtain ⟨after, hstep, hafter⟩ := Outcome.bind_ok hlast
  obtain rfl : after = next := Except.ok.inj hafter
  obtain ⟨hparent, hnext⟩ := step_eq_ok_iff.mp hstep
  exact (next?_cases hparent hnext).imp_right fun he => ⟨parent, _, hparent, he⟩

theorem locatePath_cases (h : store.locatePath path = .ok place) :
    store.nodeAt? place = some .directory ∨
      ∃ parent name, store.nodeAt? parent = some .directory ∧ place = parent ++ [name] := by
  unfold locatePath at h
  obtain ⟨⟨hpath, -⟩, hsteps⟩ := locate_eq_ok_iff.mp h
  refine steps_cases ?_ hsteps
  cases hslash : Path.endsInSlash path with
  | true => simp
  | false => simpa using Path.names_ne_nil (by simpa using hpath) hslash

theorem readText?_writeText (h : store.accepts path = true) (text : String) :
    (store.writeText path text).2.readText? path = some text := by
  obtain ⟨place, hlocate, hfree⟩ := accepts_iff.mp h
  obtain ⟨parent, name, hparent, rfl⟩ := (locatePath_cases hlocate).resolve_left hfree
  refine readText?_eq_some_iff.mpr ⟨parent ++ [name], ?_, ?_⟩
  · exact (writeText_frame store path text).toDirectoriesIn.locatePath hlocate
  · rw [writeText_eq, hlocate]
    dsimp only
    rw [if_neg hfree]
    exact Entry.node?_put_self (.file text) name hparent

end Store

end TypedClient
