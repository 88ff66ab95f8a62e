import TypedClient.Mapping

namespace TypedClient

namespace Outcome

variable {ε ε' α β : Type}

theorem bind_ok {step : Except ε α} {next : α → Except ε β} {result : β}
    (h : step >>= next = .ok result) : ∃ value, step = .ok value ∧ next value = .ok result := by
  cases step with
  | error fault => cases h
  | ok value => exact ⟨value, rfl, h⟩

theorem mapError_ok {step : Except ε α} {f : ε → ε'} {result : α}
    (h : step.mapError f = .ok result) : step = .ok result := by
  cases step with
  | error fault => cases h
  | ok value =>
    cases h
    rfl

theorem exists_ok {step : Except ε α} (h : step.toOption.isSome = true) :
    ∃ result, step = .ok result := by
  cases step with
  | error fault => cases h
  | ok result => exact ⟨result, rfl⟩

theorem ok_of_toOption {step : Except ε α} {result : α} (h : step.toOption = some result) :
    step = .ok result := by
  cases step with
  | error fault => cases h
  | ok value =>
    cases h
    rfl

theorem mapM_ok {f : α → Except ε β} {g : α → β} {items : List α}
    (h : ∀ item ∈ items, f item = .ok (g item)) : items.mapM f = .ok (items.map g) := by
  induction items with
  | nil => rfl
  | cons item items ih =>
    have hrest := ih fun item hitem => h item (by simp [hitem])
    rw [List.mapM_cons, h item (by simp), hrest]
    rfl

def FailsOnly (Kind : ε → Prop) (step : Except ε α) : Prop :=
  ∀ fault, step = .error fault → Kind fault

section

variable {Kind : ε → Prop}

theorem FailsOnly.ok (value : α) : FailsOnly Kind (.ok value) := by
  intro fault h
  cases h

theorem FailsOnly.bind {step : Except ε α} {next : α → Except ε β} (hstep : FailsOnly Kind step)
    (hnext : ∀ value, step = .ok value → FailsOnly Kind (next value)) :
    FailsOnly Kind (step >>= next) := by
  intro fault h
  cases step with
  | error fault' =>
    cases h
    exact hstep fault rfl
  | ok value => exact hnext value rfl fault h

theorem failsOnly_mapError {f : ε' → ε} (h : ∀ fault, Kind (f fault)) (step : Except ε' α) :
    FailsOnly Kind (step.mapError f) := by
  intro fault hfault
  cases step with
  | error fault' =>
    cases hfault
    exact h fault'
  | ok value => cases hfault

end

end Outcome

namespace Mapping

variable {α : Type}

theorem mem_of_get? {mapping : Mapping α} {key : String} {value : α}
    (h : mapping.get? key = some value) : (key, value) ∈ mapping := by
  induction mapping with
  | nil => simp [get?] at h
  | cons entry rest ih =>
    obtain ⟨k, v⟩ := entry
    rw [get?] at h
    split at h
    next hk =>
      cases h
      simp [hk]
    next => exact List.mem_cons_of_mem _ (ih h)

theorem get?_of_mem_keys {mapping : Mapping α} {key : String} (h : key ∈ mapping.keys) :
    ∃ value, mapping.get? key = some value := by
  induction mapping with
  | nil => cases h
  | cons entry rest ih =>
    obtain ⟨k, v⟩ := entry
    rw [get?]
    by_cases hk : k = key
    · exact ⟨v, if_pos hk⟩
    · rw [if_neg hk]
      rcases List.mem_cons.mp h with he | h
      · exact absurd he.symm hk
      · exact ih h

theorem get?_of_mem {mapping : Mapping α} (hkeys : mapping.keys.Nodup) {key : String} {value : α}
    (h : (key, value) ∈ mapping) : mapping.get? key = some value := by
  induction mapping with
  | nil => cases h
  | cons entry rest ih =>
    obtain ⟨k, v⟩ := entry
    obtain ⟨hnew, hrest⟩ := List.nodup_cons.mp hkeys
    rw [get?]
    rcases List.mem_cons.mp h with he | h
    · cases he
      rw [if_pos rfl]
    · have hne : k ≠ key := by
        rintro rfl
        exact hnew (List.mem_map.mpr ⟨_, h, rfl⟩)
      rw [if_neg hne]
      exact ih hrest h

theorem insert_new {mapping : Mapping α} {key : String} (h : key ∉ mapping.keys) (value : α) :
    mapping.insert key value = mapping ++ [(key, value)] := by
  induction mapping with
  | nil => rfl
  | cons entry rest ih =>
    obtain ⟨k, v⟩ := entry
    obtain ⟨hne, hrest⟩ := not_or.mp (fun hor => h (List.mem_cons.mpr hor))
    rw [insert, if_neg (Ne.symm hne), ih hrest, List.cons_append]

theorem foldl_insert_new {mapping : Mapping α} {entries : List (String × α)}
    (hentries : (entries.map (·.1)).Nodup) (hnew : ∀ entry ∈ entries, entry.1 ∉ mapping.keys) :
    entries.foldl (fun mapping entry => mapping.insert entry.1 entry.2) mapping =
      mapping ++ entries := by
  induction entries generalizing mapping with
  | nil => simp
  | cons entry entries ih =>
    obtain ⟨hfirst, hrest⟩ := List.nodup_cons.mp hentries
    have hinsert := insert_new (hnew entry (by simp)) entry.2
    rw [List.foldl_cons, hinsert, ih hrest, List.append_assoc, List.singleton_append]
    intro other hother hmem
    rw [keys, List.map_append, List.mem_append] at hmem
    rcases hmem with hmem | hmem
    · exact hnew other (List.mem_cons_of_mem _ hother) hmem
    · have he : other.1 = entry.1 := by simpa using hmem
      exact hfirst (List.mem_map.mpr ⟨other, hother, he⟩)

end Mapping

end TypedClient
