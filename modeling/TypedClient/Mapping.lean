namespace TypedClient

abbrev Mapping (α : Type) := List (String × α)

namespace Mapping

variable {α : Type}

def get? : Mapping α → String → Option α
  | [], _ => none
  | (k, value) :: rest, key => if k = key then some value else get? rest key

def has (mapping : Mapping α) (key : String) : Bool :=
  mapping.any (·.1 == key)

def keys (mapping : Mapping α) : List String :=
  mapping.map (·.1)

def insert : Mapping α → String → α → Mapping α
  | [], key, value => [(key, value)]
  | (k, v) :: rest, key, value =>
    if k = key then (k, value) :: rest else (k, v) :: insert rest key value

def ofEntries (entries : List (String × α)) : Mapping α :=
  entries.foldl (fun mapping entry => insert mapping entry.1 entry.2) []

theorem get?_insert_self (mapping : Mapping α) (key : String) (value : α) :
    (insert mapping key value).get? key = some value := by
  induction mapping with
  | nil => simp [insert, get?]
  | cons entry rest ih =>
    obtain ⟨k, v⟩ := entry
    by_cases h : k = key
    · simp [insert, get?, h]
    · simp [insert, get?, h, ih]

theorem get?_insert_of_ne (mapping : Mapping α) {key other : String} (h : other ≠ key)
    (value : α) : (mapping.insert key value).get? other = mapping.get? other := by
  induction mapping with
  | nil => simp [insert, get?, Ne.symm h]
  | cons entry rest ih =>
    obtain ⟨k, v⟩ := entry
    rw [insert]
    by_cases hk : k = key
    · have hko : k ≠ other := by
        rintro rfl
        exact h hk
      rw [if_pos hk, get?, get?, if_neg hko, if_neg hko]
    · rw [if_neg hk, get?, get?, ih]

theorem keys_insert (mapping : Mapping α) (key : String) (value : α) :
    (insert mapping key value).keys =
      if key ∈ mapping.keys then mapping.keys else mapping.keys ++ [key] := by
  induction mapping with
  | nil => simp [insert, keys]
  | cons entry rest ih =>
    obtain ⟨k, v⟩ := entry
    by_cases h : k = key
    · simp [insert, keys, h]
    · have hne : key ≠ k := fun he => h he.symm
      simp only [keys] at ih
      simp only [insert, h, if_false, keys, List.map_cons, ih, List.mem_cons, hne, false_or]
      split <;> simp_all

end Mapping

def distinct (names : List String) : List String :=
  names.foldl (fun seen name => if name ∈ seen then seen else seen ++ [name]) []

end TypedClient
