import TypedClient.Proofs.Naming.Registry

/-!
Strict naming against naming with numbers: a strict scope gives the names that are asked for or
none, and as long as the names asked for are free the two kinds of scope do the same.
-/

namespace TypedClient.Naming

namespace Allocator

def withStrict (allocator : Allocator) (strict : Bool) : Allocator := { allocator with strict }

variable {allocator next : Allocator} {base name : String} {bases names : List String}

theorem allocate_withStrict (h : allocator.allocate base = .ok (name, next)) (hown : name = base)
    (strict : Bool) :
    (allocator.withStrict strict).allocate base = .ok (name, next.withStrict strict) := by
  subst hown
  obtain ⟨hfree, -, rfl⟩ := allocate_ok h
  have hfree' : (allocator.withStrict strict).isTaken name = false := hfree
  rw [allocate, if_neg (by simp [hfree'])]
  rfl

theorem allocate_strict (hstrict : allocator.strict = true)
    (h : allocator.allocate base = .ok (name, next)) : name = base ∧ next.strict = true := by
  unfold allocate at h
  rw [if_pos hstrict] at h
  split at h
  · cases h
  · cases h
    exact ⟨rfl, hstrict⟩

theorem exists_allocate (hloose : allocator.strict = false) (base : String) :
    ∃ name next, allocator.allocate base = .ok (name, next) ∧ next.strict = false := by
  unfold allocate
  split
  · rw [if_neg (by simp [hloose])]
    exact ⟨_, _, rfl, hloose⟩
  · exact ⟨_, _, rfl, hloose⟩

theorem allocateAll_withStrict (h : allocator.allocateAll bases = .ok (bases, next))
    (strict : Bool) :
    (allocator.withStrict strict).allocateAll bases = .ok (bases, next.withStrict strict) := by
  induction bases generalizing allocator with
  | nil =>
    cases h
    rfl
  | cons base bases ih =>
    obtain ⟨name, rest, middle, he, hname, hrest⟩ := allocateAll_cons_ok h
    cases he
    rw [allocateAll, allocate_withStrict hname rfl strict]
    simp only [bind, Except.bind, ih hrest, pure, Except.pure]

theorem allocateAll_strict (hstrict : allocator.strict = true)
    (h : allocator.allocateAll bases = .ok (names, next)) : names = bases := by
  induction bases generalizing allocator names with
  | nil =>
    cases h
    rfl
  | cons base bases ih =>
    obtain ⟨name, rest, middle, rfl, hname, hrest⟩ := allocateAll_cons_ok h
    obtain ⟨rfl, hmiddle⟩ := allocate_strict hstrict hname
    rw [ih hmiddle hrest]

theorem exists_allocateAll (hloose : allocator.strict = false) (bases : List String) :
    ∃ names next, allocator.allocateAll bases = .ok (names, next) := by
  induction bases generalizing allocator with
  | nil => exact ⟨_, _, rfl⟩
  | cons base bases ih =>
    obtain ⟨name, middle, hname, hmiddle⟩ := exists_allocate hloose base
    obtain ⟨rest, next, hrest⟩ := ih hmiddle
    rw [allocateAll, hname]
    simp only [bind, Except.bind, hrest, pure, Except.pure]
    exact ⟨_, _, rfl⟩

end Allocator

section

variable {keys : List String} {scope : String} {strict : Bool} {names : RegistryNames}

theorem nameRegistry_eq_ok (declared : List String) (next : Allocator)
    (h : (Allocator.empty scope strict).allocateAll (keys.map registryBase) =
      .ok (declared, next)) : nameRegistry keys scope strict = .ok (keys.zip declared) := by
  rw [nameRegistry, h]
  rfl

theorem zip_map_registryBase (keys : List String) :
    keys.zip (keys.map registryBase) = keys.map fun key => (key, registryBase key) := by
  induction keys with
  | nil => rfl
  | cons key keys ih => rw [List.map_cons, List.zip_cons_cons, ih, List.map_cons]

theorem nameRegistry_strict (h : nameRegistry keys scope true = .ok names) :
    ∀ entry ∈ names, entry.2 = registryBase entry.1 := by
  obtain ⟨⟨declared, next⟩, hall, hreturn⟩ := Outcome.bind_ok h
  cases hreturn
  obtain rfl := Allocator.allocateAll_strict rfl hall
  intro entry hentry
  rw [zip_map_registryBase] at hentry
  obtain ⟨key, -, rfl⟩ := List.mem_map.mp hentry
  rfl

theorem nameRegistry_unsuffixed (h : nameRegistry keys scope strict = .ok names)
    (hown : ∀ entry ∈ names, entry.2 = registryBase entry.1) (strict' : Bool) :
    nameRegistry keys scope strict' = .ok names := by
  obtain ⟨hkeys, -, -⟩ := nameRegistry_ok h
  obtain ⟨⟨declared, next⟩, hall, hreturn⟩ := Outcome.bind_ok h
  cases hreturn
  have hlength : keys.length = declared.length := by
    simpa using (Allocator.allocateAll_ok hall).1.length_eq
  have hdeclared : declared = keys.map registryBase := by
    have hmap := List.map_congr_left hown
    rw [List.map_snd_zip (Nat.le_of_eq hlength.symm)] at hmap
    rw [hmap]
    show (keys.zip declared).map (registryBase ∘ Prod.fst) = _
    rw [← List.map_map, List.map_fst_zip (Nat.le_of_eq hlength)]
  subst hdeclared
  exact nameRegistry_eq_ok _ _ (Allocator.allocateAll_withStrict hall strict')

theorem exists_nameRegistry (keys : List String) (scope : String) :
    ∃ names, nameRegistry keys scope false = .ok names := by
  obtain ⟨declared, next, hall⟩ :=
    Allocator.exists_allocateAll (rfl : (Allocator.empty scope false).strict = false)
      (keys.map registryBase)
  exact ⟨_, nameRegistry_eq_ok declared next hall⟩

end

end TypedClient.Naming
