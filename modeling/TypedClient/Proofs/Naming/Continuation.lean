import TypedClient.Proofs.Naming.Registry

namespace TypedClient

theorem Mapping.get?_of_prefix {α : Type} {mapping later : Mapping α} {key : String} {value : α}
    (hbefore : mapping <+: later) (h : mapping.get? key = some value) :
    later.get? key = some value := by
  obtain ⟨more, rfl⟩ := hbefore
  induction mapping with
  | nil => cases h
  | cons entry rest ih =>
    obtain ⟨k, v⟩ := entry
    rw [get?] at h
    rw [List.cons_append, get?]
    split at h
    next hk => rw [if_pos hk, h]
    next hk => rw [if_neg hk, ih h]

namespace Naming

namespace Allocator

variable {allocator next : Allocator} {front back names : List String}

theorem allocateAll_append_ok (h : allocator.allocateAll (front ++ back) = .ok (names, next)) :
    ∃ first rest middle, names = first ++ rest ∧
      allocator.allocateAll front = .ok (first, middle) ∧
      middle.allocateAll back = .ok (rest, next) := by
  induction front generalizing allocator names with
  | nil => exact ⟨[], names, allocator, rfl, rfl, h⟩
  | cons base front ih =>
    obtain ⟨name, others, middle, rfl, hname, hothers⟩ := allocateAll_cons_ok h
    obtain ⟨first, rest, last, rfl, hfirst, hrest⟩ := ih hothers
    refine ⟨name :: first, rest, last, rfl, ?_, hrest⟩
    rw [allocateAll, hname]
    simp only [bind, Except.bind, hfirst, pure, Except.pure]

theorem allocateAll_prefix {next' : Allocator} {bases bases' names' : List String}
    (h : allocator.allocateAll bases = .ok (names, next))
    (h' : allocator.allocateAll bases' = .ok (names', next')) (hbases : bases <+: bases') :
    names <+: names' := by
  obtain ⟨more, rfl⟩ := hbases
  obtain ⟨first, rest, middle, rfl, hfirst, -⟩ := allocateAll_append_ok h'
  have he : names = first := congrArg Prod.fst (Except.ok.inj (h.symm.trans hfirst))
  rw [he]
  exact List.prefix_append first rest

end Allocator

theorem nameRegistry_prefix {keys keys' : List String} {scope : String} {strict : Bool}
    {names names' : RegistryNames} (h : nameRegistry keys scope strict = .ok names)
    (h' : nameRegistry keys' scope strict = .ok names') (hkeys : keys <+: keys') :
    names <+: names' := by
  obtain ⟨more, rfl⟩ := hkeys
  obtain ⟨⟨declared, next⟩, hall, hreturn⟩ := Outcome.bind_ok h
  cases hreturn
  obtain ⟨⟨declared', next'⟩, hall', hreturn⟩ := Outcome.bind_ok h'
  cases hreturn
  rw [List.map_append] at hall'
  obtain ⟨rest, rfl⟩ := Allocator.allocateAll_prefix hall hall' (List.prefix_append _ _)
  have hlength : keys.length = declared.length := by
    simpa using (Allocator.allocateAll_ok hall).1.length_eq
  rw [List.zip_append hlength]
  exact List.prefix_append _ _

end Naming

end TypedClient
