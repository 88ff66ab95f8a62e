import TypedClient.Proofs.Naming.Freshness
import TypedClient.Proofs.Naming.Names

namespace TypedClient.Naming

open Allocator (Numbers numbered)

theorem isNameChar_digitChar : ∀ d < 10, isNameChar (Decimal.digitChar d) = true ∧
    Text.isSmallAscii (Decimal.digitChar d) = false := by
  decide

theorem isName_of_numbers {base name : String} (hbase : IsName base) (h : Numbers base name) :
    IsName name := by
  rcases h with rfl | ⟨n, -, rfl⟩
  · exact hbase
  · constructor
    · simp [numbered, hbase.ne_nil]
    · intro c hc
      rw [numbered, String.toList_append, String.toList_ofList, List.mem_append] at hc
      rcases hc with hc | hc
      · exact hbase.chars c hc
      · obtain ⟨d, hd, rfl⟩ := Decimal.mem_digits hc
        exact (isNameChar_digitChar d hd).1

theorem isName_of_allocated {bases names : List String} (hbases : ∀ base ∈ bases, IsName base)
    (h : List.Forall₂ Numbers bases names) : ∀ name ∈ names, IsName name := by
  induction h with
  | nil => simp
  | cons hfirst _ ih =>
    intro name hname
    rcases List.mem_cons.mp hname with rfl | hname
    · exact isName_of_numbers (hbases _ (by simp)) hfirst
    · exact ih (fun base hbase => hbases base (List.mem_cons_of_mem _ hbase)) name hname

theorem exists_not_small_numbered (base : String) (n : Nat) :
    ∃ c ∈ (numbered base n).toList, Text.isSmallAscii c = false := by
  obtain ⟨c, hc⟩ := List.exists_mem_of_ne_nil _ (Decimal.digits_ne_nil n)
  obtain ⟨d, hd, rfl⟩ := Decimal.mem_digits hc
  exact ⟨Decimal.digitChar d, by simp [numbered, hc], (isNameChar_digitChar d hd).2⟩

theorem not_mem_reserved_of_numbers {base name : String} (hbase : base ∉ reservedTypeNames)
    (h : Numbers base name) : name ∉ reservedTypeNames := by
  rcases h with rfl | ⟨n, -, rfl⟩
  · exact hbase
  · intro hmem
    obtain ⟨-, hsmall⟩ := isSmallAscii_of_mem_reserved hmem
    obtain ⟨c, hc, hdigit⟩ := exists_not_small_numbered base n
    rw [hsmall c hc] at hdigit
    cases hdigit

theorem nameRegistry_ok {keys : List String} {scope : String} {strict : Bool}
    {names : RegistryNames} (h : nameRegistry keys scope strict = .ok names) :
    names.keys = keys ∧ (names.map (·.2)).Nodup ∧
      ∀ entry ∈ names, Numbers (registryBase entry.1) entry.2 := by
  unfold nameRegistry at h
  obtain ⟨⟨declared, final⟩, hall, h⟩ := Outcome.bind_ok h
  cases h
  obtain ⟨hnumbers, hnodup, -⟩ := Allocator.allocateAll_ok hall
  have hlength : keys.length = declared.length := by simpa using hnumbers.length_eq
  refine ⟨List.map_fst_zip (Nat.le_of_eq hlength), ?_, ?_⟩
  · rw [List.map_snd_zip (Nat.le_of_eq hlength.symm)]
    exact hnodup.of_map
  · intro entry hentry
    exact List.forall₂_iff_zip.mp hnumbers |>.2 (by
      rw [List.zip_map_left]
      exact List.mem_map.mpr ⟨entry, hentry, rfl⟩)

theorem declared_of_nameRegistry {keys : List String} {scope : String} {strict : Bool}
    {names : RegistryNames} (h : nameRegistry keys scope strict = .ok names)
    {key declared : String} (hmem : (key, declared) ∈ names) :
    IsName declared ∧ declared ∉ reservedTypeNames := by
  obtain ⟨-, -, hnumbers⟩ := nameRegistry_ok h
  have hentry := hnumbers (key, declared) hmem
  exact ⟨isName_of_numbers (isName_registryBase key) hentry,
    not_mem_reserved_of_numbers (registryBase_not_mem_reserved key) hentry⟩

end TypedClient.Naming
