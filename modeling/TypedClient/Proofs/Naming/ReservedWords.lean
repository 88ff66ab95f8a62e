import TypedClient.Proofs.Naming.History
import TypedClient.Proofs.Naming.Registry
import TypedClient.TypeExpr.Basic

/-!
Small words as names of components. No casing and no number makes such a word, so it is declared for
the component that has it as its key and for no other one.
-/

namespace TypedClient.Naming

open Allocator (Numbers allocate_ok allocate_of_free allocateAll_cons_ok)

def moduleReservedWords : List String := [
  "implements", "interface", "let", "package", "private", "protected", "public", "static", "yield",
  "await"]

variable {key word : String} {keys : List String} {scope : String} {strict : Bool}
  {names : RegistryNames}

def IsSmallWord (word : String) : Prop := ∀ c ∈ word.toList, Text.isSmallAscii c = true

theorem eq_key_of_numbers (hsmall : IsSmallWord word) (h : Numbers (registryBase key) word) :
    key = word := by
  rcases h with hbase | ⟨n, -, rfl⟩
  · unfold registryBase at hbase
    split at hbase
    · exact hbase.symm
    · obtain ⟨c, hc, hlarge⟩ := exists_not_small_typeName key
      rw [← hbase] at hc
      rw [hsmall c hc] at hlarge
      cases hlarge
  · obtain ⟨c, hc, hdigit⟩ := exists_not_small_numbered (registryBase key) n
    rw [hsmall c hc] at hdigit
    cases hdigit

theorem get?_of_allocateAll {allocator next : Allocator} {declared : List String}
    (hcase : allocator.ignoresCase = false) (hsmall : IsSmallWord word)
    (hbase : registryBase word = word) (hfree : allocator.isTaken word = false) (hmem : word ∈ keys)
    (h : allocator.allocateAll (keys.map registryBase) = .ok (declared, next)) :
    Mapping.get? (keys.zip declared) word = some word := by
  induction keys generalizing allocator declared with
  | nil => cases hmem
  | cons key keys ih =>
    obtain ⟨name, rest, middle, rfl, hname, hrest⟩ := allocateAll_cons_ok h
    rw [List.zip_cons_cons, Mapping.get?]
    by_cases hkey : key = word
    · subst hkey
      rw [hbase, allocate_of_free hfree] at hname
      cases hname
      exact if_pos rfl
    · rw [if_neg hkey]
      obtain ⟨-, hnumbers, rfl⟩ := allocate_ok hname
      have hne : word ≠ name := by
        rintro rfl
        exact hkey (eq_key_of_numbers hsmall hnumbers)
      have hcase' : (allocator.reserve name).ignoresCase = false := hcase
      have hfree' : (allocator.reserve name).isTaken word = false := by
        rw [Allocator.isTaken_eq_false] at hfree ⊢
        rw [Allocator.mem_taken_reserve]
        simpa [Allocator.key, Allocator.reserve, hcase, hne] using hfree
      exact ih hcase' hfree' ((List.mem_cons.mp hmem).resolve_left fun he => hkey he.symm) hrest

theorem moduleReservedWords_kept : (moduleReservedWords.all fun word =>
    word.toList.all Text.isSmallAscii && registryBase word == word) = true := by
  decide +kernel

theorem kept_of_mem_moduleReserved (h : word ∈ moduleReservedWords) :
    IsSmallWord word ∧ registryBase word = word := by
  have hword := List.all_eq_true.mp moduleReservedWords_kept word h
  rw [Bool.and_eq_true, beq_iff_eq] at hword
  exact ⟨List.all_eq_true.mp hword.1, hword.2⟩

/-- The words that keys are checked against are never declared. The words that are reserved in
modules alone are, for each component that has one as its key, and in no other way. -/
theorem reserved_words_declared (h : nameRegistry keys scope strict = .ok names) :
    (∀ entry ∈ names, entry.2 ∉ reservedTypeNames) ∧
    (∀ entry ∈ names, entry.2 ∈ moduleReservedWords → entry.1 = entry.2) ∧
    ∀ word ∈ moduleReservedWords, word ∈ keys → names.get? word = some word := by
  obtain ⟨-, -, hnumbers⟩ := nameRegistry_ok h
  refine ⟨fun entry hentry => (declared_of_nameRegistry h hentry).2, ?_, ?_⟩
  · intro entry hentry hword
    exact eq_key_of_numbers (kept_of_mem_moduleReserved hword).1 (hnumbers entry hentry)
  · intro word hword hkey
    obtain ⟨hsmall, hbase⟩ := kept_of_mem_moduleReserved hword
    obtain ⟨⟨declared, next⟩, hall, hreturn⟩ := Outcome.bind_ok h
    cases hreturn
    exact get?_of_allocateAll rfl hsmall hbase rfl hkey hall

theorem reserved_words_declared_let :
    let names : RegistryNames :=
      [("let-", "Let"), ("let", "let"), ("Let", "Let2"), ("string", "String")]
    nameRegistry ["let-", "let", "Let", "string"] "types.ts" false = .ok names ∧
      (∀ entry ∈ names, entry.2 ∉ reservedTypeNames) ∧
      (∀ entry ∈ names, entry.2 ∈ moduleReservedWords → entry.1 = entry.2) ∧
      names.get? "let" = some "let" := by
  intro names
  have hregistry : (nameRegistry ["let-", "let", "Let", "string"] "types.ts" false).toOption =
      some names := by decide +kernel
  have hnames := Outcome.ok_of_toOption hregistry
  obtain ⟨hreserved, hsmall, hkept⟩ := reserved_words_declared hnames
  exact ⟨hnames, hreserved, hsmall, hkept "let" (by decide) (by decide)⟩

theorem let_is_declared :
    nameRegistry ["let"] "types.ts" false = .ok [("let", "let")] ∧ "let" ∈ moduleReservedWords ∧
      (Declaration.mk "let" (.keyword .string)).text = "export type let = string;" := by
  have hregistry : (nameRegistry ["let"] "types.ts" false).toOption = some [("let", "let")] := by
    decide +kernel
  exact ⟨Outcome.ok_of_toOption hregistry, by decide, by decide⟩

end TypedClient.Naming
