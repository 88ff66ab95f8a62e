import Mathlib.Data.List.Nodup
import Mathlib.Data.List.Perm.Subperm
import TypedClient.Naming.Allocator
import TypedClient.Proofs.Outcome

namespace TypedClient

namespace Decimal

theorem digitValue?_digitChar : ∀ d < 10, digitValue? 10 (digitChar d) = some d := by
  decide

theorem digits_ne_nil (n : Nat) : digits n ≠ [] := by
  rw [digits]
  split <;> simp

theorem mem_digits {n : Nat} {c : Char} (h : c ∈ digits n) : ∃ d < 10, c = digitChar d := by
  induction n using digits.induct with
  | case1 n hn =>
    rw [digits, if_pos hn] at h
    exact ⟨n, hn, by simpa using h⟩
  | case2 n hn ih =>
    rw [digits, if_neg hn] at h
    rcases List.mem_append.mp h with h | h
    · exact ih h
    · exact ⟨n % 10, Nat.mod_lt _ (by omega), by simpa using h⟩

theorem foldlM_digits (n : Nat) :
    (digits n).foldlM (fun n c => (digitValue? 10 c).map (n * 10 + ·)) 0 = some n := by
  induction n using digits.induct with
  | case1 n hn =>
    rw [digits, if_pos hn]
    simp [digitValue?_digitChar n hn]
  | case2 n hn ih =>
    have hlast := digitValue?_digitChar (n % 10) (Nat.mod_lt _ (by omega))
    rw [digits, if_neg hn, List.foldlM_append, ih]
    simp only [Option.bind_eq_bind, Option.bind_some, List.foldlM_cons, List.foldlM_nil, hlast,
      Option.map_some, Option.pure_def, Option.some.injEq]
    omega

theorem ofDigits?_digits (n : Nat) : ofDigits? 10 (digits n) = some n := by
  unfold ofDigits?
  split
  next h => exact absurd h (digits_ne_nil n)
  next => exact foldlM_digits n

theorem digits_injective {m n : Nat} (h : digits m = digits n) : m = n := by
  have hread := ofDigits?_digits m
  rw [h, ofDigits?_digits] at hread
  exact (Option.some.inj hread).symm

end Decimal

namespace Text

open Decimal (digitChar)

theorem digitChar_caseless : ∀ d < 10, isCaseIgnorable (digitChar d) = false ∧
    isCased (digitChar d) = false ∧ lowerChar (digitChar d) = digitChar d ∧
    digitChar d ≠ '\u03a3' ∧ digitChar d ≠ '\u0130' := by
  decide

theorem lowerAfter_digits (before ds : List Char) (hds : ∀ c ∈ ds, ∃ d < 10, c = digitChar d) :
    lowerAfter before ds = ds := by
  induction ds generalizing before with
  | nil => rfl
  | cons c ds ih =>
    obtain ⟨d, hd, rfl⟩ := hds c (by simp)
    obtain ⟨-, -, hlower, hsigma, hdotted⟩ := digitChar_caseless d hd
    rw [lowerAfter, if_neg hsigma, if_neg hdotted, hlower, ih _ fun c hc => hds c (by simp [hc])]
    rfl

theorem meetsCased_append_digit (text ds es : List Char) {d e : Nat} (hd : d < 10) (he : e < 10) :
    meetsCased (text ++ digitChar d :: ds) = meetsCased (text ++ digitChar e :: es) := by
  induction text with
  | nil =>
    obtain ⟨hd, hd', -⟩ := digitChar_caseless d hd
    obtain ⟨he, he', -⟩ := digitChar_caseless e he
    simp [meetsCased, hd, hd', he, he']
  | cons c text ih => simp only [List.cons_append, meetsCased, ih]

theorem lowerAfter_append_digits (text before : List Char) : ∃ front, ∀ ds ≠ [],
    (∀ c ∈ ds, ∃ d < 10, c = digitChar d) → lowerAfter before (text ++ ds) = front ++ ds := by
  induction text generalizing before with
  | nil => exact ⟨[], fun ds _ hds => lowerAfter_digits before ds hds⟩
  | cons c text ih =>
    obtain ⟨front, hfront⟩ := ih (c :: before)
    let form :=
      if c = '\u03a3' then
        if meetsCased before && !meetsCased (text ++ [digitChar 0]) then ['\u03c2'] else ['\u03c3']
      else if c = '\u0130' then ['i', '\u0307']
      else [lowerChar c]
    refine ⟨form ++ front, ?_⟩
    intro ds hne hds
    have hmeets : meetsCased (text ++ ds) = meetsCased (text ++ [digitChar 0]) := by
      cases ds with
      | nil => exact absurd rfl hne
      | cons d ds =>
        obtain ⟨d, hd, rfl⟩ := hds d (by simp)
        exact meetsCased_append_digit text ds [] hd (by omega)
    rw [List.cons_append, lowerAfter, hfront ds hne hds, hmeets, List.append_assoc]

end Text

namespace Naming.Allocator

open Decimal (digits digits_ne_nil digits_injective mem_digits)

def Numbers (base name : String) : Prop :=
  name = base ∨ ∃ n, 2 ≤ n ∧ name = numbered base n

theorem isTaken_eq_true (allocator : Allocator) (name : String) :
    allocator.isTaken name = true ↔ allocator.key name ∈ allocator.taken := by
  simp [isTaken]

theorem isTaken_eq_false (allocator : Allocator) (name : String) :
    allocator.isTaken name = false ↔ allocator.key name ∉ allocator.taken := by
  rw [← Bool.not_eq_true, isTaken_eq_true]

theorem mem_taken_reserve (allocator : Allocator) (taken key : String) :
    key ∈ (allocator.reserve taken).taken ↔ key = allocator.key taken ∨ key ∈ allocator.taken :=
  List.mem_insert_iff

theorem key_numbered_injective (allocator : Allocator) (base : String) {m n : Nat}
    (h : allocator.key (numbered base m) = allocator.key (numbered base n)) : m = n := by
  unfold key at h
  split at h
  · simp only [Text.lowercase, numbered, String.toList_append, String.toList_ofList] at h
    obtain ⟨front, hfront⟩ := Text.lowerAfter_append_digits base.toList []
    rw [hfront _ (digits_ne_nil m) fun c hc => mem_digits hc,
      hfront _ (digits_ne_nil n) fun c hc => mem_digits hc] at h
    have hlists := congrArg String.toList h
    rw [String.toList_ofList, String.toList_ofList] at hlists
    exact digits_injective (List.append_cancel_left hlists)
  · have hlists := congrArg String.toList h
    simp only [numbered, String.toList_append, String.toList_ofList] at hlists
    exact digits_injective (List.append_cancel_left hlists)

theorem exists_free (allocator : Allocator) (base : String) :
    ∃ i < allocator.taken.length + 1, allocator.isTaken (numbered base (i + 2)) = false := by
  by_contra hnone
  let keys := (List.range (allocator.taken.length + 1)).map fun i =>
    allocator.key (numbered base (i + 2))
  have hnodup : keys.Nodup := by
    apply List.Nodup.map _ List.nodup_range
    intro i j he
    have := allocator.key_numbered_injective base he
    omega
  have hsubset : keys ⊆ allocator.taken := by
    intro key hkey
    obtain ⟨i, hi, rfl⟩ := List.mem_map.mp hkey
    by_contra hfree
    exact hnone ⟨i, List.mem_range.mp hi, (allocator.isTaken_eq_false _).mpr hfree⟩
  have hlength := (hnodup.subperm hsubset).length_le
  simp only [keys, List.length_map, List.length_range] at hlength
  omega

theorem firstFree_spec (allocator : Allocator) (base : String) :
    ∃ n, 2 ≤ n ∧ n ≤ allocator.taken.length + 2 ∧ allocator.firstFree base = numbered base n ∧
      allocator.isTaken (numbered base n) = false ∧
      ∀ m, 2 ≤ m → m < n → allocator.isTaken (numbered base m) = true := by
  have hfind : (List.range (allocator.taken.length + 1)).find?
      (fun i => !allocator.isTaken (numbered base (i + 2))) ≠ none := by
    intro hnone
    obtain ⟨i, hi, hfree⟩ := allocator.exists_free base
    have := List.find?_eq_none.mp hnone i (List.mem_range.mpr hi)
    simp [hfree] at this
  obtain ⟨i, hi⟩ := Option.ne_none_iff_exists'.mp hfind
  obtain ⟨hfree, hrange⟩ := List.find?_range_eq_some.mp hi
  refine ⟨i + 2, by omega, ?_, ?_, by simpa using hfree, ?_⟩
  · have := List.mem_range.mp hrange.1
    omega
  · unfold firstFree
    rw [List.find?_map]
    simp only [Function.comp_def, hi, Option.map_some, Option.getD_some]
  · intro m hm hlt
    have := hrange.2 (m - 2) (by omega)
    rw [Nat.sub_add_cancel hm] at this
    simpa using this

theorem allocate_ok {allocator next : Allocator} {base name : String}
    (h : allocator.allocate base = .ok (name, next)) :
    allocator.isTaken name = false ∧ Numbers base name ∧ next = allocator.reserve name := by
  unfold allocate at h
  split at h
  · split at h
    · cases h
    · cases h
      obtain ⟨n, hn, -, hname, hfree, -⟩ := allocator.firstFree_spec base
      rw [hname]
      exact ⟨hfree, .inr ⟨n, hn, rfl⟩, rfl⟩
  next hfree =>
    cases h
    exact ⟨by simpa using hfree, .inl rfl, rfl⟩

theorem allocateAll_cons_ok {allocator next : Allocator} {base : String} {bases names : List String}
    (h : allocator.allocateAll (base :: bases) = .ok (names, next)) :
    ∃ name rest middle, names = name :: rest ∧ allocator.allocate base = .ok (name, middle) ∧
      middle.allocateAll bases = .ok (rest, next) := by
  rw [allocateAll] at h
  obtain ⟨⟨name, middle⟩, hname, h⟩ := Outcome.bind_ok h
  obtain ⟨⟨rest, final⟩, hrest, h⟩ := Outcome.bind_ok h
  cases h
  exact ⟨name, rest, middle, rfl, hname, hrest⟩

theorem allocateAll_single {allocator next : Allocator} {base name : String}
    (h : allocator.allocate base = .ok (name, next)) :
    allocator.allocateAll [base] = .ok ([name], next) := by
  rw [allocateAll, h]
  rfl

theorem allocateAll_append {first middle last : Allocator} {front back names more : List String}
    (hfront : first.allocateAll front = .ok (names, middle))
    (hback : middle.allocateAll back = .ok (more, last)) :
    first.allocateAll (front ++ back) = .ok (names ++ more, last) := by
  induction front generalizing first names with
  | nil =>
    cases hfront
    exact hback
  | cons base front ih =>
    obtain ⟨name, rest, next, rfl, hname, hrest⟩ := allocateAll_cons_ok hfront
    rw [List.cons_append, allocateAll, hname]
    simp only [bind, Except.bind, ih hrest, pure, Except.pure, List.cons_append]

theorem allocateAll_ok {allocator next : Allocator} {bases names : List String}
    (h : allocator.allocateAll bases = .ok (names, next)) :
    List.Forall₂ Numbers bases names ∧ (names.map allocator.key).Nodup ∧
      ∀ name ∈ names, allocator.key name ∉ allocator.taken := by
  induction bases generalizing allocator names with
  | nil =>
    cases h
    simp
  | cons base bases ih =>
    obtain ⟨name, rest, middle, rfl, hname, hrest⟩ := allocateAll_cons_ok h
    obtain ⟨hfree, hnumbers, rfl⟩ := allocate_ok hname
    obtain ⟨hforall, hnodup, hnew⟩ := ih hrest
    have hkey : (allocator.reserve name).key = allocator.key := rfl
    rw [hkey] at hnodup hnew
    refine ⟨.cons hnumbers hforall, ?_, ?_⟩
    · rw [List.map_cons, List.nodup_cons]
      refine ⟨?_, hnodup⟩
      intro hmem
      obtain ⟨other, hother, he⟩ := List.mem_map.mp hmem
      apply hnew other hother
      rw [he, mem_taken_reserve]
      exact .inl rfl
    · intro other hother htaken
      rcases List.mem_cons.mp hother with rfl | hother
      · exact (allocator.isTaken_eq_false other).mp hfree htaken
      · exact hnew other hother ((mem_taken_reserve _ _ _).mpr (.inr htaken))

end Naming.Allocator

end TypedClient
