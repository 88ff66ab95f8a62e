import Mathlib.Tactic.ByContra
import TypedClient.Text.Words

namespace TypedClient.Text

def isWordChar (c : Char) : Bool :=
  isUpper c || isAlphanumeric c

def foldChar (c : Char) : Char :=
  if isUpper c then lowerChar c else c

def coversFrom : List (Nat × Nat) → Nat → Nat → Bool
  | [], _, _ => false
  | (first, last) :: rest, lo, hi =>
    bif Nat.blt last lo then coversFrom rest lo hi
    else bif Nat.blt lo first then false
    else bif Nat.ble hi last then true
    else coversFrom rest (last + 1) hi

theorem inRanges_of_coversFrom {ranges : List (Nat × Nat)} {lo hi n : Nat}
    (hranges : (ranges.all fun range => range.1 ≤ range.2) = true)
    (h : coversFrom ranges lo hi = true) (hlo : lo ≤ n) (hhi : n ≤ hi) :
    inRanges ranges n = true := by
  induction ranges generalizing lo with
  | nil => simp [coversFrom] at h
  | cons range rest ih =>
    obtain ⟨first, last⟩ := range
    rw [List.all_cons, Bool.and_eq_true, decide_eq_true_eq] at hranges
    obtain ⟨hrange, hrest⟩ := hranges
    simp only [coversFrom, cond_eq_ite, Nat.blt_eq, Nat.ble_eq] at h
    rw [inRanges]
    split at h
    · rw [if_neg (by omega), if_neg (by omega)]
      exact ih hrest h hlo
    · split at h
      · cases h
      · rw [if_neg (by omega)]
        by_cases hlast : n ≤ last
        · rw [if_pos hlast]
        · rw [if_neg hlast]
          rw [if_neg (by omega)] at h
          exact ih hrest h (by omega)

theorem exists_of_inRanges {ranges : List (Nat × Nat)} {n : Nat} (h : inRanges ranges n = true) :
    ∃ range ∈ ranges, range.1 ≤ n ∧ n ≤ range.2 := by
  induction ranges with
  | nil => simp [inRanges] at h
  | cons range rest ih =>
    obtain ⟨first, last⟩ := range
    rw [inRanges] at h
    split at h
    · cases h
    · split at h
      · exact ⟨(first, last), by simp, by omega, by omega⟩
      · obtain ⟨range, hmem, hrange⟩ := ih h
        exact ⟨range, by simp [hmem], hrange⟩

theorem exists_of_mapInRuns {runs : List (Nat × Nat × Nat × Nat)} {n m : Nat}
    (h : mapInRuns runs n = some m) :
    ∃ run ∈ runs, run.1 ≤ n ∧ n ≤ run.2.1 ∧ (n - run.1) % run.2.2.1 = 0 ∧
      m = run.2.2.2 + (n - run.1) := by
  induction runs with
  | nil => simp [mapInRuns] at h
  | cons run rest ih =>
    obtain ⟨first, last, step, image⟩ := run
    rw [mapInRuns] at h
    split at h
    · cases h
    · split at h
      next hrun =>
        have hm : image + (n - first) = m := Option.some.inj h
        exact ⟨(first, last, step, image), by simp, by omega, hrun.1, hrun.2, hm.symm⟩
      next =>
        obtain ⟨run, hmem, hrun⟩ := ih h
        exact ⟨run, by simp [hmem], hrun⟩

def leadsToLetters (run : Nat × Nat × Nat × Nat) : Bool :=
  coversFrom Property.alphabeticRanges run.2.2.2 (run.2.2.2 + (run.2.1 - run.1)) ||
    (List.range (run.2.1 - run.1 + 1)).all fun k =>
      k % run.2.2.1 != 0 || inRanges Property.alphabeticRanges (run.2.2.2 + k)

theorem alphabeticRanges_ascend :
    (Property.alphabeticRanges.all fun range => range.1 ≤ range.2) = true := by
  decide +kernel

theorem upperRuns_leadToLetters : Property.upperRuns.all leadsToLetters = true := by
  decide +kernel

theorem lowerRuns_leadToLetters : Property.lowerRuns.all leadsToLetters = true := by
  decide +kernel

theorem inRanges_of_leadsToLetters {runs : List (Nat × Nat × Nat × Nat)} {n m : Nat}
    (hruns : runs.all leadsToLetters = true) (h : mapInRuns runs n = some m) :
    inRanges Property.alphabeticRanges m = true := by
  obtain ⟨run, hmem, hfirst, hlast, hstep, rfl⟩ := exists_of_mapInRuns h
  have hrun := List.all_eq_true.mp hruns run hmem
  rw [leadsToLetters, Bool.or_eq_true] at hrun
  rcases hrun with hcover | heach
  · exact inRanges_of_coversFrom alphabeticRanges_ascend hcover (by omega) (by omega)
  · have hk := List.all_eq_true.mp heach (n - run.1) (List.mem_range.mpr (by omega))
    simpa [hstep] using hk

theorem alphabeticRanges_valid :
    (Property.alphabeticRanges.all fun range =>
      range.2 < 0xd800 || (0xdfff < range.1 && range.2 < 0x110000)) = true := by
  decide +kernel

theorem toNat_ofNat_of_alphabetic {n : Nat} (h : inRanges Property.alphabeticRanges n = true) :
    (Char.ofNat n).toNat = n := by
  obtain ⟨range, hmem, hfirst, hlast⟩ := exists_of_inRanges h
  have hrange := List.all_eq_true.mp alphabeticRanges_valid range hmem
  simp only [Bool.or_eq_true, Bool.and_eq_true, decide_eq_true_eq] at hrange
  have hvalid : n.isValidChar := by
    unfold Nat.isValidChar
    omega
  rw [Char.ofNat, dif_pos hvalid]
  rfl

theorem isWordChar_of_mapped {runs : List (Nat × Nat × Nat × Nat)} {c : Char}
    (hruns : runs.all leadsToLetters = true) (h : isWordChar c = true) :
    isWordChar (((mapInRuns runs c.toNat).map Char.ofNat).getD c) = true := by
  cases hm : mapInRuns runs c.toNat with
  | none => exact h
  | some m =>
    have hletter := inRanges_of_leadsToLetters hruns hm
    have hnat := toNat_ofNat_of_alphabetic hletter
    simp [isWordChar, isAlphanumeric, isAlphabetic, hnat, hletter]

theorem isWordChar_upperChar {c : Char} (h : isWordChar c = true) :
    isWordChar (upperChar c) = true :=
  isWordChar_of_mapped upperRuns_leadToLetters h

theorem isWordChar_lowerChar {c : Char} (h : isWordChar c = true) :
    isWordChar (lowerChar c) = true :=
  isWordChar_of_mapped lowerRuns_leadToLetters h

theorem isWordChar_foldChar {c : Char} (h : isWordChar c = true) :
    isWordChar (foldChar c) = true := by
  unfold foldChar
  split
  · exact isWordChar_lowerChar h
  · exact h

def isSmallAscii (c : Char) : Bool := 'a' ≤ c && c ≤ 'z'

theorem upperRuns_avoidSmallAscii :
    (Property.upperRuns.all fun run =>
      run.2.2.2 + (run.2.1 - run.1) < 'a'.toNat || 'z'.toNat < run.2.2.2) = true := by
  decide +kernel

theorem smallAscii_mapped :
    ((List.range 26).all fun i =>
      (mapInRuns Property.upperRuns ('a'.toNat + i)).isSome) = true := by
  decide +kernel

theorem not_isSmallAscii_upperChar (c : Char) : isSmallAscii (upperChar c) = false := by
  unfold upperChar
  cases hm : mapInRuns Property.upperRuns c.toNat with
  | none =>
    by_contra hsmall
    have hc : isSmallAscii c = true := by simpa using hsmall
    simp only [isSmallAscii, Bool.and_eq_true, decide_eq_true_eq, Char.le_def, UInt32.le_iff_toNat_le] at hc
    have hmapped := List.all_eq_true.mp smallAscii_mapped (c.toNat - 'a'.toNat)
      (List.mem_range.mpr (by change c.toNat - 97 < 26; have : c.toNat ≤ 122 := hc.2; omega))
    have hle : 'a'.toNat ≤ c.toNat := hc.1
    rw [Nat.add_sub_cancel' hle, hm] at hmapped
    cases hmapped
  | some m =>
    have hletter := inRanges_of_leadsToLetters upperRuns_leadToLetters hm
    have hnat : (Char.ofNat m).toNat = m := toNat_ofNat_of_alphabetic hletter
    obtain ⟨run, hmem, hfirst, hlast, -, hm⟩ := exists_of_mapInRuns hm
    have hrun := List.all_eq_true.mp upperRuns_avoidSmallAscii run hmem
    simp only [Bool.or_eq_true, decide_eq_true_eq] at hrun
    by_contra hsmall
    have hc : isSmallAscii (Char.ofNat m) = true := by simpa using hsmall
    simp only [isSmallAscii, Bool.and_eq_true, decide_eq_true_eq, Char.le_def, UInt32.le_iff_toNat_le] at hc
    have hlo : 'a'.toNat ≤ (Char.ofNat m).toNat := hc.1
    have hhi : (Char.ofNat m).toNat ≤ 'z'.toNat := hc.2
    omega

end TypedClient.Text
