import TypedClient.Proofs.Text.Recasing

namespace TypedClient.Text

variable {ranges others : List (Nat × Nat)} {runs : List (Nat × Nat × Nat × Nat)}
  {lo hi step n m : Nat} {c : Char}

def coversAll : List (Nat × Nat) → List (Nat × Nat) → Bool
  | _, [] => true
  | ranges, range :: others =>
    let rest := ranges.dropWhile fun range' => Nat.blt range'.2 range.1
    coversFrom rest range.1 range.2 && coversAll rest others

theorem inRanges_of_dropWhile (hranges : (ranges.all fun range => range.1 ≤ range.2) = true)
    (hlo : lo ≤ n) (h : inRanges (ranges.dropWhile fun range => Nat.blt range.2 lo) n = true) :
    inRanges ranges n = true := by
  induction ranges with
  | nil => exact h
  | cons range ranges ih =>
    rw [List.all_cons, Bool.and_eq_true, decide_eq_true_eq] at hranges
    cases hrange : Nat.blt range.2 lo with
    | false =>
      rw [List.dropWhile_cons_of_neg (by simp [hrange])] at h
      exact h
    | true =>
      rw [List.dropWhile_cons_of_pos (by exact hrange)] at h
      rw [Nat.blt_eq] at hrange
      rw [inRanges, if_neg (by omega), if_neg (by omega)]
      exact ih hranges.2 h

theorem inRanges_of_coversAll (hranges : (ranges.all fun range => range.1 ≤ range.2) = true)
    (h : coversAll ranges others = true) (hn : inRanges others n = true) :
    inRanges ranges n = true := by
  induction others generalizing ranges with
  | nil => cases hn
  | cons range others ih =>
    obtain ⟨first, last⟩ := range
    rw [coversAll, Bool.and_eq_true] at h
    rw [inRanges] at hn
    split at hn
    · cases hn
    next hfirst =>
      have hrest : ((ranges.dropWhile fun range => Nat.blt range.2 first).all
          fun range => range.1 ≤ range.2) = true :=
        List.all_eq_true.mpr fun range hmem =>
          List.all_eq_true.mp hranges range ((List.dropWhile_sublist _).subset hmem)
      apply inRanges_of_dropWhile hranges (Nat.le_of_not_lt hfirst)
      split at hn
      next hlast => exact inRanges_of_coversFrom hrest h.1 (Nat.le_of_not_lt hfirst) hlast
      next => exact ih hrest h.2 hn

theorem capitals_areLetters :
    coversAll Property.alphabeticRanges Property.uppercaseRanges = true := by
  decide +kernel

theorem isAlphabetic_of_isUpper (h : isUpper c = true) : isAlphabetic c = true :=
  inRanges_of_coversAll alphabeticRanges_ascend capitals_areLetters h

theorem isWordChar_eq (c : Char) : isWordChar c = isAlphanumeric c := by
  cases hupper : isUpper c with
  | false => rw [isWordChar, hupper, Bool.false_or]
  | true => simp [isWordChar, isAlphanumeric, hupper, isAlphabetic_of_isUpper hupper]

def avoids (ranges : List (Nat × Nat)) (run : Nat × Nat × Nat × Nat) : Bool :=
  clears ranges run.1 run.2.1 run.2.2.1 && clears ranges run.2.2.2 (imageEnd run) run.2.2.1

/-- Whether a run of a case mapping lies in the ranges at both ends, or at neither. -/
def respects (ranges : List (Nat × Nat)) (run : Nat × Nat × Nat × Nat) : Bool :=
  avoids ranges run || coversFrom ranges run.1 run.2.1 &&
    coversFrom ranges run.2.2.2 (imageEnd run)

theorem not_inRanges_of_avoids {run : Nat × Nat × Nat × Nat} (h : avoids ranges run = true)
    (hn : InSteps run.1 run.2.1 run.2.2.1 n) :
    inRanges ranges n = false ∧ inRanges ranges (run.2.2.2 + (n - run.1)) = false := by
  rw [avoids, Bool.and_eq_true] at h
  exact ⟨not_inRanges_of_clears h.1 hn, not_inRanges_of_clears h.2 (inSteps_image hn)⟩

theorem inRanges_of_respects (hranges : (ranges.all fun range => range.1 ≤ range.2) = true)
    (hruns : runs.all (respects ranges) = true) (h : mapInRuns runs n = some m) :
    inRanges ranges m = inRanges ranges n := by
  obtain ⟨run, hmem, hn, rfl⟩ := inSteps_of_mapInRuns h
  have hrun := List.all_eq_true.mp hruns run hmem
  rw [respects, Bool.or_eq_true, Bool.and_eq_true] at hrun
  rcases hrun with hout | ⟨hcovers, himage⟩
  · obtain ⟨hbefore, hafter⟩ := not_inRanges_of_avoids hout hn
    rw [hbefore, hafter]
  · have hsteps := inSteps_image hn
    rw [inRanges_of_coversFrom hranges hcovers hn.lo_le hn.le_hi,
      inRanges_of_coversFrom hranges himage hsteps.lo_le hsteps.le_hi]

def asciiDigitRanges : List (Nat × Nat) := [('0'.toNat, '9'.toNat)]

theorem isAsciiDigit_eq (c : Char) : isAsciiDigit c = inRanges asciiDigitRanges c.toNat := by
  rw [Bool.eq_iff_iff]
  simp only [isAsciiDigit, asciiDigitRanges, inRanges, Bool.and_eq_true, decide_eq_true_eq,
    Char.le_def, UInt32.le_iff_toNat_le]
  show '0'.toNat ≤ c.toNat ∧ c.toNat ≤ '9'.toNat ↔ _
  split
  · simp only [Bool.false_eq_true, iff_false]
    omega
  · split
    · simp only [iff_true]
      omega
    · simp only [Bool.false_eq_true, iff_false]
      omega

theorem numericRanges_ascend :
    (Property.numericRanges.all fun range => range.1 ≤ range.2) = true := by
  decide +kernel

theorem upperRuns_respectNumbers :
    Property.upperRuns.all (respects Property.numericRanges) = true := by
  decide +kernel

theorem lowerRuns_respectNumbers :
    Property.lowerRuns.all (respects Property.numericRanges) = true := by
  decide +kernel

theorem upperRuns_avoidDigits : Property.upperRuns.all (avoids asciiDigitRanges) = true := by
  decide +kernel

theorem lowerRuns_avoidDigits : Property.lowerRuns.all (avoids asciiDigitRanges) = true := by
  decide +kernel

/-- A change of characters that makes no number of a letter and no letter of a number, and leaves
the ASCII digits as they are. -/
structure KeepsNumbers (change : Char → Char) : Prop where
  numeric (c : Char) : isNumeric (change c) = isNumeric c
  digit (c : Char) : isAsciiDigit (change c) = isAsciiDigit c
  fixed {c : Char} : isAsciiDigit c = true → change c = c

theorem keepsNumbers_id : KeepsNumbers id := ⟨fun _ => rfl, fun _ => rfl, fun _ => rfl⟩

theorem KeepsNumbers.comp {change next : Char → Char} (hnext : KeepsNumbers next)
    (hchange : KeepsNumbers change) : KeepsNumbers (fun c => next (change c)) where
  numeric c := (hnext.numeric _).trans (hchange.numeric c)
  digit c := (hnext.digit _).trans (hchange.digit c)
  fixed hc := by rw [hchange.fixed hc, hnext.fixed hc]

theorem keepsNumbers_mapped (hletters : runs.all leadsToLetters = true)
    (hnumbers : runs.all (respects Property.numericRanges) = true)
    (hdigits : runs.all (avoids asciiDigitRanges) = true) :
    KeepsNumbers fun c => ((mapInRuns runs c.toNat).map Char.ofNat).getD c := by
  have hmapped : ∀ {c : Char} {m : Nat}, mapInRuns runs c.toNat = some m →
      inRanges asciiDigitRanges c.toNat = false ∧ inRanges asciiDigitRanges m = false := by
    intro c m hm
    obtain ⟨run, hmem, hn, rfl⟩ := inSteps_of_mapInRuns hm
    exact not_inRanges_of_avoids (List.all_eq_true.mp hdigits run hmem) hn
  have hnat : ∀ {c : Char} {m : Nat}, mapInRuns runs c.toNat = some m →
      (Char.ofNat m).toNat = m :=
    fun hm => toNat_ofNat_of_alphabetic (inRanges_of_leadsToLetters hletters hm)
  refine ⟨fun c => ?_, fun c => ?_, fun {c} hc => ?_⟩
  all_goals cases hm : mapInRuns runs c.toNat with
  | none => rfl
  | some m => ?_
  · simp only [Option.map_some, Option.getD_some, isNumeric, hnat hm]
    exact inRanges_of_respects numericRanges_ascend hnumbers hm
  · simp only [Option.map_some, Option.getD_some, isAsciiDigit_eq, hnat hm, hmapped hm]
  · rw [isAsciiDigit_eq, (hmapped hm).1] at hc
    cases hc

theorem keepsNumbers_upperChar : KeepsNumbers upperChar :=
  keepsNumbers_mapped upperRuns_leadToLetters upperRuns_respectNumbers upperRuns_avoidDigits

theorem keepsNumbers_lowerChar : KeepsNumbers lowerChar :=
  keepsNumbers_mapped lowerRuns_leadToLetters lowerRuns_respectNumbers lowerRuns_avoidDigits

theorem keepsNumbers_foldChar : KeepsNumbers foldChar where
  numeric c := by
    rw [foldChar, apply_ite isNumeric, keepsNumbers_lowerChar.numeric, ite_self]
  digit c := by
    rw [foldChar, apply_ite isAsciiDigit, keepsNumbers_lowerChar.digit, ite_self]
  fixed hc := by rw [foldChar, keepsNumbers_lowerChar.fixed hc, ite_self]

theorem head?_words (text : List Char) :
    (words text).head?.bind List.head? = (text.find? isWordChar).map foldChar := by
  induction text with
  | nil => rfl
  | cons c rest ih =>
    rw [words]
    cases hc : isWordChar c with
    | false =>
      rw [List.find?_cons_of_neg (by simp [hc])]
      exact ih
    | true =>
      rw [List.find?_cons_of_pos (by exact hc), if_pos rfl]
      split
      · cases words rest <;> rfl
      · rfl

theorem head?_upperCamelChars (text : List Char) : (upperCamelChars text).head? =
    (text.find? isWordChar).map fun c => upperChar (foldChar c) := by
  have hhead := congrArg (Option.map upperChar) (head?_words text)
  rw [Option.map_map] at hhead
  refine Eq.trans ?_ hhead
  rw [upperCamelChars_eq]
  cases hwords : words text with
  | nil => rfl
  | cons word others =>
    have hword : word ∈ words text := by simp [hwords]
    cases word with
    | nil => exact absurd rfl (mem_words hword).1
    | cons first word => rfl

end TypedClient.Text
