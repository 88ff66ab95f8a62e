import TypedClient.Proofs.Text.CaseMapping

/-!
Case forms of case forms. A capital that comes from the mapping is the capital of its small form, a
small form is no capital, and each is its own form.
-/

namespace TypedClient.Text

structure InSteps (lo hi step n : Nat) : Prop where
  lo_le : lo ≤ n
  le_hi : n ≤ hi
  whole : (n - lo) % step = 0

variable {lo hi step n m : Nat} {ranges : List (Nat × Nat)}
  {run : Nat × Nat × Nat × Nat} {runs : List (Nat × Nat × Nat × Nat)}

def misses (ranges : List (Nat × Nat)) (lo hi step : Nat) : Bool :=
  ranges.all fun range => Nat.blt range.2 lo || Nat.blt hi range.1 ||
    (Nat.ble lo range.1 && Nat.beq range.1 range.2 && !Nat.beq ((range.1 - lo) % step) 0)

theorem not_inRanges_of_misses (h : misses ranges lo hi step = true) (hn : InSteps lo hi step n) :
    inRanges ranges n = false := by
  obtain ⟨hlo, hhi, hwhole⟩ := hn
  by_contra hin
  obtain ⟨range, hmem, hfirst, hlast⟩ := exists_of_inRanges (by simpa using hin)
  have hrange := List.all_eq_true.mp h range hmem
  simp only [Bool.or_eq_true, Bool.and_eq_true, Nat.blt_eq, Nat.ble_eq, Nat.beq_eq,
    Bool.not_eq_true'] at hrange
  rcases hrange with (hbefore | hafter) | ⟨⟨-, hsingle⟩, hbetween⟩
  · omega
  · omega
  · obtain rfl : n = range.1 := by omega
    rw [hwhole] at hbetween
    cases hbetween

def sweeps : Nat → List (Nat × Nat × Nat × Nat) → List (Nat × Nat) → Bool
  | _, [], _ => true
  | before, run :: runs, ranges =>
    let rest := ranges.dropWhile fun range => Nat.blt range.2 run.1
    Nat.ble before run.1 &&
      misses (rest.takeWhile fun range => Nat.ble range.1 run.2.1) run.1 run.2.1 run.2.2.1 &&
      sweeps run.1 runs rest

theorem inRanges_dropWhile (hlo : lo ≤ n) (h : inRanges ranges n = true) :
    inRanges (ranges.dropWhile fun range => Nat.blt range.2 lo) n = true := by
  induction ranges with
  | nil => cases h
  | cons range ranges ih =>
    cases hrange : Nat.blt range.2 lo with
    | false =>
      rw [List.dropWhile_cons_of_neg (by simp [hrange])]
      exact h
    | true =>
      rw [List.dropWhile_cons_of_pos (by exact hrange)]
      rw [Nat.blt_eq] at hrange
      rw [inRanges] at h
      split at h
      · cases h
      · rw [if_neg (by omega)] at h
        exact ih h

theorem inRanges_takeWhile (hhi : n ≤ hi) (h : inRanges ranges n = true) :
    inRanges (ranges.takeWhile fun range => Nat.ble range.1 hi) n = true := by
  induction ranges with
  | nil => cases h
  | cons range ranges ih =>
    rw [inRanges] at h
    split at h
    · cases h
    next hfirst =>
      rw [List.takeWhile_cons_of_pos (by rw [Nat.ble_eq]; omega), inRanges, if_neg hfirst]
      split at h
      next hlast => rw [if_pos hlast]
      next hlast =>
        rw [if_neg hlast]
        exact ih h

def clears (ranges : List (Nat × Nat)) (lo hi step : Nat) : Bool :=
  misses ((ranges.dropWhile fun range => Nat.blt range.2 lo).takeWhile
    fun range => Nat.ble range.1 hi) lo hi step

theorem not_inRanges_of_clears (h : clears ranges lo hi step = true) (hn : InSteps lo hi step n) :
    inRanges ranges n = false := by
  by_contra hin
  have hdropped := inRanges_dropWhile hn.lo_le (by simpa using hin)
  have htaken := inRanges_takeWhile hn.le_hi hdropped
  rw [not_inRanges_of_misses h hn] at htaken
  cases htaken

theorem not_inRanges_of_sweeps {before : Nat} (h : sweeps before runs ranges = true)
    (hrun : run ∈ runs) (hn : InSteps run.1 run.2.1 run.2.2.1 n) :
    before ≤ run.1 ∧ inRanges ranges n = false := by
  induction runs generalizing before ranges with
  | nil => cases hrun
  | cons first runs ih =>
    simp only [sweeps, Bool.and_eq_true, Nat.ble_eq] at h
    obtain ⟨⟨hbefore, hmisses⟩, hrest⟩ := h
    rcases List.mem_cons.mp hrun with rfl | hrun
    · exact ⟨hbefore, not_inRanges_of_clears hmisses hn⟩
    · obtain ⟨hle, hout⟩ := ih hrest hrun
      refine ⟨Nat.le_trans hbefore hle, ?_⟩
      by_contra hin
      have hdropped := inRanges_dropWhile (Nat.le_trans hle hn.lo_le) (by simpa using hin)
      rw [hout] at hdropped
      cases hdropped

def mapSteps (lo hi step : Nat) (runs : List (Nat × Nat × Nat × Nat)) : Option Nat :=
  runs.foldr (fun run found =>
    bif Nat.blt lo run.1 then none
    else bif Nat.blt run.2.1 lo then found
    else bif Nat.beq run.2.2.1 step || Nat.beq lo hi then
      bif !Nat.beq ((lo - run.1) % run.2.2.1) 0 then found
      else bif Nat.ble hi run.2.1 then some (run.2.2.2 + (lo - run.1))
      else none
    else none) none

theorem mapInRuns_of_mapSteps (h : mapSteps lo hi step runs = some m) (hn : InSteps lo hi step n) :
    mapInRuns runs n = some (m + (n - lo)) := by
  obtain ⟨hlo, hhi, hwhole⟩ := hn
  induction runs with
  | nil => cases h
  | cons run runs ih =>
    obtain ⟨first, last, step', image⟩ := run
    have hrest : mapSteps lo hi step runs = some m → mapInRuns runs n = some (m + (n - lo)) := ih
    rw [mapSteps, List.foldr_cons, ← mapSteps] at h
    simp only [cond_eq_ite, Nat.blt_eq, Nat.ble_eq, Bool.or_eq_true, Nat.beq_eq,
      Bool.not_eq_true'] at h
    rw [mapInRuns]
    split at h
    · cases h
    rw [if_neg (by omega)]
    split at h
    · rw [if_neg (by omega)]
      exact hrest h
    split at h
    next hsteps =>
      -- Where there is more than one number, the run takes the same steps.
      have hmod : (n - first) % step' = (lo - first) % step' := by
        have hsplit : n - first = (n - lo) + (lo - first) := by omega
        rcases hsteps with rfl | rfl
        · rw [hsplit, Nat.add_mod, hwhole, Nat.zero_add, Nat.mod_mod]
        · rw [show n = lo by omega]
      split at h
      next haligned =>
        have hne : (lo - first) % step' ≠ 0 := by
          intro he
          rw [he] at haligned
          cases haligned
        rw [if_neg (by rw [hmod]; exact fun hand => hne hand.2)]
        exact hrest h
      next haligned =>
        have he : (lo - first) % step' = 0 := by simpa using haligned
        split at h
        next hlast =>
          rw [if_pos ⟨by omega, by rw [hmod, he]⟩]
          have hm : image + (lo - first) = m := Option.some.inj h
          congr 1
          omega
        · cases h
    · cases h

theorem mapSteps_self (n : Nat) (runs : List (Nat × Nat × Nat × Nat)) :
    mapSteps n n 1 runs = mapInRuns runs n := by
  induction runs with
  | nil => rfl
  | cons run runs ih =>
    obtain ⟨first, last, step, image⟩ := run
    rw [mapSteps, List.foldr_cons, ← mapSteps, ih, mapInRuns]
    simp only [cond_eq_ite, Nat.blt_eq, Nat.ble_eq, Nat.beq_refl, Bool.or_true, if_true,
      Bool.not_eq_true']
    by_cases hfirst : n < first
    · rw [if_pos hfirst, if_pos hfirst]
    rw [if_neg hfirst, if_neg hfirst]
    by_cases hlast : last < n
    · rw [if_pos hlast, if_neg (by omega)]
    rw [if_neg hlast, if_pos (show n ≤ last by omega)]
    by_cases haligned : (n - first) % step = 0
    · rw [if_neg (by simp [haligned]), if_pos ⟨by omega, haligned⟩]
    · have hbetween : ((n - first) % step).beq 0 = false := by
        rw [← Bool.not_eq_true, Nat.beq_eq]
        exact haligned
      rw [if_pos hbetween, if_neg (fun hand => haligned hand.2)]

def missesRuns (lo hi step : Nat) (runs : List (Nat × Nat × Nat × Nat)) : Bool :=
  runs.foldr (fun run found =>
    bif Nat.blt hi run.1 then true
    else bif Nat.blt run.2.1 lo then found
    else bif (Nat.beq run.2.2.1 step || Nat.beq lo hi) &&
        !(Nat.beq ((lo - run.1) % run.2.2.1) 0 && Nat.beq ((run.1 - lo) % run.2.2.1) 0) then found
    else false) true

theorem not_aligned {first step' : Nat} (hn : InSteps lo hi step n) (hfirst : first ≤ n)
    (hsteps : step' = step ∨ lo = hi)
    (hbetween : ¬((lo - first) % step' = 0 ∧ (first - lo) % step' = 0)) :
    (n - first) % step' ≠ 0 := by
  obtain ⟨hlo, hhi, hwhole⟩ := hn
  intro haligned
  apply hbetween
  rcases Nat.le_total first lo with hle | hle
  · have hsplit : n - first = (n - lo) + (lo - first) := by omega
    refine ⟨?_, by rw [Nat.sub_eq_zero_of_le hle, Nat.zero_mod]⟩
    rcases hsteps with rfl | rfl
    · rwa [hsplit, Nat.add_mod, hwhole, Nat.zero_add, Nat.mod_mod] at haligned
    · rwa [show n = lo by omega] at haligned
  · have hsplit : n - lo = (n - first) + (first - lo) := by omega
    refine ⟨by rw [Nat.sub_eq_zero_of_le hle, Nat.zero_mod], ?_⟩
    rcases hsteps with rfl | rfl
    · rwa [hsplit, Nat.add_mod, haligned, Nat.zero_add, Nat.mod_mod] at hwhole
    · rw [show first - lo = 0 by omega, Nat.zero_mod]

theorem not_mapped_of_missesRuns (h : missesRuns lo hi step runs = true)
    (hn : InSteps lo hi step n) : mapInRuns runs n = none := by
  induction runs with
  | nil => rfl
  | cons run runs ih =>
    obtain ⟨first, last, step', image⟩ := run
    have hrest : missesRuns lo hi step runs = true → mapInRuns runs n = none := ih
    rw [missesRuns, List.foldr_cons, ← missesRuns] at h
    simp only [cond_eq_ite, Nat.blt_eq, Bool.and_eq_true, Bool.or_eq_true, Nat.beq_eq,
      Bool.not_eq_true', Bool.and_eq_false_iff] at h
    have hlo := hn.lo_le
    have hhi := hn.le_hi
    rw [mapInRuns]
    split
    · rfl
    split at h
    · omega
    split at h
    · rw [if_neg (by omega)]
      exact hrest h
    split at h
    next hmissed =>
      have hbetween : ¬((lo - first) % step' = 0 ∧ (first - lo) % step' = 0) := by
        rintro ⟨hbefore, hafter⟩
        rcases hmissed.2 with he | he
        · rw [hbefore] at he
          cases he
        · rw [hafter] at he
          cases he
      rw [if_neg (fun hand => not_aligned hn (by omega) hmissed.1 hbetween hand.2)]
      exact hrest h
    · cases h

def blocksOf (runs : List (Nat × Nat × Nat × Nat)) : List (List (Nat × Nat × Nat × Nat)) :=
  (List.range 15).map fun i => (runs.drop (14 * i)).take 14

def reach (block : List (Nat × Nat × Nat × Nat)) : Nat :=
  block.foldr (fun run highest => max (max run.1 run.2.1) highest) 0

/-- Runs without the blocks that end before a number. The blocks are there for the checks below to
be quick. -/
def runsFrom (lo : Nat) (runs : List (Nat × Nat × Nat × Nat)) : List (Nat × Nat × Nat × Nat) :=
  ((blocksOf runs).dropWhile fun block => Nat.blt (reach block) lo).flatten

theorem mapInRuns_append (h : reach runs < n) (more : List (Nat × Nat × Nat × Nat)) :
    mapInRuns (runs ++ more) n = mapInRuns more n := by
  induction runs with
  | nil => rfl
  | cons run runs ih =>
    obtain ⟨first, last, step', image⟩ := run
    have hreach : max (max first last) (reach runs) < n := h
    rw [List.cons_append, mapInRuns, if_neg (by omega), if_neg (by omega)]
    exact ih (by omega)

theorem mapInRuns_runsFrom (hblocks : (blocksOf runs).flatten = runs) (hlo : lo ≤ n) :
    mapInRuns (runsFrom lo runs) n = mapInRuns runs n := by
  unfold runsFrom
  rw [← congrArg (mapInRuns · n) hblocks]
  induction blocksOf runs with
  | nil => rfl
  | cons block blocks ih =>
    cases hblock : Nat.blt (reach block) lo with
    | false => rw [List.dropWhile_cons_of_neg (by simp [hblock])]
    | true =>
      rw [List.dropWhile_cons_of_pos (by exact hblock), ih, List.flatten_cons]
      rw [Nat.blt_eq] at hblock
      exact (mapInRuns_append (Nat.lt_of_lt_of_le hblock hlo) _).symm

theorem upperRuns_blocks : (blocksOf Property.upperRuns).flatten = Property.upperRuns := by
  decide +kernel

theorem lowerRuns_blocks : (blocksOf Property.lowerRuns).flatten = Property.lowerRuns := by
  decide +kernel

def mapUpper (lo hi step : Nat) : Option Nat :=
  mapSteps lo hi step (runsFrom lo Property.upperRuns)

def mapLower (lo hi step : Nat) : Option Nat :=
  mapSteps lo hi step (runsFrom lo Property.lowerRuns)

def imageEnd (run : Nat × Nat × Nat × Nat) : Nat := run.2.2.2 + (run.2.1 - run.1)

def upperSettles (run : Nat × Nat × Nat × Nat) : Bool :=
  missesRuns run.2.2.2 (imageEnd run) run.2.2.1 (runsFrom run.2.2.2 Property.upperRuns) &&
    (mapLower run.2.2.2 (imageEnd run) run.2.2.1).any fun small =>
      small == run.1 ||
        mapUpper small (small + (run.2.1 - run.1)) run.2.2.1 == some run.2.2.2

def lowerSettlesAt (n : Nat) : Bool :=
  match mapUpper n n 1 with
  | some capital => mapLower capital capital 1 == some n
  | none => (mapLower n n 1).isNone && misses Property.uppercaseRanges n n 1

def lowerSettles (run : Nat × Nat × Nat × Nat) : Bool :=
  mapUpper run.2.2.2 (imageEnd run) run.2.2.1 == some run.1 ||
    (List.range (run.2.1 - run.1 + 1)).all fun k =>
      k % run.2.2.1 != 0 || lowerSettlesAt (run.2.2.2 + k)

theorem upperRuns_small : sweeps 0 Property.upperRuns Property.uppercaseRanges = true := by
  decide +kernel

theorem upperRuns_settle : Property.upperRuns.all upperSettles = true := by
  decide +kernel

theorem lowerRuns_settle : Property.lowerRuns.all lowerSettles = true := by
  decide +kernel

theorem inSteps_image (hn : InSteps run.1 run.2.1 run.2.2.1 n) :
    InSteps run.2.2.2 (imageEnd run) run.2.2.1 (run.2.2.2 + (n - run.1)) := by
  obtain ⟨hlo, hhi, hwhole⟩ := hn
  unfold imageEnd
  exact ⟨by omega, by omega, by rwa [Nat.add_sub_cancel_left]⟩

theorem inSteps_of_mapInRuns (h : mapInRuns runs n = some m) : ∃ run ∈ runs,
    InSteps run.1 run.2.1 run.2.2.1 n ∧ m = run.2.2.2 + (n - run.1) := by
  obtain ⟨run, hmem, hfirst, hlast, haligned, hm⟩ := exists_of_mapInRuns h
  exact ⟨run, hmem, ⟨hfirst, hlast, haligned⟩, hm⟩

theorem upper_of_mapUpper {image : Nat} (h : mapUpper lo hi step = some image)
    (hn : InSteps lo hi step n) : mapInRuns Property.upperRuns n = some (image + (n - lo)) := by
  rw [← mapInRuns_runsFrom upperRuns_blocks hn.lo_le]
  exact mapInRuns_of_mapSteps h hn

theorem lower_of_mapLower {image : Nat} (h : mapLower lo hi step = some image)
    (hn : InSteps lo hi step n) : mapInRuns Property.lowerRuns n = some (image + (n - lo)) := by
  rw [← mapInRuns_runsFrom lowerRuns_blocks hn.lo_le]
  exact mapInRuns_of_mapSteps h hn

theorem not_uppercase_of_upper (h : mapInRuns Property.upperRuns n = some m) :
    inRanges Property.uppercaseRanges n = false := by
  obtain ⟨run, hmem, hn, -⟩ := inSteps_of_mapInRuns h
  exact (not_inRanges_of_sweeps upperRuns_small hmem hn).2

theorem upper_of_upper (h : mapInRuns Property.upperRuns n = some m) :
    mapInRuns Property.upperRuns m = none ∧ ∃ small,
      mapInRuns Property.lowerRuns m = some small ∧
      mapInRuns Property.upperRuns small = some m := by
  obtain ⟨run, hmem, hn, rfl⟩ := inSteps_of_mapInRuns h
  have hrun := List.all_eq_true.mp upperRuns_settle run hmem
  rw [upperSettles, Bool.and_eq_true, Option.any_eq_true] at hrun
  obtain ⟨hmisses, small, hlower, hback⟩ := hrun
  have himage := inSteps_image hn
  constructor
  · rw [← mapInRuns_runsFrom upperRuns_blocks himage.lo_le]
    exact not_mapped_of_missesRuns hmisses himage
  · refine ⟨small + (n - run.1), ?_, ?_⟩
    · have hsmall := lower_of_mapLower hlower himage
      rwa [Nat.add_sub_cancel_left] at hsmall
    · rw [Bool.or_eq_true, beq_iff_eq, beq_iff_eq] at hback
      rcases hback with rfl | hback
      · rw [Nat.add_sub_cancel' hn.lo_le]
        exact h
      · have hsteps : InSteps small (small + (run.2.1 - run.1)) run.2.2.1
            (small + (n - run.1)) := by
          obtain ⟨hlo, hhi, hwhole⟩ := hn
          exact ⟨by omega, by omega, by rwa [Nat.add_sub_cancel_left]⟩
        have hupper := upper_of_mapUpper hback hsteps
        rwa [Nat.add_sub_cancel_left] at hupper

theorem lower_of_lower (h : mapInRuns Property.lowerRuns n = some m) :
    inRanges Property.uppercaseRanges m = false ∧
      ((mapInRuns Property.upperRuns m = none ∧ mapInRuns Property.lowerRuns m = none) ∨
        ∃ capital, mapInRuns Property.upperRuns m = some capital ∧
          mapInRuns Property.lowerRuns capital = some m) := by
  obtain ⟨run, hmem, hn, rfl⟩ := inSteps_of_mapInRuns h
  have hrun := List.all_eq_true.mp lowerRuns_settle run hmem
  rw [lowerSettles, Bool.or_eq_true, beq_iff_eq] at hrun
  rcases hrun with hback | heach
  · have hupper := upper_of_mapUpper hback (inSteps_image hn)
    rw [Nat.add_sub_cancel_left, Nat.add_sub_cancel' hn.lo_le] at hupper
    exact ⟨not_uppercase_of_upper hupper, .inr ⟨n, hupper, h⟩⟩
  · have hk := List.all_eq_true.mp heach (n - run.1)
      (List.mem_range.mpr (by have := hn.le_hi; omega))
    generalize run.2.2.2 + (n - run.1) = image at hk
    rw [hn.whole] at hk
    have hself : InSteps image image 1 image := ⟨Nat.le_refl _, Nat.le_refl _, Nat.mod_one _⟩
    have hupper : mapUpper image image 1 = mapInRuns Property.upperRuns image := by
      rw [mapUpper, mapSteps_self, mapInRuns_runsFrom upperRuns_blocks (Nat.le_refl _)]
    have hlower (k : Nat) : mapLower k k 1 = mapInRuns Property.lowerRuns k := by
      rw [mapLower, mapSteps_self, mapInRuns_runsFrom lowerRuns_blocks (Nat.le_refl _)]
    have hat : lowerSettlesAt image = true := by simpa using hk
    rw [lowerSettlesAt, hupper] at hat
    split at hat
    next capital hcapital =>
      rw [hlower, beq_iff_eq] at hat
      exact ⟨not_uppercase_of_upper hcapital, .inr ⟨capital, hcapital, hat⟩⟩
    next hnone =>
      rw [hlower, Bool.and_eq_true, Option.isNone_iff_eq_none] at hat
      exact ⟨not_inRanges_of_misses hat.2 hself, .inl ⟨hnone, hat.1⟩⟩

variable {c : Char}

theorem upperChar_of_none (h : mapInRuns Property.upperRuns c.toNat = none) : upperChar c = c := by
  rw [upperChar, h]
  rfl

theorem lowerChar_of_none (h : mapInRuns Property.lowerRuns c.toNat = none) : lowerChar c = c := by
  rw [lowerChar, h]
  rfl

theorem toNat_upperChar (h : mapInRuns Property.upperRuns c.toNat = some m) :
    (upperChar c).toNat = m := by
  rw [upperChar, h]
  exact toNat_ofNat_of_alphabetic (inRanges_of_leadsToLetters upperRuns_leadToLetters h)

theorem toNat_lowerChar (h : mapInRuns Property.lowerRuns c.toNat = some m) :
    (lowerChar c).toNat = m := by
  rw [lowerChar, h]
  exact toNat_ofNat_of_alphabetic (inRanges_of_leadsToLetters lowerRuns_leadToLetters h)

theorem upperChar_of_isUpper (h : isUpper c = true) : upperChar c = c := by
  cases hupper : mapInRuns Property.upperRuns c.toNat with
  | none => exact upperChar_of_none hupper
  | some capital =>
    rw [isUpper, not_uppercase_of_upper hupper] at h
    cases h

theorem foldChar_of_not_isUpper (h : isUpper c = false) : foldChar c = c := by
  rw [foldChar, h]
  rfl

theorem foldChar_of_isUpper (h : isUpper c = true) : foldChar c = lowerChar c := by
  rw [foldChar, h]
  rfl

theorem foldChar_lowerChar (c : Char) : foldChar (lowerChar c) = lowerChar c := by
  cases hlower : mapInRuns Property.lowerRuns c.toNat with
  | none =>
    rw [lowerChar_of_none hlower, foldChar, lowerChar_of_none hlower, ite_self]
  | some small =>
    apply foldChar_of_not_isUpper
    rw [isUpper, toNat_lowerChar hlower]
    exact (lower_of_lower hlower).1

theorem foldChar_foldChar (c : Char) : foldChar (foldChar c) = foldChar c := by
  cases hupper : isUpper c with
  | false => rw [foldChar_of_not_isUpper hupper, foldChar_of_not_isUpper hupper]
  | true => rw [foldChar_of_isUpper hupper, foldChar_lowerChar]

theorem upperChar_foldChar_upperChar (c : Char) :
    upperChar (foldChar (upperChar (foldChar c))) = upperChar (foldChar c) := by
  cases hupper : mapInRuns Property.upperRuns (foldChar c).toNat with
  | none => rw [upperChar_of_none hupper, foldChar_foldChar, upperChar_of_none hupper]
  | some capital =>
    obtain ⟨hnone, small, hsmall, hback⟩ := upper_of_upper hupper
    rw [← toNat_upperChar hupper] at hnone hsmall
    cases hcapital : isUpper (upperChar (foldChar c)) with
    | false => rw [foldChar_of_not_isUpper hcapital, upperChar_of_none hnone]
    | true =>
      rw [foldChar_of_isUpper hcapital]
      rw [← toNat_lowerChar hsmall] at hback
      exact Char.toNat_inj.mp ((toNat_upperChar hback).trans (toNat_upperChar hupper).symm)

theorem lowerChar_upperChar_lowerChar (c : Char) :
    lowerChar (upperChar (lowerChar (upperChar c))) = lowerChar (upperChar c) := by
  cases hupper : mapInRuns Property.upperRuns c.toNat with
  | some capital =>
    obtain ⟨-, small, hsmall, hback⟩ := upper_of_upper hupper
    rw [← toNat_upperChar hupper] at hsmall
    rw [← toNat_lowerChar hsmall] at hback
    rw [Char.toNat_inj.mp ((toNat_upperChar hback).trans (toNat_upperChar hupper).symm)]
  | none =>
    rw [upperChar_of_none hupper]
    cases hlower : mapInRuns Property.lowerRuns c.toNat with
    | none => rw [lowerChar_of_none hlower, upperChar_of_none hupper, lowerChar_of_none hlower]
    | some small =>
      have hsmall := toNat_lowerChar hlower
      rcases (lower_of_lower hlower).2 with ⟨hnone, hnone'⟩ | ⟨capital, hcapital, hback⟩
      · rw [← hsmall] at hnone hnone'
        rw [upperChar_of_none hnone, lowerChar_of_none hnone']
      · rw [← hsmall] at hcapital
        rw [← toNat_upperChar hcapital] at hback
        exact Char.toNat_inj.mp ((toNat_lowerChar hback).trans hsmall.symm)

end TypedClient.Text
