import TypedClient.Proofs.Files.FileNames

/-!
The lower-case form of a text that is made of two parts. The form of a capital sigma depends on what
stands around it, so the form of the first part depends on the second; only its length does not.
-/

namespace TypedClient.Text

def lowerForm (before : List Char) (c : Char) (rest : List Char) : List Char :=
  if c = '\u03a3' then
    if meetsCased before && !meetsCased rest then ['\u03c2'] else ['\u03c3']
  else if c = '\u0130' then ['i', '\u0307']
  else [lowerChar c]

variable {front before : List Char} {stem other : String}

theorem lowerAfter_cons (before rest : List Char) (c : Char) :
    lowerAfter before (c :: rest) = lowerForm before c rest ++ lowerAfter (c :: before) rest :=
  rfl

theorem lowerForm_of_ne {c : Char} (h : c ≠ '\u03a3') (before before' rest rest' : List Char) :
    lowerForm before c rest = lowerForm before' c rest' := by
  unfold lowerForm
  rw [if_neg h, if_neg h]

theorem lowerForm_sigma (before rest : List Char) :
    lowerForm before '\u03a3' rest = ['\u03c2'] ∨ lowerForm before '\u03a3' rest = ['\u03c3'] := by
  unfold lowerForm
  rw [if_pos rfl]
  split
  · exact .inl rfl
  · exact .inr rfl

theorem length_lowerForm_sigma (before rest : List Char) :
    (lowerForm before '\u03a3' rest).length = 1 := by
  rcases lowerForm_sigma before rest with h | h
  · rw [h]
    rfl
  · rw [h]
    rfl

theorem length_lowerForm (c : Char) (before before' rest rest' : List Char) :
    (lowerForm before c rest).length = (lowerForm before' c rest').length := by
  by_cases h : c = '\u03a3'
  · rw [h, length_lowerForm_sigma, length_lowerForm_sigma]
  · rw [lowerForm_of_ne h before before' rest rest']

theorem length_lowerAfter (before before' text : List Char) :
    (lowerAfter before text).length = (lowerAfter before' text).length := by
  induction text generalizing before before' with
  | nil => rfl
  | cons c text ih =>
    rw [lowerAfter_cons, lowerAfter_cons, List.length_append, List.length_append,
      length_lowerForm c before before' text text, ih (c :: before) (c :: before')]

theorem lowerAfter_append (before front back : List Char) : ∃ first,
    lowerAfter before (front ++ back) = first ++ lowerAfter (front.reverse ++ before) back ∧
      ('\u03a3' ∉ front → first = lowerAfter before front) ∧
      ('\u03a3' ∈ front → '\u03c2' ∈ first ∨ '\u03c3' ∈ first) := by
  -- What was passed so far grows from step to step.
  induction front generalizing before with
  | nil => exact ⟨[], rfl, fun _ => rfl, fun h => absurd h (List.not_mem_nil)⟩
  | cons c front ih =>
    obtain ⟨first, happend, hplain, hsigma⟩ := ih (c :: before)
    refine ⟨lowerForm before c (front ++ back) ++ first, ?_, ?_, ?_⟩
    · rw [List.cons_append, lowerAfter_cons, happend, List.reverse_cons, List.append_assoc,
        List.append_assoc, List.singleton_append]
    · intro h
      obtain ⟨hc, hfront⟩ := not_or.mp fun hor => h (List.mem_cons.mpr hor)
      rw [lowerAfter_cons, hplain hfront,
        lowerForm_of_ne (Ne.symm hc) before before (front ++ back) front]
    · intro h
      by_cases hfront : '\u03a3' ∈ front
      · exact (hsigma hfront).imp (List.mem_append_right _) (List.mem_append_right _)
      · obtain rfl : '\u03a3' = c := (List.mem_cons.mp h).resolve_right hfront
        rcases lowerForm_sigma before (front ++ back) with he | he
        · exact .inl (List.mem_append_left _ (he ▸ List.mem_singleton_self _))
        · exact .inr (List.mem_append_left _ (he ▸ List.mem_singleton_self _))

theorem lowerChar_ascii : ∀ n < 128, Char.ofNat n ≠ '\u03a3' ∧ Char.ofNat n ≠ '\u0130' ∧
    lowerChar (Char.ofNat n) ≠ '\u03c2' ∧ lowerChar (Char.ofNat n) ≠ '\u03c3' := by
  decide +kernel

theorem toNat_lt_of_isAsciiAlphanumeric {c : Char} (h : isAsciiAlphanumeric c = true) :
    c.toNat < 128 := by
  simp only [isAsciiAlphanumeric, isAsciiLetter, isAsciiDigit, Bool.or_eq_true, Bool.and_eq_true,
    decide_eq_true_eq, Char.le_def, UInt32.le_iff_toNat_le] at h
  rcases h with (⟨-, h⟩ | ⟨-, h⟩) | ⟨-, h⟩
  · exact Nat.lt_of_le_of_lt h (by decide)
  · exact Nat.lt_of_le_of_lt h (by decide)
  · exact Nat.lt_of_le_of_lt h (by decide)

theorem IsStem.ascii (h : IsStem stem) : ∀ c ∈ stem.toList, c.toNat < 128 := by
  intro c hc
  rcases h.chars c hc with hchar | rfl | rfl
  · exact toNat_lt_of_isAsciiAlphanumeric hchar
  · decide
  · decide

theorem sigma_of_ascii {text : List Char} (h : ∀ c ∈ text, c.toNat < 128) (before : List Char) :
    '\u03a3' ∉ text ∧ '\u03c2' ∉ lowerAfter before text ∧ '\u03c3' ∉ lowerAfter before text := by
  induction text generalizing before with
  | nil => simp [lowerAfter]
  | cons c text ih =>
    obtain ⟨hsigma, hdotted, hfinal, hsmall⟩ := lowerChar_ascii c.toNat (h c (by simp))
    rw [Char.ofNat_toNat] at hsigma hdotted hfinal hsmall
    obtain ⟨hrest, hrest', hrest''⟩ := ih (fun d hd => h d (List.mem_cons_of_mem _ hd)) (c :: before)
    have hform : lowerForm before c text = [lowerChar c] := by
      unfold lowerForm
      rw [if_neg hsigma, if_neg hdotted]
    rw [lowerAfter_cons, hform]
    simp only [List.mem_cons, List.singleton_append, not_or]
    exact ⟨⟨Ne.symm hsigma, hrest⟩, ⟨Ne.symm hfinal, hrest'⟩, ⟨Ne.symm hsmall, hrest''⟩⟩

theorem IsStem.lowercase_eq (h : IsStem stem) {ending : String}
    (hsame : lowercase (stem ++ ending) = lowercase (other ++ ending)) :
    lowercase stem = lowercase other := by
  have hlists := String.ofList_injective hsame
  rw [String.toList_append, String.toList_append] at hlists
  obtain ⟨first, hfirst, hplain, -⟩ := lowerAfter_append [] stem.toList ending.toList
  obtain ⟨second, hsecond, hplain', hsigma⟩ := lowerAfter_append [] other.toList ending.toList
  rw [hfirst, hsecond] at hlists
  -- The two endings may have different forms, but these have the same length.
  obtain ⟨rfl, -⟩ := List.append_inj' hlists (length_lowerAfter _ _ _)
  obtain ⟨hstem, hfinal, hsmall⟩ := sigma_of_ascii h.ascii []
  rw [← hplain hstem] at hfinal hsmall
  have hother : '\u03a3' ∉ other.toList := by
    intro hmem
    rcases hsigma hmem with hmem | hmem
    · exact hfinal hmem
    · exact hsmall hmem
  unfold lowercase
  rw [← hplain hstem, ← hplain' hother]

end TypedClient.Text
