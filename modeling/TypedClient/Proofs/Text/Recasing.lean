import Mathlib.Data.List.Chain
import TypedClient.Proofs.Text.CamelCase
import TypedClient.Proofs.Text.CaseForms

/-!
Casing a text that is in one piece. The words are found again by the capitals alone, so a capital
stays where it follows a small letter, and every other one is written small.
-/

namespace TypedClient.Text

variable {c left : Char} {text rest : List Char}

theorem upperChar_foldChar_of_mem (hc : c ∈ upperCamelChars text) (hupper : isUpper c = true) :
    upperChar (foldChar c) = c := by
  rw [upperCamelChars_eq] at hc
  obtain ⟨part, hpart, hc⟩ := List.mem_flatten.mp hc
  obtain ⟨word, hword, rfl⟩ := List.mem_map.mp hpart
  obtain ⟨-, hchars⟩ := mem_words hword
  cases word with
  | nil => simp [capitalize] at hc
  | cons first word =>
    rcases List.mem_cons.mp hc with rfl | hc
    · obtain ⟨d, -, rfl⟩ := hchars first (by simp)
      exact upperChar_foldChar_upperChar d
    · obtain ⟨d, -, rfl⟩ := hchars c (List.mem_cons_of_mem _ hc)
      rw [foldChar_foldChar, upperChar_of_isUpper hupper]

/-- What casing makes of the characters after `left`. -/
def recasedAfter (left : Char) : List Char → List Char
  | [] => []
  | c :: rest =>
    (if endsBetween left c then upperChar (foldChar c) else foldChar c) :: recasedAfter c rest

theorem words_cons (hc : isWordChar c = true) (hrest : ∀ d ∈ rest, isWordChar d = true) :
    ∃ word others, words (c :: rest) = (foldChar c :: word) :: others ∧
      word ++ (others.map capitalize).flatten = recasedAfter c rest := by
  induction rest generalizing c with
  | nil => exact ⟨[], [], by simp [words, goesOn, hc], rfl⟩
  | cons d rest ih =>
    have hd := hrest d (by simp)
    obtain ⟨word, others, hwords, hrecased⟩ :=
      ih hd (fun e he => hrest e (List.mem_cons_of_mem _ he))
    rw [words, if_pos hc, goesOn, hd, Bool.true_and, hwords, recasedAfter, ← hrecased]
    cases hends : endsBetween c d with
    | true => exact ⟨[], (foldChar d :: word) :: others, by simp, by simp [capitalize]⟩
    | false => exact ⟨foldChar d :: word, others, by simp [extendFirst], by simp⟩

theorem upperCamelChars_cons (hc : isWordChar c = true) (hrest : ∀ d ∈ rest, isWordChar d = true) :
    upperCamelChars (c :: rest) = upperChar (foldChar c) :: recasedAfter c rest := by
  obtain ⟨word, others, hwords, hrecased⟩ := words_cons hc hrest
  rw [upperCamelChars_eq, hwords, List.map_cons, List.flatten_cons, capitalize, List.cons_append,
    hrecased]

theorem upperCamelChars_underscore (text : List Char) :
    upperCamelChars ('_' :: text) = upperCamelChars text := by
  have hchar : isWordChar '_' = false := by decide
  rw [upperCamelChars_eq, upperCamelChars_eq, words, hchar, if_neg (by simp)]

/-- Each capital that has a small form follows a small letter, the first character aside. -/
def HasClearCapitals (name : List Char) : Prop :=
  name.IsChain fun left right =>
    isUpper right = true → lowerChar right ≠ right → isLower left = true ∧ isUpper left = false

instance : DecidablePred HasClearCapitals :=
  fun name => inferInstanceAs (Decidable (name.IsChain _))

theorem clear_iff {left right : Char} :
    (isUpper right = true → lowerChar right ≠ right → isLower left = true ∧ isUpper left = false) ↔
      (endsBetween left right = true ∨ foldChar right = right) := by
  unfold endsBetween foldChar
  cases isUpper right with
  | false => simp
  | true =>
    by_cases hlower : lowerChar right = right
    · simp [hlower]
    · simp [hlower]

theorem hasClearCapitals_cons_cons {left right : Char} {rest : List Char} :
    HasClearCapitals (left :: right :: rest) ↔
      (endsBetween left right = true ∨ foldChar right = right) ∧
        HasClearCapitals (right :: rest) := by
  rw [HasClearCapitals, List.isChain_cons_cons, clear_iff, ← HasClearCapitals]

theorem isUpper_of_endsBetween {left right : Char} (h : endsBetween left right = true) :
    isUpper right = true := by
  rw [endsBetween, Bool.and_eq_true] at h
  exact h.2

theorem recasedAfter_eq_iff
    (hrest : ∀ d ∈ rest, isUpper d = true → upperChar (foldChar d) = d) :
    recasedAfter left rest = rest ↔ HasClearCapitals (left :: rest) := by
  induction rest generalizing left with
  | nil => simp [recasedAfter, HasClearCapitals]
  | cons d rest ih =>
    rw [recasedAfter, List.cons.injEq, ih (fun e he => hrest e (List.mem_cons_of_mem _ he)),
      hasClearCapitals_cons_cons]
    cases hends : endsBetween left d with
    | false => simp
    | true => simp [hrest d (by simp) (isUpper_of_endsBetween hends)]

theorem hasClearCapitals_recasedAfter {first left : Char}
    (hfirst : isUpper left = false → first = left) (rest : List Char) :
    HasClearCapitals (first :: recasedAfter left rest) := by
  induction rest generalizing first left with
  | nil => simp [recasedAfter, HasClearCapitals]
  | cons c rest ih =>
    rw [recasedAfter, hasClearCapitals_cons_cons]
    cases hends : endsBetween left c with
    | false =>
      rw [if_neg (by simp)]
      exact ⟨.inr (foldChar_foldChar c), ih foldChar_of_not_isUpper⟩
    | true =>
      rw [if_pos rfl]
      have hc := isUpper_of_endsBetween hends
      simp only [endsBetween, Bool.and_eq_true, Bool.not_eq_true'] at hends
      obtain ⟨⟨hlower, hsmall⟩, -⟩ := hends
      obtain rfl := hfirst hsmall
      refine ⟨?_, ih (by simp [hc])⟩
      cases hupper : isUpper (upperChar (foldChar c)) with
      | false => exact .inr (foldChar_of_not_isUpper hupper)
      | true => exact .inl (by simp [endsBetween, hlower, hsmall, hupper])

end TypedClient.Text
