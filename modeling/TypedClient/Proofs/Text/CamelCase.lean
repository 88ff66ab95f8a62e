import TypedClient.Proofs.Text.WordBoundaries

namespace TypedClient.Text

variable {isSeparator : Char → Bool} {separator c : Char}
  {text rest word : List Char} {parts : List (List Char)}

theorem partsBetween_append (hne : word ≠ []) (hword : ∀ c ∈ word, isSeparator c = false)
    (hrest : ∀ c ∈ rest.head?, isSeparator c = true) :
    partsBetween isSeparator (word ++ rest) = word :: partsBetween isSeparator rest := by
  induction word with
  | nil => exact absurd rfl hne
  | cons c word ih =>
    have hc := hword c (by simp)
    cases word with
    | nil =>
      cases rest with
      | nil => simp [partsBetween, hc]
      | cons d rest =>
        have hd := hrest d (by simp)
        simp [partsBetween.eq_def isSeparator (c :: d :: rest), hc, hd]
    | cons d word =>
      have hd := hword d (by simp)
      have hparts := ih (by simp) (fun c hmem => hword c (List.mem_cons_of_mem _ hmem))
      rw [List.cons_append, List.cons_append, partsBetween]
      simp only [hc, hd, Bool.false_eq_true, if_false]
      rw [← List.cons_append, hparts, extendFirst]

theorem partsBetween_joinWith (hseparator : isSeparator separator = true)
    (hparts : ∀ part ∈ parts, part ≠ [] ∧ ∀ c ∈ part, isSeparator c = false) :
    partsBetween isSeparator (joinWith [separator] parts) = parts := by
  induction parts with
  | nil => rfl
  | cons part parts ih =>
    obtain ⟨hne, hchars⟩ := hparts part (by simp)
    have hrest := ih fun part hmem => hparts part (List.mem_cons_of_mem _ hmem)
    cases parts with
    | nil =>
      have happend : partsBetween isSeparator (part ++ []) = part :: partsBetween isSeparator [] :=
        partsBetween_append hne hchars (by simp)
      rwa [List.append_nil] at happend
    | cons next parts =>
      have hbetween : partsBetween isSeparator (separator :: joinWith [separator] (next :: parts)) =
          partsBetween isSeparator (joinWith [separator] (next :: parts)) := by
        rw [partsBetween.eq_def]
        exact if_pos hseparator
      rw [joinWith, List.append_assoc, partsBetween_append hne hchars (by simpa using hseparator),
        List.singleton_append, hbetween, hrest]
      simp

theorem upperCamelChars_eq (text : List Char) :
    upperCamelChars text = ((words text).map capitalize).flatten := by
  rw [upperCamelChars, snakeChars_eq_joinWith, partsBetween_joinWith rfl]
  intro word hword
  refine ⟨(mem_words hword).1, ?_⟩
  intro c hc
  have hchar := isWordChar_of_mem_words hword c hc
  rw [beq_eq_false_iff_ne]
  rintro rfl
  revert hchar
  decide

theorem isWordChar_of_mem_capitalize {part : List Char} (h : ∀ c ∈ part, isWordChar c = true) :
    ∀ c ∈ capitalize part, isWordChar c = true := by
  cases part with
  | nil => simp [capitalize]
  | cons c rest =>
    intro d hd
    rcases List.mem_cons.mp hd with rfl | hd
    · exact isWordChar_upperChar (h c (by simp))
    · exact h d (by simp [hd])

theorem isWordChar_of_mem_upperCamelChars {text : List Char} :
    ∀ c ∈ upperCamelChars text, isWordChar c = true := by
  intro c hc
  rw [upperCamelChars_eq] at hc
  obtain ⟨part, hpart, hc⟩ := List.mem_flatten.mp hc
  obtain ⟨word, hword, rfl⟩ := List.mem_map.mp hpart
  exact isWordChar_of_mem_capitalize (isWordChar_of_mem_words hword) c hc

theorem exists_of_upperCamelChars_cons (h : upperCamelChars text = c :: rest) :
    ∃ d, c = upperChar (foldChar d) := by
  rw [upperCamelChars_eq] at h
  cases hwords : words text with
  | nil => simp [hwords] at h
  | cons word others =>
    have hword : word ∈ words text := by simp [hwords]
    obtain ⟨hne, hchars⟩ := mem_words hword
    cases word with
    | nil => exact absurd rfl hne
    | cons first word =>
      obtain ⟨d, -, rfl⟩ := hchars first (by simp)
      rw [hwords, List.map_cons, List.flatten_cons, capitalize, List.cons_append] at h
      exact ⟨d, (List.cons.inj h).1.symm⟩

theorem upperCamelChars_head (h : upperCamelChars text = c :: rest) : isSmallAscii c = false := by
  obtain ⟨d, rfl⟩ := exists_of_upperCamelChars_cons h
  exact not_isSmallAscii_upperChar (foldChar d)

theorem isWordChar_of_mem_decapitalize {part : List Char} (h : ∀ c ∈ part, isWordChar c = true) :
    ∀ c ∈ decapitalize part, isWordChar c = true := by
  cases part with
  | nil => simp [decapitalize]
  | cons c rest =>
    intro d hd
    rcases List.mem_cons.mp hd with rfl | hd
    · exact isWordChar_lowerChar (h c (by simp))
    · exact h d (by simp [hd])

end TypedClient.Text
