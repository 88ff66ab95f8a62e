import TypedClient.Proofs.Text.Recasing

/-!
Casing a snake-case text. A word of it may fall apart once more, before a capital that has no small
form, and capitalising the parts leaves such a capital as it is.
-/

namespace TypedClient.Text

variable {c left separator : Char} {rest word text : List Char}

theorem words_cons_ne_nil (hc : isWordChar c = true) (rest : List Char) :
    words (c :: rest) ≠ [] := by
  rw [words, if_pos hc]
  split
  · cases words rest <;> simp [extendFirst]
  · simp

theorem words_ne_nil_of_goesOn (h : goesOn c text = true) : words text ≠ [] := by
  cases text with
  | nil => cases h
  | cons d rest =>
    rw [goesOn, Bool.and_eq_true] at h
    exact words_cons_ne_nil h.1 rest

theorem goesOn_append_separator (hseparator : isWordChar separator = false) (c : Char)
    (front rest : List Char) : goesOn c (front ++ separator :: rest) = goesOn c front := by
  cases front with
  | nil => simp [goesOn, hseparator]
  | cons d front => rfl

theorem extendFirst_append {parts : List (List Char)} (hne : parts ≠ []) (c : Char)
    (others : List (List Char)) :
    extendFirst c (parts ++ others) = extendFirst c parts ++ others := by
  cases parts with
  | nil => exact absurd rfl hne
  | cons part parts => rfl

theorem words_append_separator (hseparator : isWordChar separator = false)
    (front rest : List Char) : words (front ++ separator :: rest) = words front ++ words rest := by
  induction front with
  | nil => simp [words, hseparator]
  | cons c front ih =>
    rw [List.cons_append, words, words, goesOn_append_separator hseparator, ih]
    cases hc : isWordChar c with
    | false => rfl
    | true =>
      cases hgoes : goesOn c front with
      | false => rfl
      | true => exact extendFirst_append (words_ne_nil_of_goesOn hgoes) _ _

theorem words_joinWith (hseparator : isWordChar separator = false) (parts : List (List Char)) :
    words (joinWith [separator] parts) = parts.flatMap words := by
  induction parts with
  | nil => rfl
  | cons part parts ih =>
    cases parts with
    | nil => simp [joinWith]
    | cons next parts =>
      rw [joinWith_cons (by simp), List.append_assoc, List.singleton_append,
        words_append_separator hseparator, ih, ← List.flatMap_cons]

theorem words_snakeChars (text : List Char) :
    words (snakeChars text) = (words text).flatMap words := by
  rw [snakeChars_eq_joinWith, words_joinWith (by decide)]

/-- The pass is not idempotent: the first letter is small now, and the second is a capital still. -/
example : snakeCase "Aİ" = "aİ" ∧ snakeCase "aİ" = "a_İ" := by decide +kernel

theorem hasClearCapitals_of_small (hsmall : ∀ c ∈ rest, foldChar c = c) :
    HasClearCapitals (left :: rest) := by
  induction rest generalizing left with
  | nil => simp [HasClearCapitals]
  | cons c rest ih =>
    rw [hasClearCapitals_cons_cons]
    exact ⟨.inr (hsmall c (by simp)), ih fun d hd => hsmall d (List.mem_cons_of_mem _ hd)⟩

/-- A capital that is its own small form is also its own capital form. -/
theorem recasedAfter_of_small (hsmall : ∀ c ∈ rest, foldChar c = c) :
    recasedAfter left rest = rest := by
  have hcapitals : ∀ c ∈ rest, isUpper c = true → upperChar (foldChar c) = c := by
    intro c hc hupper
    rw [hsmall c hc, upperChar_of_isUpper hupper]
  exact (recasedAfter_eq_iff hcapitals).mpr (hasClearCapitals_of_small hsmall)

/-- However a word falls apart, its parts come together to the word with its first character
capitalised. -/
theorem upperCamelChars_of_mem_words (hword : word ∈ words text) :
    upperCamelChars word = capitalize word := by
  have hchars := isWordChar_of_mem_words hword
  obtain ⟨hne, hfolded⟩ := mem_words hword
  have hsmall : ∀ c ∈ word, foldChar c = c := by
    intro c hc
    obtain ⟨d, -, rfl⟩ := hfolded c hc
    exact foldChar_foldChar d
  cases word with
  | nil => exact absurd rfl hne
  | cons c rest =>
    rw [List.forall_mem_cons] at hchars hsmall
    rw [upperCamelChars_cons hchars.1 hchars.2, hsmall.1, recasedAfter_of_small hsmall.2,
      capitalize]

theorem upperCamelChars_eq_flatMap (text : List Char) :
    upperCamelChars text = (words text).flatMap capitalize := by
  rw [upperCamelChars_eq, List.flatMap_def]

theorem upperCamelChars_snakeChars (text : List Char) :
    upperCamelChars (snakeChars text) = upperCamelChars text := by
  have hparts : ∀ word ∈ words text, (words word).flatMap capitalize = capitalize word := by
    intro word hword
    rw [← upperCamelChars_eq_flatMap, upperCamelChars_of_mem_words hword]
  calc upperCamelChars (snakeChars text)
      = ((words text).flatMap words).flatMap capitalize := by
        rw [upperCamelChars_eq_flatMap, words_snakeChars]
    _ = (words text).flatMap fun word => (words word).flatMap capitalize := List.flatMap_assoc
    _ = (words text).flatMap capitalize := List.flatMap_congr hparts
    _ = upperCamelChars text := (upperCamelChars_eq_flatMap text).symm

theorem upperCamelCase_snakeCase (text : String) :
    upperCamelCase (snakeCase text) = upperCamelCase text := by
  rw [upperCamelCase, snakeCase, String.toList_ofList, upperCamelChars_snakeChars, upperCamelCase]

theorem lowerCamelCase_snakeCase (text : String) :
    lowerCamelCase (snakeCase text) = lowerCamelCase text := by
  rw [lowerCamelCase, snakeCase, String.toList_ofList, upperCamelChars_snakeChars, lowerCamelCase]

end TypedClient.Text
