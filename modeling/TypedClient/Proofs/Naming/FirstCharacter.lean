import TypedClient.Proofs.Naming.SecondPass
import TypedClient.Proofs.Text.Numerals

namespace TypedClient.Naming

open Text

variable {fallback raw : String} {first : Char → Char}

def firstLetterOrNumber? (raw : String) : Option Char := raw.toList.find? isAlphanumeric

/-- The characters of a name that is made from a text: letters and numbers, after an underscore
where the first of them is an ASCII digit. -/
structure IsMadeFrom (raw : String) (head : Char) (rest : List Char) : Prop where
  rest_alphanumeric : ∀ c ∈ rest, isAlphanumeric c = true
  head_alphanumeric : head ≠ '_' → isAlphanumeric head = true
  not_digit : isAsciiDigit head = false
  marked_iff : head = '_' ↔
    ∃ digit, firstLetterOrNumber? raw = some digit ∧ isAsciiDigit digit = true
  marked_digit : head = '_' → rest.head? = firstLetterOrNumber? raw
  numeric_iff : isNumeric head = true ↔ ∃ number, firstLetterOrNumber? raw = some number ∧
    isNumeric number = true ∧ isAsciiDigit number = false

structure IsNumberSafe (fallback : String) (first : Char → Char) : Prop where
  wordChar (c : Char) : isWordChar c = true → isWordChar (first c) = true
  keeps : KeepsNumbers first
  fallback_head : ∃ head rest, fallback.toList = head :: rest ∧ isNumeric head = false ∧
    isAsciiDigit head = false ∧ ∀ c ∈ head :: rest, isAlphanumeric c = true

theorem ne_underscore_of_isAlphanumeric {c : Char} (h : isAlphanumeric c = true) : c ≠ '_' := by
  rintro rfl
  exact absurd h (by decide)

theorem isMadeFrom_fallback {head : Char} {rest : List Char}
    (hnone : firstLetterOrNumber? raw = none) (hnumeric : isNumeric head = false)
    (hdigit : isAsciiDigit head = false) (hletters : ∀ c ∈ head :: rest, isAlphanumeric c = true) :
    IsMadeFrom raw head rest := by
  have hhead := hletters head (by simp)
  have hunmarked := ne_underscore_of_isAlphanumeric hhead
  constructor
  · exact fun c hc => hletters c (List.mem_cons_of_mem _ hc)
  · exact fun _ => hhead
  · exact hdigit
  · simp [hnone, hunmarked]
  · exact fun hmarked => absurd hmarked hunmarked
  · simp [hnone, hnumeric]

theorem isMadeFrom_marked {c : Char} {rest : List Char} (hfirst : firstLetterOrNumber? raw = some c)
    (hdigit : isAsciiDigit c = true) (hchars : ∀ d ∈ c :: rest, isAlphanumeric d = true) :
    IsMadeFrom raw '_' (c :: rest) := by
  constructor
  · exact hchars
  · exact fun hne => absurd rfl hne
  · decide
  · simp [hfirst, hdigit]
  · exact fun _ => hfirst.symm
  · have hunderscore : isNumeric '_' = false := by decide
    simp [hfirst, hdigit, hunderscore]

theorem isMadeFrom_unmarked {change : Char → Char} {c : Char} {rest : List Char}
    (hfirst : firstLetterOrNumber? raw = some c) (hdigit : isAsciiDigit c = false)
    (hchange : KeepsNumbers change) (hchars : ∀ d ∈ change c :: rest, isAlphanumeric d = true) :
    IsMadeFrom raw (change c) rest := by
  have hhead := hchars (change c) (by simp)
  have hunmarked := ne_underscore_of_isAlphanumeric hhead
  constructor
  · exact fun d hd => hchars d (List.mem_cons_of_mem _ hd)
  · exact fun _ => hhead
  · rw [hchange.digit, hdigit]
  · simp [hfirst, hdigit, hunmarked]
  · exact fun hmarked => absurd hmarked hunmarked
  · simp [hfirst, hdigit, hchange.numeric]

theorem isMadeFrom_cased (hsafe : IsNumberSafe fallback first) (raw : String) :
    ∃ head rest, (cased fallback first raw).toList = head :: rest ∧ IsMadeFrom raw head rest := by
  have hhead := head?_upperCamelChars raw.toList
  rw [funext isWordChar_eq] at hhead
  have hchars : ∀ c ∈ upperCamelChars raw.toList, isWordChar c = true :=
    isWordChar_of_mem_upperCamelChars
  cases hraw : upperCamelChars raw.toList with
  | nil =>
    obtain ⟨head, rest, hfallback, hnumeric, hdigit, hletters⟩ := hsafe.fallback_head
    rw [hraw, List.head?_nil, eq_comm, Option.map_eq_none_iff] at hhead
    exact ⟨head, rest, by rw [cased_of_nil hraw, hfallback],
      isMadeFrom_fallback hhead hnumeric hdigit hletters⟩
  | cons capital rest =>
    rw [hraw, List.head?_cons, eq_comm, Option.map_eq_some_iff] at hhead
    obtain ⟨c, hfirst, rfl⟩ := hhead
    have hchange : KeepsNumbers fun c => first (upperChar (foldChar c)) :=
      hsafe.keeps.comp (keepsNumbers_upperChar.comp keepsNumbers_foldChar)
    rw [hraw] at hchars
    have hname : ∀ d ∈ first (upperChar (foldChar c)) :: rest, isAlphanumeric d = true := by
      intro d hd
      rw [← isWordChar_eq]
      rcases List.mem_cons.mp hd with rfl | hd
      · exact hsafe.wordChar _ (hchars _ (by simp))
      · exact hchars d (List.mem_cons_of_mem _ hd)
    rw [toList_cased hraw, markDigit, hchange.digit c]
    cases hdigit : isAsciiDigit c with
    | false =>
      have hmade := isMadeFrom_unmarked hfirst hdigit hchange hname
      exact ⟨_, rest, rfl, hmade⟩
    | true =>
      rw [hchange.fixed hdigit] at hname ⊢
      exact ⟨'_', c :: rest, rfl, isMadeFrom_marked hfirst hdigit hname⟩

theorem isNumberSafe_type : IsNumberSafe fallbackTypeName id where
  wordChar _ h := h
  keeps := keepsNumbers_id
  fallback_head := ⟨'U', _, rfl, by decide, by decide, List.all_eq_true.mp (by decide)⟩

theorem isNumberSafe_method : IsNumberSafe fallbackMethodName lowerChar where
  wordChar _ h := isWordChar_lowerChar h
  keeps := keepsNumbers_lowerChar
  fallback_head := ⟨'u', _, rfl, by decide, by decide, List.all_eq_true.mp (by decide)⟩

/-- Both names are made of letters and numbers. They never begin with an ASCII digit: where a text
does, they carry an underscore. A number of another kind is not marked. -/
theorem names_madeFrom (raw : String) :
    (∃ head rest, (methodName raw).toList = head :: rest ∧ IsMadeFrom raw head rest) ∧
      ∃ head rest, (typeName raw).toList = head :: rest ∧ IsMadeFrom raw head rest := by
  rw [methodName_eq_cased, typeName_eq_cased]
  exact ⟨isMadeFrom_cased isNumberSafe_method raw, isMadeFrom_cased isNumberSafe_type raw⟩

theorem names_begin_numeric :
    (methodName "٣ items" = "٣Items" ∧ isNumeric '٣' = true) ∧
      (typeName "² items" = "²Items" ∧ isNumeric '²' = true) ∧
      typeName "ⅳ items" = "ⅣItems" ∧ isNumeric 'Ⅳ' = true := by
  decide +kernel

end TypedClient.Naming
