import TypedClient.Naming.Identifier
import TypedClient.Proofs.Text.Recasing

/-!
Names of names. The words of a name are found again by its capitals: a second pass leaves a name
alone where each of its capitals follows a small letter, and a third pass changes nothing any more.
-/

namespace TypedClient.Naming

open Text

variable {fallback raw : String} {first : Char → Char} {c : Char} {rest : List Char}

def cased (fallback : String) (first : Char → Char) (raw : String) : String :=
  finish fallback (String.ofList ((upperCamelChars raw.toList).modifyHead first))

theorem typeName_eq_cased (raw : String) : typeName raw = cased fallbackTypeName id raw := by
  rw [typeName, cased, upperCamelCase, List.modifyHead_id]
  rfl

theorem methodName_eq_cased (raw : String) :
    methodName raw = cased fallbackMethodName lowerChar raw := by
  rw [methodName, cased, lowerCamelCase]
  cases upperCamelChars raw.toList <;> rfl

/-- What the two casings have in common: a second pass finds the first character as it writes it. -/
structure IsCasing (fallback : String) (first : Char → Char) : Prop where
  wordChar (c : Char) : isWordChar c = true → isWordChar (first c) = true
  again (c : Char) : first (upperChar (foldChar (first (upperChar (foldChar c))))) =
    first (upperChar (foldChar c))
  fallback_clear : HasClearCapitals fallback.toList
  fallback_again : cased fallback first fallback = fallback

def markDigit : List Char → List Char
  | [] => []
  | c :: rest => if isAsciiDigit c then '_' :: c :: rest else c :: rest

theorem toList_finish (fallback : String) (c : Char) (rest : List Char) :
    (finish fallback (String.ofList (c :: rest))).toList = markDigit (c :: rest) := by
  simp only [finish, String.toList_ofList, markDigit]
  cases isAsciiDigit c with
  | false => simp
  | true =>
    simp only [if_true, String.toList_append, String.toList_ofList]
    rfl

theorem upperCamelChars_markDigit (text : List Char) :
    upperCamelChars (markDigit text) = upperCamelChars text := by
  cases text with
  | nil => rfl
  | cons c rest =>
    rw [markDigit]
    split
    · exact upperCamelChars_underscore (c :: rest)
    · rfl

theorem markDigit_cons_inj {rest' : List Char} :
    markDigit (c :: rest') = markDigit (c :: rest) ↔ rest' = rest := by
  cases h : isAsciiDigit c <;> simp [markDigit, h]

theorem not_isUpper_of_isAsciiDigit (h : isAsciiDigit c = true) : isUpper c = false := by
  simp only [isAsciiDigit, Bool.and_eq_true, decide_eq_true_eq, Char.le_def,
    UInt32.le_iff_toNat_le] at h
  have hmisses : misses Property.uppercaseRanges '0'.toNat '9'.toNat 1 = true := by
    decide +kernel
  exact not_inRanges_of_misses hmisses ⟨h.1, h.2, Nat.mod_one _⟩

theorem hasClearCapitals_markDigit :
    HasClearCapitals (markDigit (c :: rest)) ↔ HasClearCapitals (c :: rest) := by
  rw [markDigit]
  split
  next hdigit =>
    have hfold := foldChar_of_not_isUpper (not_isUpper_of_isAsciiDigit hdigit)
    rw [hasClearCapitals_cons_cons]
    exact and_iff_right (.inr hfold)
  next => rfl

theorem toList_cased (h : upperCamelChars raw.toList = c :: rest) :
    (cased fallback first raw).toList = markDigit (first c :: rest) := by
  rw [cased, h, List.modifyHead_cons, toList_finish]

theorem cased_of_nil (h : upperCamelChars raw.toList = []) :
    cased fallback first raw = fallback := by
  rw [cased, h]
  rfl

theorem toList_cased_cased (hcasing : IsCasing fallback first)
    (h : upperCamelChars raw.toList = c :: rest) :
    (cased fallback first (cased fallback first raw)).toList =
      markDigit (first c :: recasedAfter (first c) rest) := by
  have hchars : ∀ d ∈ upperCamelChars raw.toList, isWordChar d = true :=
    isWordChar_of_mem_upperCamelChars
  rw [h] at hchars
  obtain ⟨d, rfl⟩ := exists_of_upperCamelChars_cons h
  have hfirst := hcasing.wordChar _ (hchars (upperChar (foldChar d)) (by simp))
  have hrest : ∀ e ∈ rest, isWordChar e = true := fun e he => hchars e (List.mem_cons_of_mem _ he)
  have hname : (cased fallback first raw).toList =
      markDigit (first (upperChar (foldChar d)) :: rest) := toList_cased h
  have hagain := upperCamelChars_markDigit (first (upperChar (foldChar d)) :: rest)
  rw [← hname, upperCamelChars_cons hfirst hrest] at hagain
  rw [toList_cased hagain, hcasing.again]

theorem cased_cased_eq_iff (hcasing : IsCasing fallback first) (raw : String) :
    cased fallback first (cased fallback first raw) = cased fallback first raw ↔
      HasClearCapitals (cased fallback first raw).toList := by
  cases hraw : upperCamelChars raw.toList with
  | nil =>
    rw [cased_of_nil hraw]
    exact iff_of_true hcasing.fallback_again hcasing.fallback_clear
  | cons c rest =>
    have hcapitals : ∀ d ∈ rest, isUpper d = true → upperChar (foldChar d) = d := by
      intro d hd
      have hmem : d ∈ upperCamelChars raw.toList := hraw ▸ List.mem_cons_of_mem c hd
      exact upperChar_foldChar_of_mem hmem
    rw [← String.toList_inj, toList_cased_cased hcasing hraw, toList_cased hraw,
      markDigit_cons_inj, hasClearCapitals_markDigit, recasedAfter_eq_iff hcapitals]

theorem cased_cased_cased (hcasing : IsCasing fallback first) (raw : String) :
    cased fallback first (cased fallback first (cased fallback first raw)) =
      cased fallback first (cased fallback first raw) := by
  rw [cased_cased_eq_iff hcasing]
  cases hraw : upperCamelChars raw.toList with
  | nil =>
    rw [cased_of_nil hraw, hcasing.fallback_again]
    exact hcasing.fallback_clear
  | cons c rest =>
    rw [toList_cased_cased hcasing hraw, hasClearCapitals_markDigit]
    exact hasClearCapitals_recasedAfter (fun _ => rfl) rest

theorem isCasing_type : IsCasing fallbackTypeName id where
  wordChar _ h := h
  again := upperChar_foldChar_upperChar
  fallback_clear := by decide +kernel
  fallback_again := by decide +kernel

theorem isCasing_method : IsCasing fallbackMethodName lowerChar where
  wordChar _ h := isWordChar_lowerChar h
  again c := by rw [foldChar_lowerChar, lowerChar_upperChar_lowerChar]
  fallback_clear := by decide +kernel
  fallback_again := by decide +kernel

/-- The second pass changes a name exactly where a capital with a small form does not follow a
small letter, and what it makes is settled. -/
theorem recasing_settles (raw : String) :
    ((typeName (typeName raw) = typeName raw ↔ HasClearCapitals (typeName raw).toList) ∧
      typeName (typeName (typeName raw)) = typeName (typeName raw)) ∧
    ((methodName (methodName raw) = methodName raw ↔ HasClearCapitals (methodName raw).toList) ∧
      methodName (methodName (methodName raw)) = methodName (methodName raw)) := by
  simp only [typeName_eq_cased, methodName_eq_cased]
  exact ⟨⟨cased_cased_eq_iff isCasing_type raw, cased_cased_cased isCasing_type raw⟩,
    cased_cased_eq_iff isCasing_method raw, cased_cased_cased isCasing_method raw⟩

theorem recasing_joins_short_words :
    (methodName "list a pet" = "listAPet" ∧ methodName "listAPet" = "listApet") ∧
      typeName "v2_users" = "V2Users" ∧ typeName "V2Users" = "V2users" := by
  decide +kernel

end TypedClient.Naming
