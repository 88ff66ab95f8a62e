import Mathlib.Tactic.Tauto
import TypedClient.Naming.Identifier
import TypedClient.Proofs.Text.CamelCase

namespace TypedClient.Naming

open Text

def isNameChar (c : Char) : Bool := isWordChar c || c == '_' || c == '$'

structure IsName (name : String) : Prop where
  ne_nil : name.toList ≠ []
  chars : ∀ c ∈ name.toList, isNameChar c = true

theorem isNameChar_of_isWordChar {c : Char} (h : isWordChar c = true) : isNameChar c = true := by
  simp [isNameChar, h]

theorem isName_finish {fallback name : String} (hfallback : IsName fallback)
    (hname : ∀ c ∈ name.toList, isWordChar c = true) : IsName (finish fallback name) := by
  unfold finish
  split
  · exact hfallback
  next c rest hc =>
    have hchars : ∀ c ∈ name.toList, isNameChar c = true :=
      fun c hmem => isNameChar_of_isWordChar (hname c hmem)
    split
    · constructor
      · simp
      · intro d hd
        rw [String.toList_append, List.mem_append] at hd
        rcases hd with hd | hd
        · have he : d = '_' := by simpa using hd
          subst he
          rfl
        · exact hchars d hd
    · exact ⟨by simp [hc], hchars⟩

theorem isName_of_decide {name : String}
    (h : (!name.toList.isEmpty && name.toList.all isNameChar) = true) : IsName name := by
  rw [Bool.and_eq_true] at h
  exact ⟨by simpa using h.1, List.all_eq_true.mp h.2⟩

theorem IsName.append {front back : String} (hfront : IsName front) (hback : IsName back) :
    IsName (front ++ back) := by
  constructor
  · simp [hfront.ne_nil]
  · intro c hc
    rw [String.toList_append, List.mem_append] at hc
    rcases hc with hc | hc
    · exact hfront.chars c hc
    · exact hback.chars c hc

theorem isName_typeName (raw : String) : IsName (typeName raw) := by
  apply isName_finish (isName_of_decide (by decide))
  rw [upperCamelCase, String.toList_ofList]
  exact isWordChar_of_mem_upperCamelChars

theorem isName_methodName (raw : String) : IsName (methodName raw) := by
  apply isName_finish (isName_of_decide (by decide))
  rw [lowerCamelCase, String.toList_ofList]
  exact isWordChar_of_mem_decapitalize isWordChar_of_mem_upperCamelChars

theorem isName_operationName (id? summary? : Option String) :
    IsName (operationName id? summary?) := by
  unfold operationName
  split
  · exact isName_methodName _
  · exact isName_of_decide (by decide)

theorem isAlphabetic_of_isAsciiLetter {c : Char} (h : isAsciiLetter c = true) :
    isAlphabetic c = true := by
  simp only [isAsciiLetter, Bool.or_eq_true, Bool.and_eq_true, decide_eq_true_eq, Char.le_def,
    UInt32.le_iff_toNat_le] at h
  have hsmall : coversFrom Property.alphabeticRanges 'a'.toNat 'z'.toNat = true := by
    decide
  have hcapital : coversFrom Property.alphabeticRanges 'A'.toNat 'Z'.toNat = true := by
    decide
  rcases h with h | h
  · exact inRanges_of_coversFrom alphabeticRanges_ascend hsmall h.1 h.2
  · exact inRanges_of_coversFrom alphabeticRanges_ascend hcapital h.1 h.2

theorem isNumeric_of_isAsciiDigit {c : Char} (h : isAsciiDigit c = true) :
    isNumeric c = true := by
  simp only [isAsciiDigit, Bool.and_eq_true, decide_eq_true_eq, Char.le_def,
    UInt32.le_iff_toNat_le] at h
  have hranges : (Property.numericRanges.all fun range => range.1 ≤ range.2) = true := by
    decide
  have hdigits : coversFrom Property.numericRanges '0'.toNat '9'.toNat = true := by decide
  exact inRanges_of_coversFrom hranges hdigits h.1 h.2

theorem isNameChar_of_continuesIdentifier {c : Char} (h : continuesIdentifier c = true) :
    isNameChar c = true := by
  simp only [continuesIdentifier, isAsciiAlphanumeric, Bool.or_eq_true] at h
  rcases h with ((h | h) | h) | h
  · simp [isNameChar, isWordChar, isAlphanumeric, isAlphabetic_of_isAsciiLetter h]
  · simp [isNameChar, isWordChar, isAlphanumeric, isNumeric_of_isAsciiDigit h]
  · simp [isNameChar, h]
  · simp [isNameChar, h]

theorem isName_of_isIdentifier {name : String} (h : isIdentifier name = true) : IsName name := by
  unfold isIdentifier at h
  cases hchars : name.toList with
  | nil => simp [hchars, isIdentifierChars] at h
  | cons c rest =>
    rw [hchars, isIdentifierChars, Bool.and_eq_true] at h
    obtain ⟨hfirst, hrest⟩ := h
    have hc : continuesIdentifier c = true := by
      simp only [startsIdentifier, Bool.or_eq_true] at hfirst
      simp only [continuesIdentifier, isAsciiAlphanumeric, Bool.or_eq_true]
      tauto
    constructor
    · simp [hchars]
    · intro d hd
      rw [hchars] at hd
      rcases List.mem_cons.mp hd with rfl | hd
      · exact isNameChar_of_continuesIdentifier hc
      · exact isNameChar_of_continuesIdentifier (List.all_eq_true.mp hrest d hd)

theorem isName_registryBase (key : String) : IsName (registryBase key) := by
  unfold registryBase
  split
  next h =>
    rw [Bool.and_eq_true] at h
    exact isName_of_isIdentifier h.1
  next => exact isName_typeName key

theorem reservedTypeNames_small :
    (reservedTypeNames.all fun word =>
      !word.toList.isEmpty && word.toList.all isSmallAscii) = true := by
  decide

theorem isSmallAscii_of_mem_reserved {word : String} (h : word ∈ reservedTypeNames) :
    word.toList ≠ [] ∧ ∀ c ∈ word.toList, isSmallAscii c = true := by
  have hword := List.all_eq_true.mp reservedTypeNames_small word h
  rw [Bool.and_eq_true] at hword
  exact ⟨by simpa using hword.1, List.all_eq_true.mp hword.2⟩

theorem typeName_head {raw : String} {c : Char} {rest : List Char}
    (h : (typeName raw).toList = c :: rest) : isSmallAscii c = false := by
  unfold typeName finish at h
  split at h
  · have hc : fallbackTypeName.toList.head? = some c := by rw [h]; rfl
    have he : fallbackTypeName.toList.head? = some 'U' := by decide
    obtain rfl := Option.some.inj (hc.symm.trans he)
    decide
  next d name hname =>
    split at h
    · rw [String.toList_append] at h
      have hc : c = '_' := by
        have := congrArg List.head? h
        simpa using this.symm
      subst hc
      decide
    · rw [upperCamelCase, String.toList_ofList] at h
      exact upperCamelChars_head h

theorem exists_not_small_typeName (raw : String) :
    ∃ c ∈ (typeName raw).toList, isSmallAscii c = false := by
  cases hchars : (typeName raw).toList with
  | nil => exact absurd hchars (isName_typeName raw).ne_nil
  | cons c rest => exact ⟨c, by simp, typeName_head hchars⟩

theorem typeName_not_mem_reserved (raw : String) : typeName raw ∉ reservedTypeNames := by
  intro h
  obtain ⟨-, hsmall⟩ := isSmallAscii_of_mem_reserved h
  obtain ⟨c, hc, hlarge⟩ := exists_not_small_typeName raw
  rw [hsmall c hc] at hlarge
  cases hlarge

theorem registryBase_not_mem_reserved (key : String) : registryBase key ∉ reservedTypeNames := by
  unfold registryBase
  split
  next h =>
    rw [Bool.and_eq_true] at h
    simpa using h.2
  next => exact typeName_not_mem_reserved key

end TypedClient.Naming
