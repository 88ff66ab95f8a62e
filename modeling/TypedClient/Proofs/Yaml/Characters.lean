import Mathlib.Data.Bool.AllAny
import Mathlib.Tactic.ByContra
import TypedClient.Config.Basic
import TypedClient.Yaml.Print

namespace TypedClient.Yaml

variable {c d : Char} {text rest consumed seen : List Char} {gap : Gap} {position : Position}

theorem isPrintable_eq_true_iff : isPrintable c = true ↔ c.toNat = 0xa ∨
    (0x20 ≤ c.toNat ∧ c.toNat ≤ 0x7e) ∨
      0xa0 ≤ c.toNat ∧ c.toNat ≠ 0xfeff ∧ c.toNat ≠ 0xfffe ∧ c.toNat ≠ 0xffff := by
  simp [isPrintable, or_assoc, and_assoc]

theorem isAllowed_of_isPrintable (h : isPrintable c = true) : isAllowed c = true := by
  rw [isPrintable_eq_true_iff] at h
  simp only [isAllowed, Bool.or_eq_true, Bool.and_eq_true, beq_iff_eq, decide_eq_true_eq]
  omega

theorem isAllowed_indentation (afterBreak : Bool) :
    ∀ c ∈ (if afterBreak then indentation else []), isAllowed c = true := by
  apply List.all_eq_true.mp
  cases afterBreak <;> decide

theorem ne_of_isPrintable (h : isPrintable c = true) (hd : isPrintable d = false) : c ≠ d := by
  rintro rfl
  exact Bool.false_ne_true (hd.symm.trans h)

theorem break_cases (h : isPrintable c = true) (hbreak : isBreak c = true) :
    c = '\n' ∨ c = '\u2028' ∨ c = '\u2029' := by
  have hreturn : c ≠ '\r' := ne_of_isPrintable h (by decide)
  have hnext : c ≠ '\u0085' := ne_of_isPrintable h (by decide)
  simpa [isBreak, hreturn, hnext, or_assoc] using hbreak

theorem breakChar_eq (h : isPrintable c = true) (hbreak : isBreak c = true) : breakChar c = c := by
  rcases break_cases h hbreak with rfl | rfl | rfl <;> rfl

theorem ne_return_of_isBreak (h : isBreak c = false) : c ≠ '\r' := by
  rintro rfl
  cases h

theorem isBlank_eq_false_iff : isBlank c = false ↔ c ≠ ' ' ∧ c ≠ '\t' := by
  simp [isBlank]

theorem isBlank_eq_false (h : isPrintable c = true) (hspace : c ≠ ' ') : isBlank c = false :=
  isBlank_eq_false_iff.mpr ⟨hspace, ne_of_isPrintable h (by decide)⟩

theorem eq_space_of_isBlank (h : isPrintable c = true) (hblank : isBlank c = true) : c = ' ' := by
  by_contra hspace
  exact Bool.false_ne_true ((isBlank_eq_false h hspace).symm.trans hblank)

def indicators : List Char := "-?:,[]\x7b\x7d#&*!|>'\"%@`".toList

theorem isIndicator_eq (c : Char) : Scanner.isIndicator c = decide (c ∈ indicators) :=
  String.contains_char_eq

theorem nameChar_facts : ∀ c ∈ Config.nameChars, isPrintable c = true ∧ isBreak c = false ∧
    isBlank c = false ∧ c ∉ indicators ∧ c ≠ '\ufeff' :=
  List.all_iff_forall_prop.mp (by decide)

def AtEntry (text : List Char) : Prop := ∀ c ∈ text.head?, c ∈ Config.nameChars

theorem hasPair_cons {related : Char → Char → Bool} (h : hasPair related (c :: text) = false) :
    (∀ d ∈ text.head?, related c d = false) ∧ hasPair related text = false := by
  cases text with
  | nil => exact ⟨nofun, rfl⟩
  | cons d text =>
    rw [hasPair, Bool.or_eq_false_iff] at h
    refine ⟨?_, h.2⟩
    intro d hd
    cases hd
    exact h.1

theorem needsEscapes_eq_false_iff : needsEscapes text = false ↔
    hasPair (fun c d => c == ' ' && isBreak d) text = false ∧ ∀ c ∈ text, isPrintable c = true := by
  simp [needsEscapes]

theorem atDocumentBoundary_eq_false (h : position.column ≠ 0) (text : List Char) :
    atDocumentBoundary position text = false := by
  simp [atDocumentBoundary, atDocumentMark, h]

theorem Gap.hasBreak_addBlank (h : gap.hasBreak = false) (c : Char) :
    (gap.addBlank c).hasBreak = false := by
  cases gap with
  | none => rfl
  | blanks => rfl
  | lines => cases h

theorem Gap.reversedText_addBlank (h : gap.hasBreak = false) (c : Char) :
    (gap.addBlank c).reversedText = c :: gap.reversedText := by
  cases gap with
  | none => rfl
  | blanks => rfl
  | lines => cases h

/-- The reader stands inside a line, after some text, which is given last character first. -/
structure Inside (consumed seen : List Char) (gap : Gap) (position : Position) : Prop where
  text : gap.reversedText ++ seen = consumed
  hasBreak : gap.hasBreak = false
  space : gap = .none ∨ consumed.head? = some ' '
  column : position.column ≠ 0

theorem Inside.start (h : position.column ≠ 0) : Inside [] [] .none position :=
  ⟨rfl, rfl, .inl rfl, h⟩

theorem Inside.blank (h : Inside consumed seen gap position) :
    Inside (' ' :: consumed) seen (gap.addBlank ' ') position.next where
  text := by rw [Gap.reversedText_addBlank h.hasBreak, List.cons_append, h.text]
  hasBreak := Gap.hasBreak_addBlank h.hasBreak ' '
  space := .inr rfl
  column := Nat.succ_ne_zero position.column

theorem Inside.along (h : Inside consumed seen gap position) (c : Char) (count : Nat) :
    Inside (c :: consumed) (c :: (gap.reversedText ++ seen)) .none (position.along count) where
  text := by rw [h.text]; rfl
  hasBreak := rfl
  space := .inl rfl
  column := fun he => h.column (Nat.eq_zero_of_add_eq_zero_right he)

end TypedClient.Yaml
