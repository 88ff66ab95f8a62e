import Mathlib.Algebra.Group.Nat.Defs
import TypedClient.Decimal.Digits

namespace TypedClient.Decimal

variable {ten : Char} {width n d : Nat}

theorem digitValue?_hexDigit (hten : ten = 'a' ∨ ten = 'A') (h : d < 16) :
    digitValue? 16 (hexDigit ten d) = some d := by
  have hsmall : ∀ d < 16, digitValue? 16 (hexDigit 'a' d) = some d := by decide
  have hcapital : ∀ d < 16, digitValue? 16 (hexDigit 'A' d) = some d := by decide
  rcases hten with rfl | rfl
  · exact hsmall d h
  · exact hcapital d h

theorem foldlM_hexDigits (hten : ten = 'a' ∨ ten = 'A') (width n before : Nat) :
    (hexDigits ten width n).foldlM (fun n c => (digitValue? 16 c).map (n * 16 + ·)) before =
      some (before * 16 ^ width + n % 16 ^ width) := by
  induction width generalizing n with
  | zero => simp [hexDigits, Nat.mod_one]
  | succ width ih =>
    have hlast := digitValue?_hexDigit hten (Nat.mod_lt n (by decide : 0 < 16))
    rw [hexDigits, List.foldlM_append, ih, Option.bind_eq_bind, Option.bind_some,
      List.foldlM_cons, hlast, Nat.pow_succ, Nat.mul_comm (16 ^ width) 16, Nat.mod_mul]
    show some ((before * 16 ^ width + n / 16 % 16 ^ width) * 16 + n % 16) = _
    rw [Nat.add_mul, Nat.mul_assoc, Nat.mul_comm (16 ^ width) 16, Option.some_inj]
    omega

theorem hexDigits_ne_nil (hwidth : 0 < width) : hexDigits ten width n ≠ [] := by
  cases width with
  | zero => cases hwidth
  | succ width => simp [hexDigits]

theorem ofDigits?_hexDigits (hten : ten = 'a' ∨ ten = 'A') (hwidth : 0 < width)
    (h : n < 16 ^ width) : ofDigits? 16 (hexDigits ten width n) = some n := by
  have hfold := foldlM_hexDigits hten width n 0
  rw [Nat.zero_mul, Nat.zero_add, Nat.mod_eq_of_lt h] at hfold
  rw [ofDigits?]
  · exact hfold
  · exact hexDigits_ne_nil hwidth

end TypedClient.Decimal

namespace TypedClient.Text

variable {ten : Char} {width : Nat}

theorem charOfCode?_toNat (c : Char) : charOfCode? c.toNat = some c := by
  rw [charOfCode?, if_pos, Char.ofNat_toNat]
  exact c.valid

theorem charOfHex?_hexDigits {c : Char} (hten : ten = 'a' ∨ ten = 'A') (hwidth : 0 < width)
    (h : c.toNat < 16 ^ width) : charOfHex? (Decimal.hexDigits ten width c.toNat) = some c := by
  rw [charOfHex?, Decimal.ofDigits?_hexDigits hten hwidth h, Option.bind_some, charOfCode?_toNat]

end TypedClient.Text
