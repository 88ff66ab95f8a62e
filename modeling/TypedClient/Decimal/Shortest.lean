import TypedClient.Decimal.Digits

/-!
The fewest decimal digits that read back as a given double. All arithmetic is exact: a double is
a whole number times a power of two, the reals that round to it form an interval, and the first
decimal grid with a point in the interval gives the digits.
-/

namespace TypedClient.Decimal

/-- A positive double `significand * 2 ^ exponent`; below a power of two the next smaller double
is only half as far away. -/
structure Binary where
  significand : Nat
  exponent : Int
  atPowerOfTwo : Bool

def Binary.ofBits (bits : UInt64) : Binary :=
  let fraction := (bits &&& 0xfffffffffffff).toNat
  let biased := ((bits >>> 52) &&& 0x7ff).toNat
  if biased = 0 then ⟨fraction, -1074, false⟩
  else ⟨fraction + wordCount 52, (biased : Int) - 1075, fraction == 0 && biased > 1⟩

structure Scientific where
  digits : Nat
  exponent : Int

structure Ratio where
  num : Nat
  den : Nat

def Ratio.le (a b : Ratio) : Bool := a.num * b.den ≤ b.num * a.den

def Ratio.lt (a b : Ratio) : Bool := a.num * b.den < b.num * a.den

def Ratio.gap (a b : Ratio) : Ratio :=
  ⟨(a.num * b.den - b.num * a.den) + (b.num * a.den - a.num * b.den), a.den * b.den⟩

def Ratio.scaled (n base : Nat) (e : Int) : Ratio :=
  if 0 ≤ e then ⟨n * Nat.pow base e.toNat, 1⟩ else ⟨n, Nat.pow base (-e).toNat⟩

def Scientific.ratio (s : Scientific) : Ratio := Ratio.scaled s.digits 10 s.exponent

def zerosAfterPoint : Nat → Nat → Nat → Nat
  | 0, _, _ => 0
  | limit + 1, num, den =>
    if den ≤ num * 10 then 0 else zerosAfterPoint limit (num * 10) den + 1

def pointPlace (r : Ratio) : Int :=
  if r.den ≤ r.num then (digits (r.num / r.den)).length
  else -(zerosAfterPoint 400 r.num r.den : Int)

def Binary.rounds (b : Binary) (r : Ratio) : Bool :=
  let lower := Ratio.scaled (4 * b.significand - if b.atPowerOfTwo then 1 else 2) 2 (b.exponent - 2)
  let upper := Ratio.scaled (4 * b.significand + 2) 2 (b.exponent - 2)
  if b.significand % 2 = 0 then lower.le r && r.le upper else lower.lt r && r.lt upper

/-- The point of the grid with `count` digits that rounds to the double, the nearer of two. -/
def Binary.onGrid (b : Binary) (count : Nat) : Option Scientific :=
  let value := Ratio.scaled b.significand 2 b.exponent
  let exponent := pointPlace value - count
  let unit := Ratio.scaled 1 10 exponent
  let below : Scientific := ⟨(value.num * unit.den) / (value.den * unit.num), exponent⟩
  let above : Scientific := ⟨below.digits + 1, exponent⟩
  if b.rounds below.ratio then
    if b.rounds above.ratio && (above.ratio.gap value).lt (below.ratio.gap value) then some above
    else some below
  else if b.rounds above.ratio then some above
  else none

def Scientific.stripZeros : Nat → Scientific → Scientific
  | 0, s => s
  | limit + 1, s =>
    if s.digits ≠ 0 ∧ s.digits % 10 = 0 then stripZeros limit ⟨s.digits / 10, s.exponent + 1⟩ else s

/-- The fewest digits that read back as the double; seventeen always do. -/
def Binary.shortest (b : Binary) : Scientific :=
  (((List.range 17).findSome? fun i => b.onGrid (i + 1)).getD ⟨0, 0⟩).stripZeros 20

end TypedClient.Decimal
