import TypedClient.Decimal.Double

namespace TypedClient.Decimal

structure Numeral where
  negative : Bool
  whole : List Char
  fraction : List Char
  exponentNegative : Bool
  exponent : List Char

def Numeral.scale (numeral : Numeral) : Int :=
  let size := (ofDigits? 10 numeral.exponent).getD 0
  if numeral.exponentNegative then -(size : Int) else size

def signed (negative : Bool) (magnitude : Float) : Double :=
  Double.ofFloat (if negative then -magnitude else magnitude)

def Numeral.nearest? (numeral : Numeral) : Option Double :=
  let digits := (numeral.whole ++ numeral.fraction).dropWhile (· == '0')
  let significand := (ofDigits? 10 digits).getD 0
  let scale := numeral.scale - numeral.fraction.length
  let place := (digits.length : Int) + scale
  let magnitude? : Option Float :=
    if significand = 0 ∨ place < -400 then some 0.0
    else if 400 < place then none
    else
      let value :=
        if 0 ≤ scale then Float.ofScientific significand false scale.toNat
        else Float.ofScientific significand true (-scale).toNat
      if value.isFinite then some value else none
  magnitude?.map (signed numeral.negative)

def appendDigits (n : Nat) : List Char → Nat × List Char
  | [] => (n, [])
  | c :: rest =>
    let next := n * 10 + (c.toNat - '0'.toNat)
    if fitsUnsigned 64 next then appendDigits next rest else (n, c :: rest)

def scaleFloat : Nat → Float → Int → Option Float
  | 0, value, _ => some value
  | steps + 1, value, scale =>
    if scale.natAbs ≤ 308 then
      let power := Float.ofScientific 1 false scale.natAbs
      if 0 ≤ scale then
        let scaled := value * power
        if scaled.isFinite then some scaled else none
      else some (value / power)
    else if value == 0.0 then some value
    else if 0 ≤ scale then none
    else scaleFloat steps (value / Float.ofScientific 1 false 308) (scale + 308)

/-- The double of a numeral that is read in one pass: the leading digits that fit 64 bits, scaled
afterwards. The last place can differ from the nearest double. -/
def Numeral.onePass? (numeral : Numeral) : Option Double :=
  let (high, beyond) := appendDigits 0 numeral.whole
  let (significand, dropped) := appendDigits high numeral.fraction
  let taken := numeral.fraction.length - dropped.length
  let scale := (beyond.length : Int) - taken + numeral.scale
  let magnitude? : Option Float :=
    if wordCount 31 ≤ numeral.scale.natAbs then
      if significand ≠ 0 ∧ !numeral.exponentNegative then none else some 0.0
    else scaleFloat 8 significand.toUInt64.toFloat (if scale < -1500 then -1500 else scale)
  magnitude?.map (signed numeral.negative)

end TypedClient.Decimal
