import TypedClient.Decimal.Shortest

/-!
Doubles and their texts. A double is held by its bits, so that equality of values is equality of
data.
-/

namespace TypedClient.Decimal

structure Double where
  bits : UInt64
  deriving DecidableEq, Repr

namespace Double

def ofFloat (value : Float) : Double := ⟨value.toBits⟩

def isNegative (d : Double) : Bool := d.bits >>> 63 == 1

def isZero (d : Double) : Bool := d.bits <<< 1 == 0

def positional (digits : List Char) (place : Int) : List Char × List Char :=
  if place ≤ 0 then (['0'], List.replicate (-place).toNat '0' ++ digits)
  else
    let place := place.toNat
    (digits.take place ++ List.replicate (place - digits.length) '0', digits.drop place)

/-- The text in data formats: a point or an exponent always shows that the value is a double, and
the exponent is written from seventeen digits before the point and five zeros after it on. -/
def dataText (d : Double) : String :=
  let sign := if d.isNegative then ['-'] else []
  if d.isZero then String.ofList (sign ++ ['0', '.', '0'])
  else
    let shortest := (Binary.ofBits d.bits).shortest
    let digits := digits shortest.digits
    let place := (digits.length : Int) + shortest.exponent
    let body :=
      if -5 < place ∧ place ≤ 16 then
        let (whole, fraction) := positional digits place
        whole ++ '.' :: (if fraction.isEmpty then ['0'] else fraction)
      else
        let fraction := digits.drop 1
        digits.take 1 ++ (if fraction.isEmpty then [] else '.' :: fraction) ++
          'e' :: signedDigits (place - 1)
    String.ofList (sign ++ body)

def plainText (d : Double) : String :=
  let sign := if d.isNegative then ['-'] else []
  if d.isZero then String.ofList (sign ++ ['0'])
  else
    let shortest := (Binary.ofBits d.bits).shortest
    let digits := digits shortest.digits
    let (whole, fraction) := positional digits ((digits.length : Int) + shortest.exponent)
    String.ofList (sign ++ whole ++ if fraction.isEmpty then [] else '.' :: fraction)

end Double

end TypedClient.Decimal
