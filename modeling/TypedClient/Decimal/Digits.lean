namespace TypedClient.Decimal

def digitChar (d : Nat) : Char :=
  Char.ofNat ('0'.toNat + d)

def hexDigit (ten : Char) (d : Nat) : Char :=
  if d < 10 then digitChar d else Char.ofNat (ten.toNat + (d - 10))

def hexDigits (ten : Char) : Nat → Nat → List Char
  | 0, _ => []
  | width + 1, n => hexDigits ten width (n / 16) ++ [hexDigit ten (n % 16)]

def digitValue? (base : Nat) (c : Char) : Option Nat :=
  let value? :=
    if '0' ≤ c ∧ c ≤ '9' then some (c.toNat - '0'.toNat)
    else if 'a' ≤ c ∧ c ≤ 'f' then some (c.toNat - 'a'.toNat + 10)
    else if 'A' ≤ c ∧ c ≤ 'F' then some (c.toNat - 'A'.toNat + 10)
    else none
  value?.filter (· < base)

def ofDigits? (base : Nat) : List Char → Option Nat
  | [] => none
  | digits => digits.foldlM (fun n c => (digitValue? base c).map (n * base + ·)) 0

def isDigit (c : Char) : Bool :=
  '0' ≤ c && c ≤ '9'

def digits (n : Nat) : List Char :=
  if n < 10 then [digitChar n] else digits (n / 10) ++ [digitChar (n % 10)]
termination_by n

def signedDigits : Int → List Char
  | .ofNat n => digits n
  | .negSucc n => '-' :: digits (n + 1)

def wordCount (bits : Nat) : Nat := Nat.pow 2 bits

def fitsUnsigned (bits value : Nat) : Bool := value < wordCount bits

def fitsSigned (bits : Nat) (value : Int) : Bool :=
  -(wordCount (bits - 1) : Int) ≤ value && value < (wordCount (bits - 1) : Int)

end TypedClient.Decimal

namespace TypedClient.Text

def charOfCode? (code : Nat) : Option Char :=
  if code < 0xd800 ∨ (0xdfff < code ∧ code < 0x110000) then some (Char.ofNat code) else none

def charOfHex? (digits : List Char) : Option Char :=
  (Decimal.ofDigits? 16 digits).bind charOfCode?

end TypedClient.Text
