import TypedClient.Decimal.Numeral
import TypedClient.Text.Split

namespace TypedClient.Toml

open Decimal (Numeral isDigit)

def isWordChar (c : Char) : Bool :=
  c.isAlphanum || c == '+' || c == '-' || c == '.' || c == '_' || c == ':'

def joinDigits? (isDigit : Char → Bool) (word : List Char) : Option (List Char) :=
  let groups := Text.split '_' word
  if groups.all fun group => !group.isEmpty && group.all isDigit then some groups.flatten else none

def takeSign : List Char → Bool × List Char
  | '-' :: rest => (true, rest)
  | '+' :: rest => (false, rest)
  | word => (false, word)

def decimalDigits? (word : List Char) : Option (List Char) := do
  let digits ← joinDigits? isDigit word
  if digits.head? = some '0' ∧ word ≠ ['0'] then none else some digits

def markedNumber? (base : Nat) (word : List Char) : Option Nat := do
  let digits ← joinDigits? (fun c => (Decimal.digitValue? base c).isSome) word
  Decimal.ofDigits? base digits

def integer? (word : List Char) : Option Int :=
  let value? : Option Int :=
    match word with
    | '0' :: 'x' :: rest => (markedNumber? 16 rest).map Int.ofNat
    | '0' :: 'o' :: rest => (markedNumber? 8 rest).map Int.ofNat
    | '0' :: 'b' :: rest => (markedNumber? 2 rest).map Int.ofNat
    | word => do
      let (negative, digits) := takeSign word
      let size ← Decimal.ofDigits? 10 (← decimalDigits? digits)
      return if negative then -(size : Int) else size
  value?.filter (Decimal.fitsSigned 64)

def fraction? : List Char → Option (List Char)
  | [] => some []
  | '.' :: rest => joinDigits? isDigit rest
  | _ => none

def exponent? : List Char → Option (Bool × List Char)
  | [] => some (false, [])
  | _ :: rest => do
    let (negative, digits) := takeSign rest
    return (negative, ← joinDigits? isDigit digits)

def numeral? (word : List Char) : Option Numeral := do
  let (negative, word) := takeSign word
  let (mantissa, power) := word.span fun c => c != 'e' && c != 'E'
  let (whole, rest) := mantissa.span (· != '.')
  guard (!rest.isEmpty || !power.isEmpty)
  let (exponentNegative, exponent) ← exponent? power
  return ⟨negative, ← decimalDigits? whole, ← fraction? rest, exponentNegative, exponent⟩

def isFloat (word : List Char) : Bool :=
  let (_, unsigned) := takeSign word
  unsigned == "inf".toList || unsigned == "nan".toList ||
    (numeral? word).any fun numeral => numeral.negative || numeral.nearest?.isSome

def isField (width least greatest : Nat) (text : List Char) : Bool :=
  text.length == width &&
    (Decimal.ofDigits? 10 text).any fun value => least ≤ value && value ≤ greatest

def daysInMonth (year month : Nat) : Nat :=
  if month = 2 then
    if year % 4 = 0 ∧ (year % 100 ≠ 0 ∨ year % 400 = 0) then 29 else 28
  else if month = 4 ∨ month = 6 ∨ month = 9 ∨ month = 11 then 30
  else 31

def isDate (word : List Char) : Bool :=
  match Text.split '-' word with
  | [year, month, day] =>
    let number := fun digits => (Decimal.ofDigits? 10 digits).getD 0
    isField 4 0 9999 year && isField 2 1 12 month &&
      isField 2 1 (daysInMonth (number year) (number month)) day
  | _ => false

def isSeconds (text : List Char) : Bool :=
  match Text.split '.' text with
  | [whole] => isField 2 0 60 whole
  | [whole, fraction] => isField 2 0 60 whole && !fraction.isEmpty && fraction.all isDigit
  | _ => false

def isTime (word : List Char) : Bool :=
  match Text.split ':' word with
  | [hour, minute, second] => isField 2 0 23 hour && isField 2 0 59 minute && isSeconds second
  | _ => false

def isOffset (text : List Char) : Bool :=
  match text with
  | ['Z'] => true
  | ['z'] => true
  | sign :: rest =>
    (sign == '+' || sign == '-') &&
      match Text.split ':' rest with
      | [hour, minute] => isField 2 0 23 hour && isField 2 0 59 minute
      | _ => false
  | [] => false

def isTimeOfDate (word : List Char) : Bool :=
  let (time, offset) := word.span fun c => isDigit c || c == ':' || c == '.'
  isTime time && (offset.isEmpty || isOffset offset)

def isMoment (word : List Char) : Bool :=
  isDate word || isTime word ||
    (isDate (word.take 10) && match word.drop 10 with
      | mark :: time => (mark == 'T' || mark == 't') && isTimeOfDate time
      | [] => false)

end TypedClient.Toml
