import TypedClient.Decimal.Digits

namespace TypedClient.Url.Punycode

def digitValue? (c : Char) : Option Nat :=
  if 'a' ≤ c ∧ c ≤ 'z' then some (c.toNat - 'a'.toNat)
  else if 'A' ≤ c ∧ c ≤ 'Z' then some (c.toNat - 'A'.toNat)
  else if '0' ≤ c ∧ c ≤ '9' then some (c.toNat - '0'.toNat + 26)
  else none

def threshold (place bias : Nat) : Nat :=
  if place ≤ bias then 1 else if bias + 26 ≤ place then 26 else place - bias

def biasFor : Nat → Nat → Nat
  | 0, _ => 0
  | limit + 1, delta =>
    if delta > 455 then 36 + biasFor limit (delta / 35) else 36 * delta / (delta + 38)

def adapt (delta length : Nat) (isFirst : Bool) : Nat :=
  let delta := if isFirst then delta / 700 else delta / 2
  biasFor 32 (delta + delta / length)

def number (bias place weight value : Nat) : List Char → Option (Nat × List Char)
  | [] => none
  | c :: rest => do
    let digit ← digitValue? c
    let value := value + digit * weight
    guard (Decimal.fitsUnsigned 32 value)
    let t := threshold place bias
    if digit < t then return (value, rest)
    else number bias (place + 36) (weight * (36 - t)) value rest

/-- Inserts characters at places, in the order in which numbers tell how far the next is from the
one before. Each number takes a character, so the length of the text bounds how many there are. -/
def insertions : Nat → Nat → Nat → Nat → List Nat → List Char → Option (List Nat)
  | _, _, _, _, codes, [] => some codes
  | 0, _, _, _, _, _ :: _ => none
  | limit + 1, code, index, bias, codes, c :: rest => do
    let (delta, after) ← number bias 36 1 0 (c :: rest)
    let length := codes.length + 1
    let code := code + (index + delta) / length
    guard (code < 0xd800 ∨ (0xdfff < code ∧ code < 0x110000))
    let place := (index + delta) % length
    insertions limit code (place + 1) (adapt delta length (index == 0)) (codes.insertIdx place code)
      after

def splitLast (text : List Char) : List Char × List Char :=
  let (after, before) := text.reverse.span (· != '-')
  (before.tail.reverse, after.reverse)

def decode? (text : List Char) : Option (List Char) := do
  let (basic, extended) := splitLast text
  let codes ← insertions extended.length 128 0 72 (basic.map Char.toNat) extended
  return codes.map Char.ofNat

end TypedClient.Url.Punycode
