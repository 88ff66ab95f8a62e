import TypedClient.Text.Property.Alphabetic
import TypedClient.Text.Property.Numeric
import TypedClient.Text.Property.Uppercase
import TypedClient.Text.Property.Lowercase
import TypedClient.Text.Property.Cased
import TypedClient.Text.Property.UpperMapping

namespace TypedClient.Text

/-- First and last code point of each run of white space, ascending. -/
def Property.whiteSpaceRanges : List (Nat × Nat) := [
    (0x9, 0xD), (0x20, 0x20), (0x85, 0x85), (0xA0, 0xA0), (0x1680, 0x1680), (0x2000, 0x200A),
    (0x2028, 0x2029), (0x202F, 0x202F), (0x205F, 0x205F), (0x3000, 0x3000)]

def inRanges : List (Nat × Nat) → Nat → Bool
  | [], _ => false
  | (first, last) :: rest, n =>
    if n < first then false else if n ≤ last then true else inRanges rest n

def mapInRuns : List (Nat × Nat × Nat × Nat) → Nat → Option Nat
  | [], _ => none
  | (first, last, step, image) :: rest, n =>
    if n < first then none
    else if n ≤ last ∧ (n - first) % step = 0 then some (image + (n - first))
    else mapInRuns rest n

def isAlphabetic (c : Char) : Bool :=
  inRanges Property.alphabeticRanges c.toNat

def isNumeric (c : Char) : Bool :=
  inRanges Property.numericRanges c.toNat

def isAlphanumeric (c : Char) : Bool :=
  isAlphabetic c || isNumeric c

def isUpper (c : Char) : Bool :=
  inRanges Property.uppercaseRanges c.toNat

def isLower (c : Char) : Bool :=
  inRanges Property.lowercaseRanges c.toNat

def isCased (c : Char) : Bool :=
  inRanges Property.casedRanges c.toNat

def isCaseIgnorable (c : Char) : Bool :=
  inRanges Property.caseIgnorableRanges c.toNat

def isSpace (c : Char) : Bool :=
  inRanges Property.whiteSpaceRanges c.toNat

def isAsciiDigit (c : Char) : Bool :=
  '0' ≤ c && c ≤ '9'

def isAsciiLetter (c : Char) : Bool :=
  ('a' ≤ c && c ≤ 'z') || ('A' ≤ c && c ≤ 'Z')

def isAsciiAlphanumeric (c : Char) : Bool :=
  isAsciiLetter c || isAsciiDigit c

/-- The upper-case form, where it is one character; a character whose form is longer stays. -/
def upperChar (c : Char) : Char :=
  ((mapInRuns Property.upperRuns c.toNat).map Char.ofNat).getD c

end TypedClient.Text
