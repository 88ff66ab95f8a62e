import TypedClient.Decimal.Digits
import TypedClient.Text.Character
import TypedClient.Text.Split
import TypedClient.Url.Property
import TypedClient.Url.Punycode

namespace TypedClient.Url

open Decimal (ofDigits? isDigit)

def isHexDigit (c : Char) : Bool := (Decimal.digitValue? 16 c).isSome

def partValue? : List Char → Option Nat
  | ['0', 'x'] => some 0
  | '0' :: 'x' :: rest => ofDigits? 16 rest
  | ['0'] => some 0
  | '0' :: rest => ofDigits? 8 rest
  | text => ofDigits? 10 text

def nameParts (name : List Char) : List (List Char) :=
  let parts := Text.split '.' name
  if parts.length > 1 ∧ parts.getLast? = some [] then parts.dropLast else parts

def endsInNumber (name : List Char) : Bool :=
  match (nameParts name).getLast? with
  | some last => (!last.isEmpty && last.all isDigit) || (partValue? last).isSome
  | none => false

def isAddress4 (name : List Char) : Bool :=
  let parts := nameParts name
  parts.length ≤ 4 &&
    match parts.mapM partValue? with
    | some values =>
      let rest := Decimal.wordCount (8 * (5 - values.length))
      values.dropLast.all (· ≤ 255) && values.getLast?.any (· < rest)
    | none => false

def isByte (text : List Char) : Bool :=
  (text == ['0'] || text.head? != some '0') && (ofDigits? 10 text).any (· ≤ 255)

def isDottedQuad (text : List Char) : Bool :=
  let parts := Text.split '.' text
  parts.length == 4 && parts.all isByte

/-- Whether a text goes on with an address of the sixth version, of which `count` pieces are read;
`compressed` says that a stretch of zeros has been left out. -/
def isAddress6 : Nat → Nat → Bool → List Char → Bool
  | _, count, compressed, [] => compressed || count == 8
  | 0, _, _, _ => false
  | _, 8, _, _ => false
  | limit + 1, count, compressed, ':' :: rest =>
    !compressed && isAddress6 limit (count + 1) true rest
  | limit + 1, count, compressed, text =>
    let digits := (text.take 4).takeWhile isHexDigit
    match text.drop digits.length with
    | [] => isAddress6 limit (count + 1) compressed []
    | ':' :: rest => !rest.isEmpty && isAddress6 limit (count + 1) compressed rest
    | '.' :: _ =>
      !digits.isEmpty && count ≤ 6 && isDottedQuad text && (compressed || count == 6)
    | _ => false

def isBracketed (text : List Char) : Bool :=
  match text with
  | ':' :: ':' :: rest => isAddress6 text.length 1 true rest
  | ':' :: _ => false
  | _ => text.length ≥ 2 && isAddress6 text.length 0 false text

def percentDecode : List UInt8 → List UInt8
  | 37 :: a :: b :: rest =>
    match ofDigits? 16 [Char.ofNat a.toNat, Char.ofNat b.toNat] with
    | some value => value.toUInt8 :: percentDecode rest
    | none => 37 :: percentDecode (a :: b :: rest)
  | byte :: rest => byte :: percentDecode rest
  | [] => []

def unescape? (text : List Char) : Option (List Char) :=
  let bytes := percentDecode (String.ofList text).toUTF8.data.toList
  (String.fromUTF8? (ByteArray.mk bytes.toArray)).map String.toList

def nameChar (c : Char) : Char :=
  let n := c.toNat
  if n = 0x3002 ∨ n = 0xff61 then '.'
  else if 0xff01 ≤ n ∧ n ≤ 0xff5e then (Char.ofNat (n - 0xfee0)).toLower
  else c.toLower

def isNameChar (c : Char) : Bool :=
  if c.toNat < 0x80 then
    ' ' < c && c != '\x7f' && !("%#/:<>?@[\\]^|".contains c)
  else !Text.inRanges Property.disallowedRanges c.toNat

def isLabel : List Char → Bool
  | 'x' :: 'n' :: '-' :: '-' :: rest =>
    (Punycode.decode? rest).any fun label =>
      label.any (·.toNat ≥ 0x80) && label.all fun c => nameChar c == c && isNameChar c
  | _ => true

def isHost (text : List Char) : Bool :=
  match text with
  | '[' :: rest => rest.getLast? == some ']' && isBracketed rest.dropLast
  | text =>
    match unescape? text with
    | none => false
    | some name =>
      let name := (name.filter fun c => !Text.inRanges Property.ignoredRanges c.toNat).map nameChar
      !name.isEmpty && name.all isNameChar && (Text.split '.' name).all isLabel &&
        (!endsInNumber name || isAddress4 name)

end TypedClient.Url
