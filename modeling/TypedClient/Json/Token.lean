import TypedClient.Json.Basic
import TypedClient.Decimal.Numeral

namespace TypedClient.Json

open Decimal

inductive Token where
  | openObject
  | closeObject
  | openArray
  | closeArray
  | colon
  | comma
  | null
  | bool (value : Bool)
  | number (value : Number)
  | text (value : String)

inductive Piece where
  | char (value : Char)
  | unit (value : Nat)

def shortEscape? : Char → Option Char
  | '"' => some '"'
  | '\\' => some '\\'
  | '/' => some '/'
  | 'b' => some '\x08'
  | 'f' => some '\x0c'
  | 'n' => some '\n'
  | 'r' => some '\r'
  | 't' => some '\t'
  | _ => none

def pieces : List Char → Option (List Piece × List Char)
  | [] => none
  | '"' :: rest => some ([], rest)
  | '\\' :: 'u' :: a :: b :: c :: d :: rest => do
    let unit ← ofDigits? 16 [a, b, c, d]
    let (more, after) ← pieces rest
    return (.unit unit :: more, after)
  | '\\' :: e :: rest => do
    let value ← shortEscape? e
    let (more, after) ← pieces rest
    return (.char value :: more, after)
  | c :: rest =>
    if c.toNat < 0x20 ∨ c = '\\' then none
    else do
      let (more, after) ← pieces rest
      return (.char c :: more, after)

def isHighUnit (n : Nat) : Bool := 0xd800 ≤ n && n ≤ 0xdbff

def isLowUnit (n : Nat) : Bool := 0xdc00 ≤ n && n ≤ 0xdfff

/-- The characters of pieces; a high unit and the low unit after it make one character, and
neither may stand alone. -/
def joinPieces : List Piece → Option (List Char)
  | [] => some []
  | .char c :: rest => (joinPieces rest).map (c :: ·)
  | .unit high :: .unit low :: rest =>
    if isHighUnit high then
      if isLowUnit low then
        (joinPieces rest).map
          (Char.ofNat (0x10000 + (high - 0xd800) * 0x400 + (low - 0xdc00)) :: ·)
      else none
    else if isLowUnit high then none
    else (joinPieces (.unit low :: rest)).map (Char.ofNat high :: ·)
  | .unit n :: rest =>
    if isHighUnit n || isLowUnit n then none else (joinPieces rest).map (Char.ofNat n :: ·)

def isWholePart : List Char → Bool
  | [] => false
  | ['0'] => true
  | c :: _ => c != '0'

def scanNumber (input : List Char) : Option (Number × List Char) := do
  let (negative, input) :=
    match input with
    | '-' :: rest => (true, rest)
    | _ => (false, input)
  let (whole, input) := input.span isDigit
  guard (isWholePart whole)
  let (fraction?, input) :=
    match input with
    | '.' :: rest => let (digits, rest) := rest.span isDigit; (some digits, rest)
    | _ => (none, input)
  guard (fraction? != some [])
  let (exponent?, input) :=
    match input with
    | e :: rest =>
      if e = 'e' ∨ e = 'E' then
        let (exponentNegative, rest) :=
          match rest with
          | '+' :: rest => (false, rest)
          | '-' :: rest => (true, rest)
          | _ => (false, rest)
        let (digits, rest) := rest.span isDigit
        (some (exponentNegative, digits), rest)
      else (none, input)
    | [] => (none, input)
  guard (exponent?.map (·.2) != some [])
  let size := (ofDigits? 10 whole).getD 0
  let isWhole := fraction?.isNone && exponent?.isNone &&
    (if negative then size != 0 && fitsSigned 64 (-(size : Int)) else fitsUnsigned 64 size)
  if isWhole then
    return (.whole (if negative then -(size : Int) else size), input)
  else
    let (exponentNegative, exponent) := exponent?.getD (false, [])
    let value ← Numeral.onePass? ⟨negative, whole, fraction?.getD [], exponentNegative, exponent⟩
    return (.double value, input)

def scanToken : List Char → Option (Token × List Char)
  | '{' :: rest => some (.openObject, rest)
  | '}' :: rest => some (.closeObject, rest)
  | '[' :: rest => some (.openArray, rest)
  | ']' :: rest => some (.closeArray, rest)
  | ':' :: rest => some (.colon, rest)
  | ',' :: rest => some (.comma, rest)
  | 'n' :: 'u' :: 'l' :: 'l' :: rest => some (.null, rest)
  | 't' :: 'r' :: 'u' :: 'e' :: rest => some (.bool true, rest)
  | 'f' :: 'a' :: 'l' :: 's' :: 'e' :: rest => some (.bool false, rest)
  | '"' :: rest => do
    let (parts, after) ← pieces rest
    let value ← joinPieces parts
    return (.text (String.ofList value), after)
  | input => do
    let (value, after) ← scanNumber input
    return (.number value, after)

def isWhite (c : Char) : Bool := c == ' ' || c == '\t' || c == '\n' || c == '\r'

/-- The tokens of a text. Each takes at least one character, so the length of the text bounds
their number. -/
def scanTokens : Nat → List Char → Option (List Token)
  | _, [] => some []
  | 0, _ :: _ => none
  | limit + 1, c :: rest =>
    if isWhite c then scanTokens limit rest
    else do
      let (token, after) ← scanToken (c :: rest)
      return token :: (← scanTokens limit after)

def tokens (text : List Char) : Option (List Token) :=
  scanTokens text.length text

end TypedClient.Json
