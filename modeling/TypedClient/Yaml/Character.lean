import TypedClient.Decimal.Digits

namespace TypedClient.Yaml

def isBreak (c : Char) : Bool :=
  c == '\n' || c == '\r' || c == '\u0085' || c == '\u2028' || c == '\u2029'

def isBlank (c : Char) : Bool := c == ' ' || c == '\t'

def isWordChar (c : Char) : Bool :=
  c.isAlphanum || c == '_' || c == '-'

def atGap : List Char → Bool
  | [] => true
  | c :: _ => isBlank c || isBreak c

def atLineEnd : List Char → Bool
  | [] => true
  | c :: _ => isBreak c

def breakChar (c : Char) : Char :=
  if c == '\u2028' || c == '\u2029' then c else '\n'

def isAllowed (c : Char) : Bool :=
  let n := c.toNat
  n == 0x9 || n == 0xa || n == 0xd || (0x20 ≤ n && n ≤ 0x7e) || n == 0x85 ||
    (0xa0 ≤ n && n ≤ 0xfffd) || 0x10000 ≤ n

structure Position where
  line : Nat
  column : Nat
  offset : Nat

namespace Position

def start : Position := ⟨0, 0, 0⟩

def along (position : Position) (count : Nat) : Position :=
  { position with column := position.column + count, offset := position.offset + count }

def next (position : Position) : Position := position.along 1

def nextLine (position : Position) (width : Nat) : Position :=
  ⟨position.line + 1, 0, position.offset + width⟩

end Position

structure Cursor where
  rest : List Char
  position : Position

namespace Cursor

def drop (cursor : Cursor) (count : Nat) : Cursor :=
  ⟨cursor.rest.drop count, cursor.position.along count⟩

def takeWhile (cursor : Cursor) (p : Char → Bool) : List Char × Cursor :=
  let taken := cursor.rest.takeWhile p
  (taken, cursor.drop taken.length)

def skipBreak (cursor : Cursor) : Cursor :=
  match cursor.rest with
  | '\r' :: '\n' :: rest => ⟨rest, cursor.position.nextLine 2⟩
  | c :: rest => if isBreak c then ⟨rest, cursor.position.nextLine 1⟩ else cursor
  | [] => cursor

end Cursor

def atDocumentMark (position : Position) (mark : Char) (text : List Char) : Bool :=
  position.column == 0 && text.take 3 == [mark, mark, mark] && atGap (text.drop 3)

def atDocumentBoundary (position : Position) (text : List Char) : Bool :=
  atDocumentMark position '-' text || atDocumentMark position '.' text

end TypedClient.Yaml
