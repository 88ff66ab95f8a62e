import TypedClient.Decimal.Digits
import TypedClient.Yaml.Character

/-!
Scalars as they are written. Between the words of one blanks are kept, a single line break becomes
a space, and of several line breaks the first is dropped.
-/

namespace TypedClient.Yaml

/-- White space since the last word: blanks on one line, last first, or line breaks. The first
break is missing where it was escaped, and the further ones stand last first. -/
inductive Gap where
  | none
  | blanks (reversed : List Char)
  | lines (first : Option Char) (further : List Char)

namespace Gap

def hasBreak : Gap → Bool
  | .lines _ _ => true
  | _ => false

def isNone : Gap → Bool
  | .none => true
  | _ => false

def addBlank (c : Char) : Gap → Gap
  | .none => .blanks [c]
  | .blanks reversed => .blanks (c :: reversed)
  | gap => gap

def addBreak (c : Char) : Gap → Gap
  | .lines first further => .lines first (breakChar c :: further)
  | _ => .lines (some (breakChar c)) []

def reversedText : Gap → List Char
  | .none => []
  | .blanks reversed => reversed
  | .lines (some '\n') [] => [' ']
  | .lines (some '\n') further => further
  | .lines (some c) further => further ++ [c]
  | .lines .none further => further

end Gap

structure ScalarRead where
  text : List Char
  endsLine : Bool
  cursor : Cursor

def isFlowMark (c : Char) : Bool :=
  c == ',' || c == '[' || c == ']' || c == '{' || c == '}'

def endsPlain (inFlow : Bool) (c : Char) (rest : List Char) : Bool :=
  (c == ':' && atGap rest) || (inFlow && isFlowMark c)

def isStrayColon (inFlow : Bool) (c : Char) (rest : List Char) : Bool :=
  inFlow && c == ':' && match rest with
    | d :: _ => isFlowMark d || d == '?'
    | [] => false

def endsBeforeWord (inFlow : Bool) (indent : Int) (position : Position) (text : List Char) : Bool :=
  (!inFlow && position.column < indent) || atDocumentBoundary position text ||
    text.head? == some '#'

/-- A plain scalar; `seen` is its text so far, last first. None where a tab stands in the
indentation or a colon is out of place. -/
def plain (inFlow : Bool) (indent : Int) (seen : List Char) (gap : Gap) (position : Position) :
    List Char → Option ScalarRead
  | [] => some ⟨seen.reverse, gap.hasBreak, [], position⟩
  | '\r' :: '\n' :: rest =>
    plain inFlow indent seen (gap.addBreak '\n') (position.nextLine 2) rest
  | c :: rest =>
    if isBreak c then plain inFlow indent seen (gap.addBreak c) (position.nextLine 1) rest
    else if isBlank c then
      if gap.hasBreak && c == '\t' && position.column < indent then none
      else plain inFlow indent seen (gap.addBlank c) position.next rest
    else if !gap.isNone && endsBeforeWord inFlow indent position (c :: rest) then
      some ⟨seen.reverse, gap.hasBreak, c :: rest, position⟩
    else if isStrayColon inFlow c rest then none
    else if endsPlain inFlow c rest then
      some ⟨seen.reverse, gap.hasBreak, c :: rest, position⟩
    else plain inFlow indent (c :: (gap.reversedText ++ seen)) .none position.next rest

def singleQuoted (seen : List Char) (gap : Gap) (position : Position) :
    List Char → Option ScalarRead
  | [] => none
  | '\r' :: '\n' :: rest => singleQuoted seen (gap.addBreak '\n') (position.nextLine 2) rest
  | c :: rest =>
    if isBreak c then singleQuoted seen (gap.addBreak c) (position.nextLine 1) rest
    else if isBlank c then singleQuoted seen (gap.addBlank c) position.next rest
    else if atDocumentBoundary position (c :: rest) then none
    else
      let seen := gap.reversedText ++ seen
      if c = '\'' then
        match rest with
        | '\'' :: rest => singleQuoted ('\'' :: seen) .none (position.along 2) rest
        | _ => some ⟨seen.reverse, false, rest, position.next⟩
      else singleQuoted (c :: seen) .none position.next rest

def escaped? : Char → Option Char
  | '0' => some '\x00'
  | 'a' => some '\x07'
  | 'b' => some '\x08'
  | 't' => some '\t'
  | '\t' => some '\t'
  | 'n' => some '\n'
  | 'v' => some '\x0b'
  | 'f' => some '\x0c'
  | 'r' => some '\r'
  | 'e' => some '\x1b'
  | ' ' => some ' '
  | '"' => some '"'
  | '/' => some '/'
  | '\\' => some '\\'
  | 'N' => some '\u0085'
  | '_' => some '\u00a0'
  | 'L' => some '\u2028'
  | 'P' => some '\u2029'
  | _ => none

def doubleQuoted (seen : List Char) (gap : Gap) (position : Position) :
    List Char → Option ScalarRead
  | [] => none
  | '\r' :: '\n' :: rest => doubleQuoted seen (gap.addBreak '\n') (position.nextLine 2) rest
  | '\\' :: '\r' :: '\n' :: rest =>
    doubleQuoted (gap.reversedText ++ seen) (.lines .none []) (position.nextLine 3) rest
  | '\\' :: 'x' :: a :: b :: rest => do
    let c ← Text.charOfHex? [a, b]
    doubleQuoted (c :: (gap.reversedText ++ seen)) .none (position.along 4) rest
  | '\\' :: 'u' :: a :: b :: c :: d :: rest => do
    let c ← Text.charOfHex? [a, b, c, d]
    doubleQuoted (c :: (gap.reversedText ++ seen)) .none (position.along 6) rest
  | '\\' :: 'U' :: a :: b :: c :: d :: e :: f :: g :: h :: rest => do
    let c ← Text.charOfHex? [a, b, c, d, e, f, g, h]
    doubleQuoted (c :: (gap.reversedText ++ seen)) .none (position.along 10) rest
  | '\\' :: e :: rest =>
    if isBreak e then
      doubleQuoted (gap.reversedText ++ seen) (.lines .none []) (position.nextLine 2) rest
    else do
      let c ← escaped? e
      doubleQuoted (c :: (gap.reversedText ++ seen)) .none (position.along 2) rest
  | c :: rest =>
    if isBreak c then doubleQuoted seen (gap.addBreak c) (position.nextLine 1) rest
    else if isBlank c then doubleQuoted seen (gap.addBlank c) position.next rest
    else if atDocumentBoundary position (c :: rest) then none
    else if c = '\\' then none
    else
      let seen := gap.reversedText ++ seen
      if c = '"' then some ⟨seen.reverse, false, rest, position.next⟩
      else doubleQuoted (c :: seen) .none position.next rest

inductive Chomping where
  | strip
  | clip
  | keep

structure BlockHead where
  literal : Bool
  chomping : Chomping
  increment : Option Nat

/-- What has been read of a block: its text without the last line break and the empty lines after
it, and whether its last line begins with a blank. -/
structure BlockText where
  seen : List Char
  lastBreak : Option Char
  emptyLines : List Char
  startsBlank : Bool

namespace BlockText

def empty : BlockText := ⟨[], none, [], false⟩

/-- Begins a line. In a folded block a break between two lines that do not begin with a blank
becomes a space, or is dropped before empty lines. -/
def beginLine (literal startsBlank : Bool) (text : BlockText) : BlockText :=
  let folds := !literal && text.lastBreak == some '\n' && !text.startsBlank && !startsBlank
  let seen :=
    if folds then
      if text.emptyLines.isEmpty then ' ' :: text.seen else text.seen
    else text.lastBreak.toList ++ text.seen
  ⟨text.emptyLines ++ seen, none, [], startsBlank⟩

def finish (chomping : Chomping) (text : BlockText) : List Char :=
  (match chomping with
    | .strip => text.seen
    | .clip => text.lastBreak.toList ++ text.seen
    | .keep => text.emptyLines ++ text.lastBreak.toList ++ text.seen).reverse

end BlockText

/-- Where the reader of a block stands: in the indentation of a line, whose widest so far decides
while the indentation is not known, or inside a line. -/
inductive BlockPlace where
  | indentation (widest : Nat)
  | line

def settleIndent (least : Nat) (indent : Option Nat) (widest : Nat) : Nat :=
  indent.getD (max widest least)

def blockLines (head : BlockHead) (least : Nat) (indent : Option Nat) (place : BlockPlace)
    (text : BlockText) (position : Position) : List Char → Option ScalarRead
  | [] => some ⟨text.finish head.chomping, false, [], position⟩
  | '\r' :: '\n' :: rest =>
    match place with
    | .line =>
      blockLines head least indent (.indentation 0) { text with lastBreak := some '\n' }
        (position.nextLine 2) rest
    | .indentation _ =>
      blockLines head least indent place { text with emptyLines := '\n' :: text.emptyLines }
        (position.nextLine 2) rest
  | c :: rest =>
    match place with
    | .line =>
      if isBreak c then
        blockLines head least indent (.indentation 0)
          { text with lastBreak := some (breakChar c) } (position.nextLine 1) rest
      else
        blockLines head least indent .line { text with seen := c :: text.seen } position.next rest
    | .indentation widest =>
      let inside := indent.all (position.column < ·)
      if c = ' ' && inside then
        blockLines head least indent (.indentation (max widest (position.column + 1))) text
          position.next rest
      else if c = '\t' && inside then none
      else if isBreak c then
        blockLines head least indent place
          { text with emptyLines := breakChar c :: text.emptyLines } (position.nextLine 1) rest
      else
        let settled := settleIndent least indent widest
        if position.column = settled then
          let text := text.beginLine head.literal (isBlank c)
          blockLines head least (some settled) .line { text with seen := c :: text.seen }
            position.next rest
        else some ⟨text.finish head.chomping, false, c :: rest, position⟩

def chomping? : Char → Option Chomping
  | '-' => some .strip
  | '+' => some .keep
  | _ => none

def blockSigns (text : List Char) : Option (Chomping × Option Nat × List Char) :=
  let depth? : List Char → Option (Option Nat × List Char) := fun text =>
    match text with
    | '0' :: _ => none
    | c :: rest =>
      if Decimal.isDigit c then some (Decimal.ofDigits? 10 [c], rest) else some (none, text)
    | [] => some (none, text)
  let sign? : List Char → Option Chomping × List Char := fun text =>
    match text with
    | c :: rest => match chomping? c with
      | some chomping => (some chomping, rest)
      | none => (none, text)
    | [] => (none, text)
  match sign? text with
  | (some chomping, rest) => do
    let (depth, rest) ← depth? rest
    return (chomping, depth, rest)
  | (none, _) => do
    let (depth, rest) ← depth? text
    if depth.isSome then
      let (chomping, rest) := sign? rest
      return (chomping.getD .clip, depth, rest)
    else return (.clip, none, rest)

def block (literal : Bool) (parentIndent : Int) (cursor : Cursor) : Option ScalarRead := do
  let (chomping, increment, rest) ← blockSigns cursor.rest
  let cursor : Cursor :=
    ⟨rest, cursor.position.along (cursor.rest.length - rest.length)⟩
  let (_, cursor) := cursor.takeWhile isBlank
  let (_, cursor) :=
    if cursor.rest.head? = some '#' then cursor.takeWhile (!isBreak ·) else ([], cursor)
  guard (atLineEnd cursor.rest)
  let cursor := cursor.skipBreak
  let least := max 1 (parentIndent + 1).toNat
  let indent := increment.map fun n => parentIndent.toNat + n
  blockLines ⟨literal, chomping, increment⟩ least indent (.indentation 0) .empty cursor.position
    cursor.rest

end TypedClient.Yaml
