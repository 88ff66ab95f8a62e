import TypedClient.Yaml.Scalar

/-!
Tokens of YAML text. Indentation shows as tokens that open and close blocks. A mapping key in
block style is known only when its colon is met, so the tokens that open it are put in front of
the key afterwards.
-/

namespace TypedClient.Yaml

inductive Token where
  | version (major minor : Nat)
  | tagHandle (handle uri : String)
  | documentStart
  | documentEnd
  | blockSequence
  | blockMapping
  | blockEnd
  | flowSequence
  | flowSequenceEnd
  | flowMapping
  | flowMappingEnd
  | blockEntry
  | flowEntry
  | key
  | value
  | alias (name : String)
  | anchor (name : String)
  | tag (handle suffix : String)
  | scalar (isPlain : Bool) (text : String)

/-- A place where a mapping key may have begun: the number of tokens before it, where it stands,
and whether nothing but a key can stand there. -/
structure KeyPlace where
  tokenCount : Nat
  position : Position
  required : Bool

/-- The state of the reader: tokens so far, last first, the indentation of open blocks, and for
each level of flow style the place where a key may have begun. -/
structure Scanner where
  cursor : Cursor
  reversed : List Token
  indent : Int
  outerIndents : List Int
  keyAllowed : Bool
  keyPlace : Option KeyPlace
  outerKeyPlaces : List (Option KeyPlace)

namespace Scanner

def start (text : List Char) : Scanner where
  cursor := ⟨text, .start⟩
  reversed := []
  indent := -1
  outerIndents := []
  keyAllowed := true
  keyPlace := none
  outerKeyPlaces := []

def inFlow (s : Scanner) : Bool := !s.outerKeyPlaces.isEmpty

def column (s : Scanner) : Nat := s.cursor.position.column

def push (s : Scanner) (token : Token) : Scanner := { s with reversed := token :: s.reversed }

def insertAt (s : Scanner) (count : Nat) (token : Token) : Scanner :=
  { s with reversed := s.reversed.insertIdx (s.reversed.length - count) token }

def openBlock (s : Scanner) (column : Nat) (count : Nat) (token : Token) : Scanner :=
  if !s.inFlow && s.indent < column then
    { s.insertAt count token with indent := column, outerIndents := s.indent :: s.outerIndents }
  else s

def closeBlocks (column : Int) (indent : Int) (reversed : List Token) :
    List Int → List Token × Int × List Int
  | [] => (reversed, indent, [])
  | outer :: rest =>
    if column < indent then closeBlocks column outer (.blockEnd :: reversed) rest
    else (reversed, indent, outer :: rest)

def unindent (s : Scanner) (column : Int) : Scanner :=
  if s.inFlow then s
  else
    let (reversed, indent, outerIndents) := closeBlocks column s.indent s.reversed s.outerIndents
    { s with reversed, indent, outerIndents }

def dropKeyPlace (s : Scanner) : Option Scanner :=
  match s.keyPlace with
  | some place => if place.required then none else some { s with keyPlace := none }
  | none => some s

def saveKeyPlace (s : Scanner) : Option Scanner :=
  if s.keyAllowed then do
    let s ← s.dropKeyPlace
    let required := !s.inFlow && s.indent == s.column
    return { s with keyPlace := some ⟨s.reversed.length, s.cursor.position, required⟩ }
  else some s

def longestKey : Nat := 1024

/-- The place of a key as it is at a later position: forgotten once it is too far away, and none
at all where a key had to be there. -/
def freshKeyPlace (position : Position) : Option KeyPlace → Option (Option KeyPlace)
  | some place =>
    if place.position.line < position.line ∨
        place.position.offset + longestKey < position.offset then
      if place.required then none else some none
    else some (some place)
  | none => some none

def dropStaleKeys (s : Scanner) : Option Scanner := do
  let keyPlace ← freshKeyPlace s.cursor.position s.keyPlace
  let outerKeyPlaces ← s.outerKeyPlaces.mapM (freshKeyPlace s.cursor.position)
  return { s with keyPlace, outerKeyPlaces }

/-- Skips white space and comments. A mark of byte order at the start of a line is white space that
takes a column, a tab counts as white space where no key can begin, and a new line in block style
is a place for a key. -/
def skipFiller (inFlow inComment keyAllowed : Bool) (position : Position) :
    List Char → Cursor × Bool
  | [] => (⟨[], position⟩, keyAllowed)
  | '\r' :: '\n' :: rest =>
    skipFiller inFlow false (keyAllowed || !inFlow) (position.nextLine 2) rest
  | c :: rest =>
    if isBreak c then skipFiller inFlow false (keyAllowed || !inFlow) (position.nextLine 1) rest
    else if inComment || c == ' ' || (c == '\t' && (inFlow || !keyAllowed)) ||
        (c == '\ufeff' && position.column == 0) then
      skipFiller inFlow inComment keyAllowed position.next rest
    else if c == '#' then skipFiller inFlow true keyAllowed position.next rest
    else (⟨c :: rest, position⟩, keyAllowed)

def toNextToken (s : Scanner) : Scanner :=
  let (cursor, keyAllowed) :=
    skipFiller s.inFlow false s.keyAllowed s.cursor.position s.cursor.rest
  { s with cursor, keyAllowed }

def takeMark (s : Scanner) (width : Nat) (token : Token) : Scanner :=
  { s.push token with cursor := s.cursor.drop width }

def toMargin (s : Scanner) : Option Scanner := do
  let s ← (s.unindent (-1)).dropKeyPlace
  return { s with keyAllowed := false }

def isUriChar (inBrackets : Bool) (c : Char) : Bool :=
  isWordChar c || ";/?:@&=+$.%!~*'()".contains c ||
    (inBrackets && (c == ',' || c == '[' || c == ']'))

def percentBytes : List Char → Option (List UInt8)
  | '%' :: a :: b :: rest => do
    let byte ← Decimal.ofDigits? 16 [a, b]
    return byte.toUInt8 :: (← percentBytes rest)
  | _ => some []

def byteWidth? (byte : UInt8) : Option Nat :=
  if byte < 0x80 then some 1
  else if byte &&& 0xe0 == 0xc0 then some 2
  else if byte &&& 0xf0 == 0xe0 then some 3
  else if byte &&& 0xf8 == 0xf0 then some 4
  else none

def unescapeUri : Nat → List Char → Option (List Char)
  | _, [] => some []
  | 0, _ => none
  | limit + 1, '%' :: rest => do
    let bytes ← percentBytes ('%' :: rest)
    let width ← bytes.head?.bind byteWidth?
    guard (width ≤ bytes.length)
    let text ← String.fromUTF8? (ByteArray.mk (bytes.take width).toArray)
    return text.toList ++ (← unescapeUri limit (('%' :: rest).drop (3 * width)))
  | limit + 1, c :: rest => do return c :: (← unescapeUri limit rest)

def takeUri (inBrackets : Bool) (cursor : Cursor) : Option (List Char × Cursor) := do
  let (raw, cursor) := cursor.takeWhile (isUriChar inBrackets)
  return (← unescapeUri raw.length raw, cursor)

def takeHandle (cursor : Cursor) : Option (List Char × Cursor) :=
  match cursor.rest with
  | '!' :: _ =>
    let (name, cursor) := (cursor.drop 1).takeWhile isWordChar
    match cursor.rest with
    | '!' :: _ => some ('!' :: name ++ ['!'], cursor.drop 1)
    | _ => some ('!' :: name, cursor)
  | _ => none

def takeTag (inFlow : Bool) (cursor : Cursor) : Option (Token × Cursor) := do
  let (handle, suffix, cursor) ←
    match cursor.rest with
    | '!' :: '<' :: _ => do
      let (uri, cursor) ← takeUri true (cursor.drop 2)
      guard (!uri.isEmpty && cursor.rest.head? == some '>')
      pure ([], uri, cursor.drop 1)
    | _ => do
      let (handle, cursor) ← takeHandle cursor
      if handle.length ≥ 2 && handle.getLast? == some '!' then
        let (uri, cursor) ← takeUri false cursor
        guard !uri.isEmpty
        pure (handle, uri, cursor)
      else
        let (uri, cursor) ← takeUri false cursor
        let suffix := handle.drop 1 ++ uri
        pure (if suffix.isEmpty then ([], ['!'], cursor) else (['!'], suffix, cursor))
  guard (atGap cursor.rest || (inFlow && cursor.rest.head? == some ','))
  return (.tag (String.ofList handle) (String.ofList suffix), cursor)

def takeName (cursor : Cursor) : Option (String × Cursor) := do
  let (name, cursor) := (cursor.drop 1).takeWhile isWordChar
  guard (!name.isEmpty)
  guard (atGap cursor.rest || cursor.rest.head?.any fun c => "?:,]\x7d%@`".contains c)
  return (String.ofList name, cursor)

def takeVersion (cursor : Cursor) : Option (Token × Cursor) := do
  let (_, cursor) := cursor.takeWhile isBlank
  let (major, cursor) := cursor.takeWhile Decimal.isDigit
  guard (cursor.rest.head? == some '.' && major.length ≤ 9)
  let (minor, cursor) := (cursor.drop 1).takeWhile Decimal.isDigit
  guard (minor.length ≤ 9)
  return (.version (← Decimal.ofDigits? 10 major) (← Decimal.ofDigits? 10 minor), cursor)

def takeTagHandle (cursor : Cursor) : Option (Token × Cursor) := do
  let (_, cursor) := cursor.takeWhile isBlank
  let (handle, cursor) ← takeHandle cursor
  guard (handle.getLast? == some '!')
  guard (cursor.rest.head?.any isBlank)
  let (_, cursor) := cursor.takeWhile isBlank
  let (uri, cursor) ← takeUri true cursor
  guard (!uri.isEmpty && atGap cursor.rest)
  return (.tagHandle (String.ofList handle) (String.ofList uri), cursor)

def takeDirective (cursor : Cursor) : Option (Token × Cursor) := do
  let (name, cursor) := (cursor.drop 1).takeWhile isWordChar
  guard (atGap cursor.rest)
  let (token, cursor) ←
    match String.ofList name with
    | "YAML" => takeVersion cursor
    | "TAG" => takeTagHandle cursor
    | _ => none
  let (_, cursor) := cursor.takeWhile isBlank
  let (_, cursor) :=
    if cursor.rest.head? = some '#' then cursor.takeWhile (!isBreak ·) else ([], cursor)
  guard (atLineEnd cursor.rest)
  return (token, cursor.skipBreak)

def openFlow (s : Scanner) (token : Token) : Option Scanner := do
  let s ← s.saveKeyPlace
  let s := { s with outerKeyPlaces := s.keyPlace :: s.outerKeyPlaces, keyPlace := none }
  return { s.takeMark 1 token with keyAllowed := true }

def closeFlow (s : Scanner) (token : Token) : Option Scanner := do
  let s ← s.dropKeyPlace
  let s :=
    match s.outerKeyPlaces with
    | place :: outer => { s with keyPlace := place, outerKeyPlaces := outer }
    | [] => s
  return { s.takeMark 1 token with keyAllowed := false }

def openAtMark (s : Scanner) (token : Token) : Option Scanner :=
  if s.inFlow then some s
  else do
    guard s.keyAllowed
    return s.openBlock s.column s.reversed.length token

def takeDash (s : Scanner) : Option Scanner := do
  let s ← (← s.openAtMark .blockSequence).dropKeyPlace
  return { s.takeMark 1 .blockEntry with keyAllowed := true }

def takeQuestionMark (s : Scanner) : Option Scanner := do
  let s ← (← s.openAtMark .blockMapping).dropKeyPlace
  return { s.takeMark 1 .key with keyAllowed := !s.inFlow }

/-- Takes a colon. A key that may have begun has, and its tokens are put in front of it. -/
def takeColon (s : Scanner) : Option Scanner :=
  match s.keyPlace with
  | some place =>
    let s := (s.insertAt place.tokenCount .key).openBlock place.position.column place.tokenCount
      .blockMapping
    some { s.takeMark 1 .value with keyPlace := none, keyAllowed := false }
  | none => do
    let s ← s.openAtMark .blockMapping
    return { s.takeMark 1 .value with keyAllowed := !s.inFlow }

def takeProperty (s : Scanner) (token : Token) (cursor : Cursor) : Option Scanner := do
  let s ← s.saveKeyPlace
  return { s.push token with cursor, keyAllowed := false }

def takeScalar (s : Scanner) (isPlain : Bool) (read : Option ScalarRead) : Option Scanner := do
  let s ← s.saveKeyPlace
  let read ← read
  return { s.push (.scalar isPlain (String.ofList read.text)) with
    cursor := read.cursor, keyAllowed := read.endsLine }

def takeBlockScalar (s : Scanner) (literal : Bool) : Option Scanner := do
  let s ← s.dropKeyPlace
  let read ← block literal s.indent (s.cursor.drop 1)
  return { s.push (.scalar false (String.ofList read.text)) with
    cursor := read.cursor, keyAllowed := true }

def isIndicator (c : Char) : Bool :=
  "-?:,[]\x7b\x7d#&*!|>'\"%@`".contains c

def startsPlain (inFlow : Bool) (c : Char) (rest : List Char) : Bool :=
  !(isIndicator c || isBlank c || isBreak c) ||
    (c == '-' && !rest.head?.any isBlank) ||
    (!inFlow && (c == '?' || c == ':') && !atGap rest)

def takeToken (s : Scanner) (c : Char) (rest : List Char) : Option Scanner :=
  let position := s.cursor.position
  if position.column = 0 ∧ c = '%' then do
    let s ← s.toMargin
    let (token, cursor) ← takeDirective s.cursor
    return { s.push token with cursor }
  else if atDocumentMark position '-' (c :: rest) then
    (s.toMargin).map (·.takeMark 3 .documentStart)
  else if atDocumentMark position '.' (c :: rest) then
    (s.toMargin).map (·.takeMark 3 .documentEnd)
  else if c = '[' then s.openFlow .flowSequence
  else if c = '{' then s.openFlow .flowMapping
  else if c = ']' then s.closeFlow .flowSequenceEnd
  else if c = '}' then s.closeFlow .flowMappingEnd
  else if c = ',' then
    (s.dropKeyPlace).map fun s => { s.takeMark 1 .flowEntry with keyAllowed := true }
  else if c = '-' ∧ atGap rest then s.takeDash
  else if c = '?' ∧ (s.inFlow ∨ atGap rest) then s.takeQuestionMark
  else if c = ':' ∧ (s.inFlow ∨ atGap rest) then s.takeColon
  else if c = '*' then do
    let (name, cursor) ← takeName s.cursor
    s.takeProperty (.alias name) cursor
  else if c = '&' then do
    let (name, cursor) ← takeName s.cursor
    s.takeProperty (.anchor name) cursor
  else if c = '!' then do
    let (token, cursor) ← takeTag s.inFlow s.cursor
    s.takeProperty token cursor
  else if c = '|' ∧ !s.inFlow then s.takeBlockScalar true
  else if c = '>' ∧ !s.inFlow then s.takeBlockScalar false
  else if c = '\'' then s.takeScalar false (singleQuoted [] .none position.next rest)
  else if c = '"' then s.takeScalar false (doubleQuoted [] .none position.next rest)
  else if startsPlain s.inFlow c rest then
    s.takeScalar true (plain s.inFlow (s.indent + 1) [] .none position (c :: rest))
  else none

def run : Nat → Scanner → Option (List Token)
  | 0, _ => none
  | limit + 1, s => do
    let s ← s.toNextToken.dropStaleKeys
    let s := s.unindent s.column
    match s.cursor.rest with
    | [] =>
      let s ← (s.unindent (-1)).dropKeyPlace
      return s.reversed.reverse
    | c :: rest => run limit (← s.takeToken c rest)

end Scanner

def tokens (text : List Char) : Option (List Token) := do
  guard (text.all isAllowed)
  Scanner.run (text.length + 1) (.start text)

end TypedClient.Yaml
