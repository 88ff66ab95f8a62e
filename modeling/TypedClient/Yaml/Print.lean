import TypedClient.Yaml.Value
import TypedClient.Json.Print

/-!
Writing YAML mappings of scalars. A text with a line feed becomes a block of lines, one that would
be read as another kind of value is put in single quotes, and any other text is written plain
where it can be.
-/

namespace TypedClient.Yaml

def isPrintable (c : Char) : Bool :=
  let n := c.toNat
  n == 0xa || (0x20 ≤ n && n ≤ 0x7e) || (0xa0 ≤ n && n != 0xfeff && n != 0xfffe && n != 0xffff)

def beforeGap : List Char → Bool
  | [] => true
  | c :: _ => isBlank c || isBreak c || c == '\x00'

def isMark (isFirst afterGap : Bool) (c : Char) (rest : List Char) : Bool :=
  if isFirst then
    "#,[]\x7b\x7d&*!|>'\"%@`".contains c || ((c == '?' || c == ':' || c == '-') && beforeGap rest)
  else (c == ':' && beforeGap rest) || (c == '#' && afterGap)

def hasMark (isFirst afterGap : Bool) : List Char → Bool
  | [] => false
  | c :: rest => isMark isFirst afterGap c rest || hasMark false (beforeGap [c]) rest

def hasPair (related : Char → Char → Bool) : List Char → Bool
  | c :: d :: rest => related c d || hasPair related (d :: rest)
  | _ => false

def needsEscapes (text : List Char) : Bool :=
  hasPair (fun c d => c == ' ' && isBreak d) text || text.any fun c => !isPrintable c

def canBePlain (text : List Char) : Bool :=
  !(hasMark true true text || text.take 3 == ['-', '-', '-'] || text.take 3 == ['.', '.', '.'] ||
    text.head? == some ' ' || text.getLast? == some ' ' || text.any isBreak || needsEscapes text)

def canBeSingleQuoted (text : List Char) : Bool :=
  !(hasPair (fun c d => isBreak c && d == ' ') text || needsEscapes text)

def canBeBlock (text : List Char) : Bool :=
  !(text.getLast? == some ' ' || needsEscapes text)

def indentation : List Char := [' ', ' ']

def quoteSingle (afterBreak : Bool) : List Char → List Char
  | [] => if afterBreak then indentation else []
  | c :: rest =>
    if isBreak c then c :: quoteSingle true rest
    else
      (if afterBreak then indentation else []) ++
        (if c = '\'' then ['\'', '\''] else [c]) ++ quoteSingle false rest

def quoteDouble (c : Char) : List Char :=
  if c = '\x00' then ['\\', '0']
  else if c = '\x07' then ['\\', 'a']
  else if c = '\x08' then ['\\', 'b']
  else if c = '\t' then ['\\', 't']
  else if c = '\n' then ['\\', 'n']
  else if c = '\x0b' then ['\\', 'v']
  else if c = '\x0c' then ['\\', 'f']
  else if c = '\r' then ['\\', 'r']
  else if c = '\x1b' then ['\\', 'e']
  else if c = '"' then ['\\', '"']
  else if c = '\\' then ['\\', '\\']
  else if c = '\u0085' then ['\\', 'N']
  else if c = '\u2028' then ['\\', 'L']
  else if c = '\u2029' then ['\\', 'P']
  else if isPrintable c then [c]
  else if c.toNat ≤ 0xff then '\\' :: 'x' :: Decimal.hexDigits 'A' 2 c.toNat
  else if c.toNat ≤ 0xffff then '\\' :: 'u' :: Decimal.hexDigits 'A' 4 c.toNat
  else '\\' :: 'U' :: Decimal.hexDigits 'A' 8 c.toNat

def headSigns (text : List Char) : List Char :=
  let depth :=
    match text with
    | c :: _ => if c == ' ' || isBreak c then ['2'] else []
    | [] => []
  let chomping :=
    match text.reverse with
    | last :: before =>
      if !isBreak last then ['-']
      else match before with
        | c :: _ => if isBreak c then ['+'] else []
        | [] => ['+']
    | [] => ['-']
  depth ++ chomping

def blockBody (afterBreak : Bool) : List Char → List Char
  | [] => []
  | c :: rest =>
    if isBreak c then c :: blockBody true rest
    else (if afterBreak then indentation else []) ++ c :: blockBody false rest

def doubleQuotedText (text : List Char) : List Char := '"' :: text.flatMap quoteDouble ++ ['"']

def singleQuotedText (text : List Char) : List Char :=
  if canBeSingleQuoted text then '\'' :: quoteSingle false text ++ ['\''] else doubleQuotedText text

def isReadAsText (text : String) : Bool :=
  (integer? text.toList).isNone && !hasNeedlessZero text.toList &&
    match plainValue? text with
    | some (.text _) => true
    | _ => false

def writtenText (value : String) : List Char :=
  let text := value.toList
  if text.contains '\n' then
    if canBeBlock text then
      let body := blockBody true text
      ' ' :: '|' :: headSigns text ++ '\n' :: body ++
        (if (text.getLast?.any isBreak) then [] else ['\n'])
    else ' ' :: doubleQuotedText text ++ ['\n']
  else if isReadAsText value && canBePlain text then ' ' :: text ++ ['\n']
  else ' ' :: singleQuotedText text ++ ['\n']

def entryLine : String × Json → String
  | (key, .null) => key ++ ": null\n"
  | (key, .bool value) => key ++ ": " ++ (if value then "true" else "false") ++ "\n"
  | (key, .text value) => key ++ ":" ++ String.ofList (writtenText value)
  | _ => ""

def lines (entries : List (String × Json)) : String := String.join (entries.map entryLine)

end TypedClient.Yaml
