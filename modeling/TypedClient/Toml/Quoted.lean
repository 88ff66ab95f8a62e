import TypedClient.Decimal.Digits

namespace TypedClient.Toml

def isWhite (c : Char) : Bool := c == ' ' || c == '\t'

def afterNewline? : List Char → Option (List Char)
  | '\n' :: rest => some rest
  | '\r' :: '\n' :: rest => some rest
  | _ => none

def isTextChar (c : Char) : Bool :=
  c == '\t' || (' ' ≤ c && c != '\x7f')

def escaped? : Char → Option Char
  | '"' => some '"'
  | '\\' => some '\\'
  | 'b' => some '\x08'
  | 't' => some '\t'
  | 'n' => some '\n'
  | 'f' => some '\x0c'
  | 'r' => some '\r'
  | _ => none

abbrev StringRead := Option (List Char × List Char)

def StringRead.prepend (c : Char) (read : StringRead) : StringRead :=
  read.map fun (text, rest) => (c :: text, rest)

def basic : List Char → StringRead
  | [] => none
  | '"' :: rest => some ([], rest)
  | '\\' :: 'u' :: a :: b :: c :: d :: rest => do
    StringRead.prepend (← Text.charOfHex? [a, b, c, d]) (basic rest)
  | '\\' :: 'U' :: a :: b :: c :: d :: e :: f :: g :: h :: rest => do
    StringRead.prepend (← Text.charOfHex? [a, b, c, d, e, f, g, h]) (basic rest)
  | '\\' :: e :: rest => do StringRead.prepend (← escaped? e) (basic rest)
  | c :: rest =>
    if isTextChar c && c != '\\' then StringRead.prepend c (basic rest) else none

def literal : List Char → StringRead
  | [] => none
  | c :: rest =>
    if c = '\'' then some ([], rest)
    else if isTextChar c then StringRead.prepend c (literal rest)
    else none

def hidesNewline (text : List Char) : Bool :=
  (afterNewline? (text.dropWhile isWhite)).isSome

/-- A string over several lines in double quotes. After a hidden line break white space is
`skipping`. Up to two quotes may stand before the closing ones. -/
def multilineBasic (skipping : Bool) : List Char → StringRead
  | [] => none
  | '"' :: '"' :: '"' :: '"' :: '"' :: rest => some (['"', '"'], rest)
  | '"' :: '"' :: '"' :: '"' :: rest => some (['"'], rest)
  | '"' :: '"' :: '"' :: rest => some ([], rest)
  | '\r' :: '\n' :: rest =>
    if skipping then multilineBasic true rest
    else StringRead.prepend '\n' (multilineBasic false rest)
  | '\\' :: 'u' :: a :: b :: c :: d :: rest => do
    StringRead.prepend (← Text.charOfHex? [a, b, c, d]) (multilineBasic false rest)
  | '\\' :: 'U' :: a :: b :: c :: d :: e :: f :: g :: h :: rest => do
    StringRead.prepend (← Text.charOfHex? [a, b, c, d, e, f, g, h]) (multilineBasic false rest)
  | '\\' :: e :: rest =>
    if hidesNewline (e :: rest) then multilineBasic true (e :: rest)
    else do StringRead.prepend (← escaped? e) (multilineBasic false rest)
  | c :: rest =>
    if skipping && (isWhite c || c == '\n') then multilineBasic true rest
    else if (isTextChar c || c == '\n') && c != '\\' then
      StringRead.prepend c (multilineBasic false rest)
    else none

def multilineLiteral : List Char → StringRead
  | [] => none
  | '\'' :: '\'' :: '\'' :: '\'' :: '\'' :: rest => some (['\'', '\''], rest)
  | '\'' :: '\'' :: '\'' :: '\'' :: rest => some (['\''], rest)
  | '\'' :: '\'' :: '\'' :: rest => some ([], rest)
  | '\r' :: '\n' :: rest => StringRead.prepend '\n' (multilineLiteral rest)
  | c :: rest =>
    if isTextChar c || c == '\n' then StringRead.prepend c (multilineLiteral rest) else none

def skipNewline (text : List Char) : List Char := (afterNewline? text).getD text

def string : List Char → StringRead
  | '"' :: '"' :: '"' :: rest => multilineBasic false (skipNewline rest)
  | '\'' :: '\'' :: '\'' :: rest => multilineLiteral (skipNewline rest)
  | '"' :: rest => basic rest
  | '\'' :: rest => literal rest
  | _ => none

end TypedClient.Toml
