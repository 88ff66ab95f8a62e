import TypedClient.Toml.Quoted
import TypedClient.Toml.Table
import TypedClient.Toml.Word

namespace TypedClient.Toml

def skipWhite (text : List Char) : List Char := text.dropWhile isWhite

def afterLine? (text : List Char) : Option (List Char) :=
  let text := skipWhite text
  let text := if text.head? = some '#' then text.dropWhile isTextChar else text
  match text with
  | [] => some []
  | text => afterNewline? text

def skipFiller (inComment : Bool) : List Char → List Char
  | [] => []
  | '\r' :: '\n' :: rest => skipFiller false rest
  | c :: rest =>
    if c = '\n' then skipFiller false rest
    else if inComment then if isTextChar c then skipFiller true rest else c :: rest
    else if isWhite c then skipFiller false rest
    else if c = '#' then skipFiller true rest
    else c :: rest

def isBareChar (c : Char) : Bool := c.isAlphanum || c == '_' || c == '-'

def keyPart (text : List Char) : Option (String × List Char) :=
  match text with
  | '"' :: rest => (basic rest).map fun (name, rest) => (String.ofList name, rest)
  | '\'' :: rest => (literal rest).map fun (name, rest) => (String.ofList name, rest)
  | text =>
    let (name, rest) := text.span isBareChar
    if name.isEmpty then none else some (String.ofList name, rest)

def maxDepth : Nat := 79

def dottedKey : Nat → List Char → Option (List String × List Char)
  | 0, _ => none
  | limit + 1, text => do
    let (part, rest) ← keyPart (skipWhite text)
    match skipWhite rest with
    | '.' :: rest => do
      let (parts, rest) ← dottedKey limit rest
      return (part :: parts, rest)
    | rest => return ([part], rest)

def key? (text : List Char) : Option (List String × String × List Char) := do
  let (parts, rest) ← dottedKey maxDepth text
  return (parts.dropLast, ← parts.getLast?, rest)

def wordValue (text : List Char) : Option (SettingValue × List Char) :=
  let (word, rest) := text.span isWordChar
  if word = "true".toList then some (.flag true, rest)
  else if word = "false".toList then some (.flag false, rest)
  else if isDate word then
    match rest with
    | ' ' :: more =>
      let (time, after) := more.span isWordChar
      if isTimeOfDate time then some (.other, after) else some (.other, rest)
    | rest => some (.other, rest)
  else if (integer? word).isSome || isFloat word || isMoment word then some (.other, rest)
  else none

mutual

/-- A value and the text after it; `depth` bounds the nesting, and the first number the calls, of
which each takes a character or is followed by one that does. -/
def value (depth : Nat) : Nat → List Char → Option (SettingValue × List Char)
  | 0, _ => none
  | limit + 1, text =>
    match depth, text with
    | depth + 1, '[' :: rest => (arrayItems depth limit rest).map (.other, ·)
    | depth + 1, '{' :: rest =>
      match skipWhite rest with
      | '}' :: rest => some (.other, rest)
      | rest => (inlineEntries depth limit .empty rest).map (.other, ·)
    | _, text =>
      match string text with
      | some (value, rest) => some (.text (String.ofList value), rest)
      | none => wordValue text

def arrayItems (depth : Nat) : Nat → List Char → Option (List Char)
  | 0, _ => none
  | limit + 1, text => do
    match skipFiller false text with
    | ']' :: rest => return rest
    | text => do
      let (_, rest) ← value depth limit text
      match skipFiller false rest with
      | ']' :: rest => return rest
      | ',' :: rest => arrayItems depth limit rest
      | _ => none

def inlineEntries (depth : Nat) : Nat → Item → List Char → Option (List Char)
  | 0, _, _ => none
  | limit + 1, table, text => do
    let (path, key, rest) ← key? text
    match rest with
    | '=' :: rest => do
      let (entry, rest) ← value depth limit (skipWhite rest)
      let table ← Item.addValue path key (.value entry) table
      match skipWhite rest with
      | '}' :: rest => return rest
      | ',' :: rest => inlineEntries depth limit table rest
      | _ => none
    | _ => none

end

structure Assembly where
  root : Item
  head : List String

def takeLine (assembly : Assembly) (text : List Char) : Option (Assembly × List Char) :=
  match text with
  | '[' :: '[' :: rest => do
    let (path, key, rest) ← key? rest
    match rest with
    | ']' :: ']' :: rest =>
      return (⟨← assembly.root.openElement path key, path ++ [key]⟩, ← afterLine? rest)
    | _ => none
  | '[' :: rest => do
    let (path, key, rest) ← key? rest
    match rest with
    | ']' :: rest => return (⟨← assembly.root.openTable path key, path ++ [key]⟩, ← afterLine? rest)
    | _ => none
  | text => do
    let (path, key, rest) ← key? text
    match rest with
    | '=' :: rest => do
      let (entry, after) ← value maxDepth (2 * rest.length + 2) (skipWhite rest)
      let root ← assembly.root.update false assembly.head (Item.addValue path key (.value entry))
      return ({ assembly with root }, ← afterLine? after)
    | _ => none

def takeLines : Nat → Assembly → List Char → Option Item
  | 0, _, _ => none
  | limit + 1, assembly, text =>
    match skipFiller false text with
    | [] => some assembly.root
    | text => do
      let (assembly, rest) ← takeLine assembly text
      takeLines limit assembly rest

def entries? (text : String) : Option (List (String × Item)) := do
  let text := text.toList
  let text := if text.head? = some '\ufeff' then text.drop 1 else text
  let root ← takeLines (text.length + 1) ⟨.empty, []⟩ text
  return root.entries

end TypedClient.Toml
