import TypedClient.Json.Print
import TypedClient.Toml.Quoted

namespace TypedClient.Toml

def longestRun (c : Char) (current : Nat) : List Char → Nat
  | [] => current
  | d :: rest =>
    if d = c then longestRun c (current + 1) rest else max current (longestRun c 0 rest)

def needsEscape (c : Char) : Bool := !isTextChar c && c != '\n'

def escapeChar (multiline : Bool) (c : Char) : List Char :=
  if c = '\x08' then ['\\', 'b']
  else if c = '\t' then ['\\', 't']
  else if c = '\n' then if multiline then ['\n'] else ['\\', 'n']
  else if c = '\x0c' then ['\\', 'f']
  else if c = '\r' then ['\\', 'r']
  else if c = '\\' then ['\\', '\\']
  else if c.toNat < 0x20 ∨ c = '\x7f' then
    '\\' :: 'u' :: Decimal.hexDigits 'A' 4 c.toNat
  else [c]

def escape (multiline : Bool) (most run : Nat) : List Char → List Char
  | [] => []
  | c :: rest =>
    if c = '"' then
      if run < most then c :: escape multiline most (run + 1) rest
      else '\\' :: '"' :: escape multiline most 0 rest
    else escapeChar multiline c ++ escape multiline most 0 rest

def stringLiteral (value : String) : String :=
  let text := value.toList
  let hasControl := text.any needsEscape
  let hasBackslash := text.contains '\\'
  let hasNewline := text.contains '\n'
  let doubleQuotes := longestRun '"' 0 text
  let singleQuotes := longestRun '\'' 0 text
  let opening := if hasNewline then ['\n'] else []
  let tripleDouble := ['"', '"', '"']
  let tripleSingle := ['\'', '\'', '\'']
  let body :=
    if !hasControl && !hasBackslash && doubleQuotes == 0 && !hasNewline then
      '"' :: escape false 0 0 text ++ ['"']
    else if !hasControl && singleQuotes == 0 && !hasNewline then '\'' :: text ++ ['\'']
    else if !hasControl && !hasBackslash && doubleQuotes ≤ 2 then
      tripleDouble ++ opening ++ escape true 2 0 text ++ tripleDouble
    else if !hasControl && singleQuotes ≤ 2 then
      tripleSingle ++ opening ++ text ++ tripleSingle
    else if hasNewline then tripleDouble ++ opening ++ escape true 2 0 text ++ tripleDouble
    else '"' :: escape false 0 0 text ++ ['"']
  String.ofList body

def entryLine : String × Json → String
  | (key, .text value) => key ++ " = " ++ stringLiteral value ++ "\n"
  | (key, .bool value) => key ++ " = " ++ (if value then "true" else "false") ++ "\n"
  | _ => ""

def lines (entries : List (String × Json)) : String := String.join (entries.map entryLine)

end TypedClient.Toml
