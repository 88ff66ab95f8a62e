import TypedClient.Text.Character

namespace TypedClient.Text

def escapeChar (c : Char) : List Char :=
  if c = '\\' then ['\\', '\\']
  else if c = '"' then ['\\', '"']
  else if c = '\n' then ['\\', 'n']
  else if c = '\r' then ['\\', 'r']
  else if c = '\u2028' then ['\\', 'u', '2', '0', '2', '8']
  else if c = '\u2029' then ['\\', 'u', '2', '0', '2', '9']
  else [c]

inductive IsEscape : Char → List Char → Prop where
  | backslash : IsEscape '\\' ['\\', '\\']
  | quote : IsEscape '"' ['\\', '"']
  | feed : IsEscape '\n' ['\\', 'n']
  | carriageReturn : IsEscape '\r' ['\\', 'r']
  | line : IsEscape '\u2028' ['\\', 'u', '2', '0', '2', '8']
  | paragraph : IsEscape '\u2029' ['\\', 'u', '2', '0', '2', '9']
  | plain {c : Char} (hescape : c ≠ '\\') (hquote : c ≠ '"') (hfeed : c ≠ '\n') (hreturn : c ≠ '\r')
      (hline : c ≠ '\u2028') (hparagraph : c ≠ '\u2029') : IsEscape c [c]

theorem isEscape_escapeChar (c : Char) : IsEscape c (escapeChar c) := by
  unfold escapeChar
  by_cases hescape : c = '\\'
  · rw [if_pos hescape, hescape]
    exact .backslash
  by_cases hquote : c = '"'
  · rw [if_neg hescape, if_pos hquote, hquote]
    exact .quote
  by_cases hfeed : c = '\n'
  · rw [if_neg hescape, if_neg hquote, if_pos hfeed, hfeed]
    exact .feed
  by_cases hreturn : c = '\r'
  · rw [if_neg hescape, if_neg hquote, if_neg hfeed, if_pos hreturn, hreturn]
    exact .carriageReturn
  by_cases hline : c = '\u2028'
  · rw [if_neg hescape, if_neg hquote, if_neg hfeed, if_neg hreturn, if_pos hline, hline]
    exact .line
  by_cases hparagraph : c = '\u2029'
  · rw [if_neg hescape, if_neg hquote, if_neg hfeed, if_neg hreturn, if_neg hline,
      if_pos hparagraph, hparagraph]
    exact .paragraph
  rw [if_neg hescape, if_neg hquote, if_neg hfeed, if_neg hreturn, if_neg hline,
    if_neg hparagraph]
  exact .plain hescape hquote hfeed hreturn hline hparagraph

def escapeChars (text : List Char) : List Char :=
  text.flatMap escapeChar

def escapeLiteral (text : String) : String :=
  String.ofList (escapeChars text.toList)

def startsIdentifier (c : Char) : Bool :=
  isAsciiLetter c || c == '_' || c == '$'

def continuesIdentifier (c : Char) : Bool :=
  isAsciiAlphanumeric c || c == '_' || c == '$'

def isIdentifierChars : List Char → Bool
  | [] => false
  | c :: rest => startsIdentifier c && rest.all continuesIdentifier

def isIdentifier (name : String) : Bool :=
  isIdentifierChars name.toList

def quoted (text : String) : String :=
  "\"" ++ escapeLiteral text ++ "\""

def propertyKey (name : String) : String :=
  if isIdentifier name then name else quoted name

end TypedClient.Text
