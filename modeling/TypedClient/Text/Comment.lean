import TypedClient.Text.Words

/-!
Free text on its way into a block comment. It becomes one line without typographic marks, and
the sequence that would close the comment is taken apart.
-/

namespace TypedClient.Text

def plainMark (c : Char) : Char :=
  if c = '\u2018' ∨ c = '\u2019' then '\''
  else if c = '\u201c' ∨ c = '\u201d' then '"'
  else if c = '\u2014' then '-'
  else c

def separateCloser : List Char → List Char
  | '*' :: '/' :: rest => '*' :: ' ' :: '/' :: separateCloser rest
  | c :: rest => c :: separateCloser rest
  | [] => []

def singleSpaced (text : List Char) : List Char :=
  joinWith [' '] (partsBetween isSpace text)

def commentChars (text : List Char) : List Char :=
  separateCloser (singleSpaced (text.map plainMark))

def comment (text : String) : String :=
  String.ofList (commentChars text.toList)

def trimChars (text : List Char) : List Char :=
  ((text.dropWhile isSpace).reverse.dropWhile isSpace).reverse

def trim (text : String) : String :=
  String.ofList (trimChars text.toList)

def isBlank (text : String) : Bool :=
  text.toList.all isSpace

end TypedClient.Text
