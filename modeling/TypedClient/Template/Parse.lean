import TypedClient.Template.Basic
import TypedClient.Text.Comment
import TypedClient.Text.Split

/-!
Reading templates. Tags in double braces print a value, tags with percent signs open and close
loops and conditions, and a minus sign at either end of a tag removes the white space beside it.
-/

namespace TypedClient.Template

inductive TagKind where
  | value
  | statement
  | comment
  deriving DecidableEq

def TagKind.mark : TagKind → Char
  | .value => '{'
  | .statement => '%'
  | .comment => '#'

def TagKind.closingMark : TagKind → Char
  | .value => '}'
  | .statement => '%'
  | .comment => '#'

def TagKind.ofMark? (c : Char) : Option TagKind :=
  [TagKind.value, .statement, .comment].find? (·.mark == c)

inductive Fragment where
  | text (content : List Char)
  | tag (kind : TagKind) (trimsBefore trimsAfter : Bool) (content : List Char)

def Fragment.ofTag (kind : TagKind) (content : List Char) : Fragment :=
  let (trimsBefore, content) :=
    match content with
    | '-' :: rest => (true, rest)
    | _ => (false, content)
  let (trimsAfter, reversed) :=
    match content.reverse with
    | '-' :: rest => (true, rest)
    | reversed => (false, reversed)
  .tag kind trimsBefore trimsAfter reversed.reverse

/-- Splits source into fragments; `inside` is the tag that is open, and `seen` what was read since
the last boundary, last first. -/
def fragments (inside : Option TagKind) (seen : List Char) : List Char → Option (List Fragment)
  | [] => if inside.isNone then some [.text seen.reverse] else none
  | [c] => if inside.isNone then some [.text (c :: seen).reverse] else none
  | c :: d :: rest =>
    match inside with
    | none =>
      match if c = '{' then TagKind.ofMark? d else none with
      | some kind => (fragments (some kind) [] rest).map (.text seen.reverse :: ·)
      | none => fragments none (c :: seen) (d :: rest)
    | some kind =>
      if c = kind.closingMark ∧ d = '}' then
        (fragments none [] rest).map (Fragment.ofTag kind seen.reverse :: ·)
      else fragments inside (c :: seen) (d :: rest)

def trimStart (text : List Char) : List Char := text.dropWhile Text.isSpace

def trimEnd (text : List Char) : List Char := (text.reverse.dropWhile Text.isSpace).reverse

/-- Removes the white space that tags ask to have removed; `after` says that the tag before does. -/
def trimFragments (after : Bool) : List Fragment → List Fragment
  | [] => []
  | .tag kind trimsBefore trimsAfter content :: rest =>
    .tag kind trimsBefore trimsAfter content :: trimFragments trimsAfter rest
  | .text content :: rest =>
    let content := if after then trimStart content else content
    let content :=
      match rest with
      | .tag _ true _ _ :: _ => trimEnd content
      | _ => content
    .text content :: trimFragments false rest

def isNameChar (c : Char) : Bool := Text.isAsciiAlphanumeric c || c == '_'

def tagWords : List Char → List (List Char)
  | [] => []
  | c :: rest =>
    if Text.isSpace c then tagWords rest
    else if isNameChar c || c == '.' then
      match rest with
      | [] => [[c]]
      | d :: _ =>
        if isNameChar d || d == '.' then Text.extendFirst c (tagWords rest)
        else [c] :: tagWords rest
    else [c] :: tagWords rest

def isName : List Char → Bool
  | [] => false
  | c :: rest => (Text.isAsciiLetter c || c == '_') && rest.all isNameChar

def path? (word : List Char) : Option (List String) :=
  let segments := Text.split '.' word
  match segments with
  | first :: rest =>
    if isName first && rest.all (fun segment => !segment.isEmpty && segment.all isNameChar) then
      some (segments.map String.ofList)
    else none
  | [] => none

structure OpenBlock where
  before : List Part
  close : List Part → Part
  ending : String

/-- What has been read so far: open blocks, the innermost first, and the parts since the innermost
was opened, last first. -/
structure Assembly where
  blocks : List OpenBlock
  parts : List Part

def Assembly.statement (assembly : Assembly) (words : List String) : Option Assembly :=
  let enter := fun ending close => some ⟨⟨assembly.parts, close, ending⟩ :: assembly.blocks, []⟩
  match words with
  | ["for", name, "in", source] => do
    guard (isName name.toList)
    let path ← path? source.toList
    enter "endfor" (.each name path)
  | ["if", source, "|", "length", "=", "=", count] => do
    let path ← path? source.toList
    let length ← Decimal.ofDigits? 10 count.toList
    enter "endif" (.whenLength path length)
  | [ending] =>
    match assembly.blocks with
    | block :: blocks =>
      if block.ending = ending then
        some ⟨blocks, block.close assembly.parts.reverse :: block.before⟩
      else none
    | [] => none
  | _ => none

def Assembly.take (assembly : Assembly) : Fragment → Option Assembly
  | .text content => some { assembly with parts := .text (String.ofList content) :: assembly.parts }
  | .tag .comment _ _ _ => some assembly
  | .tag .value _ _ content => do
    match tagWords content with
    | [word] => return { assembly with parts := .value (← path? word) :: assembly.parts }
    | _ => none
  | .tag .statement _ _ content => assembly.statement ((tagWords content).map String.ofList)

end Template

def Template.parse? (source : String) : Option Template := do
  let fragments ← Template.fragments none [] source.toList
  let assembly ← (Template.trimFragments false fragments).foldlM Template.Assembly.take ⟨[], []⟩
  guard assembly.blocks.isEmpty
  return ⟨assembly.parts.reverse⟩

end TypedClient
