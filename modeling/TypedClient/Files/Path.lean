import TypedClient.Text.Character
import TypedClient.Text.Split

namespace TypedClient.Path

def names (path : String) : List String :=
  ((Text.split '/' path.toList).filter (!·.isEmpty)).map String.ofList

def isAbsolute (path : String) : Bool := path.toList.head? == some '/'

def endsInSlash (path : String) : Bool := path.toList.getLast? == some '/'

def join (directory name : String) : String :=
  if isAbsolute name then name
  else if directory.isEmpty || endsInSlash directory then directory ++ name
  else directory ++ "/" ++ name

/-- The names that count: a dot says nothing except at the start of a relative path. -/
def components (path : String) : List String :=
  match names path with
  | "." :: rest =>
    (if isAbsolute path then [] else ["."]) ++ rest.filter (· != ".")
  | names => names.filter (· != ".")

def parent? (path : String) : Option String :=
  match components path with
  | [] => none
  | parts => some ((if isAbsolute path then "/" else "") ++ "/".intercalate parts.dropLast)

def fileName? (path : String) : Option String :=
  (components path).getLast?.filter fun name => name != ".." && name != "."

/-- What follows the last point of the file name; a point at its start does not count. -/
def extension? (path : String) : Option String := do
  let name ← fileName? path
  let parts := Text.split '.' name.toList
  match parts.dropLast with
  | [] => none
  | [[]] => none
  | _ => parts.getLast?.map String.ofList

end TypedClient.Path

namespace TypedClient.Text

def isStemChar (c : Char) : Bool :=
  isAsciiAlphanumeric c || c == '_' || c == '-'

def fileStemChars (text : List Char) : List Char :=
  if text.isEmpty then ['_'] else text.map fun c => if isStemChar c then c else '_'

def fileStem (text : String) : String :=
  String.ofList (fileStemChars text.toList)

end TypedClient.Text
