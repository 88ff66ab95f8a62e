import TypedClient.Files.Basic
import TypedClient.Mapping

namespace TypedClient

inductive Entry where
  | file (text : String)
  | directory (entries : List (String × Entry))

structure Store where
  root : Entry
  workingDirectory : List String

inductive PathFault where
  | missing
  | refused
  deriving DecidableEq

namespace Entry

def descend? : Entry → List String → Option Entry
  | entry, [] => some entry
  | .directory entries, name :: names =>
    (Mapping.get? entries name).bind fun entry => descend? entry names
  | .file _, _ :: _ => none

def put (content : Entry) : List String → Entry → Entry
  | [], _ => content
  | name :: names, .directory entries =>
    if names.isEmpty then .directory (Mapping.insert entries name content)
    else match Mapping.get? entries name with
      | some entry => .directory (Mapping.insert entries name (put content names entry))
      | none => .directory entries
  | _, entry => entry

mutual

def files (path : String) : Entry → List (String × String)
  | .file text => [(path, text)]
  | .directory entries => filesOf path entries

def filesOf (path : String) : List (String × Entry) → List (String × String)
  | [] => []
  | (name, entry) :: rest => entry.files (Path.join path name) ++ filesOf path rest

end

end Entry

namespace Store

def empty : Store := ⟨.directory [("work", .directory [])], ["work"]⟩

def maxName : Nat := 255

def maxPath : Nat := 4095

def step (store : Store) (place : List String) (name : String) : Except PathFault (List String) :=
  match store.root.descend? place with
  | none => .error .missing
  | some (.file _) => .error .refused
  | some (.directory _) =>
    if name = "." then .ok place
    else if name = ".." then .ok place.dropLast
    else if name.utf8ByteSize > maxName then .error .refused
    else .ok (place ++ [name])

/-- The place that a path names; something need not be there. -/
def locate (store : Store) (path : String) (names : List String) :
    Except PathFault (List String) :=
  if path.isEmpty then .error .missing
  else if path.utf8ByteSize > maxPath || path.toList.contains '\x00' then .error .refused
  else names.foldlM store.step (if Path.isAbsolute path then [] else store.workingDirectory)

def locatePath (store : Store) (path : String) : Except PathFault (List String) :=
  store.locate path (Path.names path ++ if Path.endsInSlash path then ["."] else [])

def find? (store : Store) (path : String) : Option Entry :=
  match store.locatePath path with
  | .ok place => store.root.descend? place
  | .error _ => none

def readText? (store : Store) (path : String) : Option String :=
  match store.find? path with
  | some (.file text) => some text
  | _ => none

def isFile (store : Store) (path : String) : Bool :=
  (store.readText? path).isSome

def isDirectory (store : Store) (path : String) : Bool :=
  match store.find? path with
  | some (.directory _) => true
  | _ => false

def makeDirectory (store : Store) (path : String) : MakeResult × Store :=
  match store.locate path (Path.names path) with
  | .error .missing => (.parentMissing, store)
  | .error .refused => (.refused, store)
  | .ok place =>
    if (store.root.descend? place).isSome then (.refused, store)
    else (.made, { store with root := Entry.put (.directory []) place store.root })

def writeText (store : Store) (path text : String) : Bool × Store :=
  match store.locatePath path with
  | .error _ => (false, store)
  | .ok place =>
    match store.root.descend? place with
    | some (.directory _) => (false, store)
    | _ => (true, { store with root := Entry.put (.file text) place store.root })

def filesBelow (store : Store) (directory : String) : List (String × String) :=
  match store.find? directory with
  | some (.directory entries) =>
    (Entry.filesOf directory entries).mergeSort fun a b => a.1 ≤ b.1
  | _ => []

end Store

instance : MonadFiles (StateM Store) where
  readText? path := return (← get).readText? path
  isFile path := return (← get).isFile path
  isDirectory path := return (← get).isDirectory path
  makeDirectory path := modifyGet fun store => store.makeDirectory path
  writeText path text := modifyGet fun store => store.writeText path text

end TypedClient
