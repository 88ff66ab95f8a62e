import TypedClient.Files.Path

/-!
What a program does with files. The operations are named once, so that a run can be carried out on
the files of a machine or on a value.
-/

namespace TypedClient

inductive MakeResult where
  | made
  | parentMissing
  | refused
  deriving DecidableEq

class MonadFiles (m : Type → Type) where
  readText? : String → m (Option String)
  isFile : String → m Bool
  isDirectory : String → m Bool
  makeDirectory : String → m MakeResult
  writeText : String → String → m Bool

namespace MonadFiles

variable {m : Type → Type} [Monad m] [MonadFiles m]

def ensureDirectory (path : String) : m Bool := do
  match ← makeDirectory path with
  | .made => return true
  | _ => isDirectory path

def makeDirectories : Nat → String → m Bool
  | 0, _ => return false
  | limit + 1, path => do
    if path.isEmpty then return true
    match ← makeDirectory path with
    | .made => return true
    | .refused => isDirectory path
    | .parentMissing =>
      match Path.parent? path with
      | none => return false
      | some parent => if ← makeDirectories limit parent then ensureDirectory path else return false

def makePath (path : String) : m Bool :=
  makeDirectories ((Path.names path).length + 2) path

end MonadFiles

end TypedClient
