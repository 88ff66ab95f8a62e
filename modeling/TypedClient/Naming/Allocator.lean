import TypedClient.Text.Lowercase
import TypedClient.Decimal.Digits

/-!
Names that are unique within one scope. A name that is taken gets the first free number after it,
or is refused where naming is strict.
-/

namespace TypedClient.Naming

structure NameCollision where
  scope : String
  name : String

def NameCollision.message (collision : NameCollision) : String :=
  "name collision in " ++ collision.scope ++ ": '" ++ collision.name ++
    "' is generated more than once"

/-- The names taken in a scope, as keys. -/
structure Allocator where
  scope : String
  strict : Bool
  ignoresCase : Bool
  taken : List String

namespace Allocator

def empty (scope : String) (strict : Bool) : Allocator := ⟨scope, strict, false, []⟩

def emptyIgnoringCase (scope : String) (strict : Bool) : Allocator := ⟨scope, strict, true, []⟩

def key (allocator : Allocator) (name : String) : String :=
  if allocator.ignoresCase then Text.lowercase name else name

def isTaken (allocator : Allocator) (name : String) : Bool :=
  allocator.taken.contains (allocator.key name)

def reserve (allocator : Allocator) (name : String) : Allocator :=
  { allocator with taken := allocator.taken.insert (allocator.key name) }

def numbered (base : String) (n : Nat) : String :=
  base ++ String.ofList (Decimal.digits n)

/-- The first free name among `base2`, `base3`, and so on; one more candidate than there are taken
names is enough. -/
def firstFree (allocator : Allocator) (base : String) : String :=
  (((List.range (allocator.taken.length + 1)).map fun i => numbered base (i + 2)).find?
    fun name => !allocator.isTaken name).getD base

def allocate (allocator : Allocator) (base : String) : Except NameCollision (String × Allocator) :=
  if allocator.isTaken base then
    if allocator.strict then .error ⟨allocator.scope, base⟩
    else
      let name := allocator.firstFree base
      .ok (name, allocator.reserve name)
  else .ok (base, allocator.reserve base)

def allocateAll (allocator : Allocator) :
    List String → Except NameCollision (List String × Allocator)
  | [] => .ok ([], allocator)
  | base :: rest => do
    let (name, allocator) ← allocator.allocate base
    let (names, allocator) ← allocator.allocateAll rest
    return (name :: names, allocator)

end Allocator

end TypedClient.Naming
