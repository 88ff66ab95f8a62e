import TypedClient.Mapping
import TypedClient.Naming.Allocator
import TypedClient.Text.Comment
import TypedClient.Text.Literal

/-!
Names of generated callables and types. Both casings are total: text that leaves nothing becomes
a fixed name, and a name never begins with an ASCII digit.
-/

namespace TypedClient.Naming

def fallbackMethodName : String := "unknown"

def fallbackTypeName : String := "Unknown"

def finish (fallback : String) (name : String) : String :=
  match name.toList with
  | [] => fallback
  | c :: _ => if Text.isAsciiDigit c then "_" ++ name else name

def methodName (raw : String) : String :=
  finish fallbackMethodName (Text.lowerCamelCase raw)

def typeName (raw : String) : String :=
  finish fallbackTypeName (Text.upperCamelCase raw)

def operationName (id? summary? : Option String) : String :=
  match [id?, summary?].findSome? (·.filter fun source => !Text.isBlank source) with
  | some source => methodName source
  | none => fallbackMethodName

def reservedTypeNames : List String := [
  "any", "bigint", "boolean", "never", "null", "number", "object", "string", "symbol",
  "undefined", "unknown", "void", "break", "case", "catch", "class", "const", "continue",
  "debugger", "default", "delete", "do", "else", "enum", "export", "extends", "false",
  "finally", "for", "function", "if", "import", "in", "instanceof", "new", "return",
  "super", "switch", "this", "throw", "true", "try", "typeof", "var", "while", "with"]

/-- A key that can name a type is kept as it is written. -/
def registryBase (key : String) : String :=
  if Text.isIdentifier key && !reservedTypeNames.contains key then key else typeName key

abbrev RegistryNames := Mapping String

def nameRegistry (keys : List String) (scope : String) (strict : Bool) :
    Except NameCollision RegistryNames := do
  let (names, _) ← (Allocator.empty scope strict).allocateAll (keys.map registryBase)
  return keys.zip names

end TypedClient.Naming
