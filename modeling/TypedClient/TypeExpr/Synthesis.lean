import TypedClient.Document.Basic
import TypedClient.Naming.Identifier
import TypedClient.TypeExpr.Basic

/-!
Types of schemas. A reference to a component schema is the declared name of that component. Any
other reference is replaced by the type of what it leads to, and a reference met again while it is
being replaced becomes the permissive type, so every document has a type for every schema.
-/

namespace TypedClient

/-- Where a type is written: among the component types, or in an artifact that imports them under
a namespace. -/
inductive TypeMode where
  | global
  | local
  deriving DecidableEq

def typesNamespace : String := "Types"

def TypeMode.qualify : TypeMode → String → String
  | .global, name => name
  | .local, name => typesNamespace ++ "." ++ name

namespace Schema

mutual

def typeWith (ofReference : String → TypeExpr) : Schema → TypeExpr
  | .reference pointer => ofReference pointer
  | .union [alternative] => typeWith ofReference alternative
  | .union [] => .any none
  | .union alternatives => .union (typesWith ofReference alternatives)
  | .object [] _ => .any none
  | .object properties required => .object (propertiesWith ofReference required properties)
  | .array item => .array (typeWith ofReference item)
  | .primitive .string => .keyword .string
  | .primitive .number => .keyword .number
  | .primitive .integer => .keyword .number
  | .primitive .boolean => .keyword .boolean
  | .primitive (.other _) => .any none

def typesWith (ofReference : String → TypeExpr) : List Schema → List TypeExpr
  | [] => []
  | schema :: rest => typeWith ofReference schema :: typesWith ofReference rest

def propertiesWith (ofReference : String → TypeExpr) (required : List String) :
    List (String × Schema) → List (Property TypeExpr)
  | [] => []
  | (name, schema) :: rest =>
    ⟨name, !required.contains name, typeWith ofReference schema⟩ ::
      propertiesWith ofReference required rest

end

end Schema

mutual

def Json.references : Json → List String
  | .object members => referencesOfMembers members
  | .array items => referencesOfItems items
  | _ => []

def referencesOfItems : List Json → List String
  | [] => []
  | item :: rest => item.references ++ referencesOfItems rest

def referencesOfMembers : List (String × Json) → List String
  | [] => []
  | (key, value) :: rest =>
    (if key = "$ref" then value.text?.toList else []) ++ value.references ++
      referencesOfMembers rest

end

def unresolved (pointer : String) : TypeExpr :=
  .annotated ("unresolved reference: " ++ pointer)

def circular (pointer : String) : TypeExpr :=
  .annotated ("circular reference: " ++ pointer)

structure Synthesis where
  document : Document
  names : Naming.RegistryNames
  mode : TypeMode

namespace Synthesis

def registryType (synthesis : Synthesis) (pointer key : String) : TypeExpr :=
  match synthesis.names.get? key with
  | some name => .named (synthesis.mode.qualify name)
  | none => unresolved pointer

/-- The type of a reference, where `chain` holds the references being replaced. A chain never
repeats a reference, so `fuel` is enough when it is larger than the number of references not on
the chain. -/
def referenceType (synthesis : Synthesis) : Nat → List String → String → TypeExpr
  | 0, _, pointer => circular pointer
  | fuel + 1, chain, pointer =>
    match registryKey? pointer with
    | some key => synthesis.registryType pointer key
    | none =>
      if chain.contains pointer then circular pointer
      else match synthesis.document.resolve? pointer with
        | some target => target.typeWith (synthesis.referenceType fuel (pointer :: chain))
        | none => unresolved pointer

def chainBound (synthesis : Synthesis) (schema : Schema) : Nat :=
  (distinct (schema.pointers ++ synthesis.document.raw.references)).length

def typeOf (synthesis : Synthesis) (schema : Schema) : TypeExpr :=
  schema.typeWith (synthesis.referenceType (synthesis.chainBound schema + 1) [])

end Synthesis

end TypedClient
