import TypedClient.Text.Comment
import TypedClient.Text.Literal

namespace TypedClient

inductive Keyword where
  | string
  | number
  | boolean
  | void
  deriving DecidableEq

def Keyword.text : Keyword → String
  | .string => "string"
  | .number => "number"
  | .boolean => "boolean"
  | .void => "void"

structure Property (α : Type) where
  name : String
  optional : Bool
  type : α

/-- A type; `any` stands where nothing better is known, with the reason as a note. -/
inductive TypeExpr where
  | keyword (word : Keyword)
  | named (name : String)
  | object (properties : List (Property TypeExpr))
  | array (item : TypeExpr)
  | union (members : List TypeExpr)
  | any (note : Option String)

instance : Inhabited TypeExpr := ⟨.any none⟩

namespace TypeExpr

def annotated (note : String) : TypeExpr := .any (some (Text.comment note))

def isCompound : TypeExpr → Bool
  | .union (_ :: _ :: _) => true
  | _ => false

def propertyHead (name : String) (optional : Bool) : String :=
  Text.propertyKey name ++ (if optional then "?" else "") ++ ": "

mutual

def text : TypeExpr → String
  | .keyword word => word.text
  | .named name => name
  | .object properties => "\x7b " ++ "; ".intercalate (propertyTexts properties) ++ " \x7d"
  | .array item => if item.isCompound then "(" ++ text item ++ ")[]" else text item ++ "[]"
  | .union [] => "any"
  | .union members => " | ".intercalate (memberTexts members)
  | .any none => "any"
  | .any (some note) => "any /* " ++ note ++ " */"

def memberTexts : List TypeExpr → List String
  | [] => []
  | member :: rest => text member :: memberTexts rest

def propertyTexts : List (Property TypeExpr) → List String
  | [] => []
  | ⟨name, optional, type⟩ :: rest =>
    (propertyHead name optional ++ text type) :: propertyTexts rest

end

end TypeExpr

structure Declaration where
  name : String
  type : TypeExpr

def Declaration.text (declaration : Declaration) : String :=
  match declaration.type with
  | .object properties =>
    "export interface " ++ declaration.name ++ " \x7b\n" ++
      String.join ((TypeExpr.propertyTexts properties).map fun line => "  " ++ line ++ ";\n") ++
      "\x7d"
  | type => "export type " ++ declaration.name ++ " = " ++ type.text ++ ";"

end TypedClient
