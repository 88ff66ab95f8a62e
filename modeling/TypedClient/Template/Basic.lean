import TypedClient.Json.Pointer
import TypedClient.Json.Print

namespace TypedClient

namespace Template

inductive Part where
  | text (content : String)
  | value (path : List String)
  | each (name : String) (source : List String) (body : List Part)
  | whenLength (source : List String) (length : Nat) (body : List Part)

inductive Fault where
  | missing (path : List String)
  | notIterable (path : List String)
  | noLength (path : List String)
  deriving DecidableEq

abbrev Scope := List (String × Json)

def find (scope : Scope) (path : List String) : Except Fault Json :=
  let value? := scope.findSome? fun (name, value) =>
    if path.head? = some name then value.descend? path.tail else none
  match value? with
  | some value => .ok value
  | none => .error (.missing path)

mutual

def printed : Json → String
  | .null => ""
  | .bool b => if b then "true" else "false"
  | .number (.whole n) => String.ofList (Decimal.signedDigits n)
  | .number (.double d) => d.plainText
  | .text s => s
  | .array items => "[" ++ ", ".intercalate (printedItems items) ++ "]"
  | .object _ => "[object]"

def printedItems : List Json → List String
  | [] => []
  | item :: rest => printed item :: printedItems rest

end

def iterate (path : List String) : Json → Except Fault (List Json)
  | .array items => .ok items
  | .text s => .ok (s.toList.map fun c => .text (String.singleton c))
  | _ => .error (.notIterable path)

def lengthOf (path : List String) : Json → Except Fault Nat
  | .array items => .ok items.length
  | .object members => .ok members.length
  | .text s => .ok s.length
  | _ => .error (.noLength path)

mutual

def Part.render (scope : Scope) : Part → Except Fault String
  | .text content => .ok content
  | .value path => return printed (← find scope path)
  | .each name source body => do
    let items ← iterate source (← find scope source)
    return String.join (← items.mapM fun item => renderParts ((name, item) :: scope) body)
  | .whenLength source length body => do
    if (← lengthOf source (← find scope source)) = length then renderParts scope body
    else return ""

def renderParts (scope : Scope) : List Part → Except Fault String
  | [] => .ok ""
  | part :: rest => return (← part.render scope) ++ (← renderParts scope rest)

end

end Template

structure Template where
  parts : List Template.Part

def Template.render (template : Template) (bindings : Mapping Json) :
    Except Template.Fault String :=
  Template.renderParts bindings template.parts

end TypedClient
