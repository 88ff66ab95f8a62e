import TypedClient.Mapping
import TypedClient.Decimal.Double

namespace TypedClient

open Decimal (Double)

inductive Number where
  | whole (value : Int)
  | double (value : Double)
  deriving DecidableEq

inductive Json where
  | null
  | bool (value : Bool)
  | number (value : Number)
  | text (value : String)
  | array (items : List Json)
  | object (members : List (String × Json))

instance : Inhabited Json := ⟨.null⟩

namespace Json

def text? : Json → Option String
  | .text value => some value
  | _ => none

def bool? : Json → Option Bool
  | .bool value => some value
  | _ => none

def items? : Json → Option (List Json)
  | .array items => some items
  | _ => none

def members? : Json → Option (Mapping Json)
  | .object members => some members
  | _ => none

def member? (value : Json) (name : String) : Option Json :=
  value.members?.bind (·.get? name)

end Json

end TypedClient
