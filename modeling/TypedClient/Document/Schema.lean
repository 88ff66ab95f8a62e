import TypedClient.Json.Basic

/-!
Schemas reduced to the shapes that matter for types. Reading is total: a shape that is not
understood becomes a schema without a type.
-/

namespace TypedClient

inductive Primitive where
  | string
  | number
  | integer
  | boolean
  | other (kind : Option String)
  deriving DecidableEq

inductive Schema where
  | reference (pointer : String)
  | object (properties : List (String × Schema)) (required : List String)
  | array (item : Schema)
  | primitive (kind : Primitive)
  | union (alternatives : List Schema)

namespace Schema

def untyped : Schema := .primitive (.other none)

instance : Inhabited Schema := ⟨untyped⟩

def isReference : Schema → Bool
  | .reference _ => true
  | _ => false

/-- What a raw value offers to the schema that holds it: a schema of its own, alternatives where
it is an array, and properties where it is an object. -/
structure Parts where
  schema : Schema
  alternatives : Option (List Schema)
  properties : Option (List (String × Schema))

def ofObject (members : Mapping Json) (parts : Mapping Parts) : Schema :=
  .object (((parts.get? "properties").bind (·.properties)).getD [])
    (distinct ((((members.get? "required").bind Json.items?).getD []).filterMap Json.text?))

def ofType (members : Mapping Json) (parts : Mapping Parts) : String → Schema
  | "object" => ofObject members parts
  | "array" => .array (((parts.get? "items").map (·.schema)).getD untyped)
  | "string" => .primitive .string
  | "number" => .primitive .number
  | "integer" => .primitive .integer
  | "boolean" => .primitive .boolean
  | kind => .primitive (.other (some kind))

def single? : List Schema → Option Schema
  | [schema] => some schema
  | _ => none

/-- The schema of raw members: a reference, alternatives, a conjunction of one, or a type, the
first of them that is there. -/
def ofMembers (members : Mapping Json) (parts : Mapping Parts) : Schema :=
  let alternatives := fun key => (parts.get? key).bind (·.alternatives)
  if let some pointer := (members.get? "$ref").bind Json.text? then .reference pointer
  else if let some schemas := alternatives "oneOf" then .union schemas
  else if let some schemas := alternatives "anyOf" then .union schemas
  else if let some schema := (alternatives "allOf").bind single? then schema
  else match members.get? "type" with
    | some (.text kind) => ofType members parts kind
    | some (.array kinds) => .union ((kinds.filterMap Json.text?).map (ofType members parts))
    | _ => if members.has "properties" then ofObject members parts else untyped

mutual

def partsOf : Json → Parts
  | .object members =>
    let parts := partsOfMembers members
    ⟨ofMembers members parts, none, some (parts.map fun (name, part) => (name, part.schema))⟩
  | .array items => ⟨untyped, some (partsOfItems items), none⟩
  | _ => ⟨untyped, none, none⟩

def partsOfItems : List Json → List Schema
  | [] => []
  | item :: rest => (partsOf item).schema :: partsOfItems rest

def partsOfMembers : List (String × Json) → List (String × Parts)
  | [] => []
  | (name, value) :: rest => (name, partsOf value) :: partsOfMembers rest

end

def ofJson (value : Json) : Schema := (partsOf value).schema

mutual

def pointers : Schema → List String
  | .reference pointer => [pointer]
  | .object properties _ => pointersOfProperties properties
  | .array item => pointers item
  | .primitive _ => []
  | .union alternatives => pointersOfAll alternatives

def pointersOfAll : List Schema → List String
  | [] => []
  | schema :: rest => pointers schema ++ pointersOfAll rest

def pointersOfProperties : List (String × Schema) → List String
  | [] => []
  | (_, schema) :: rest => pointers schema ++ pointersOfProperties rest

end

end Schema

end TypedClient
