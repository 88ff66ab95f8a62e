import TypedClient.Json.Token

/-!
Reading JSON text. The tokens are taken one by one by a machine that holds the open arrays and
objects on a stack, so the nesting is bounded by the height of the stack.
-/

namespace TypedClient.Json

inductive Container where
  | items (values : List Json)
  | members (entries : List (String × Json))

inductive Frame where
  | items (before : List Json)
  | members (before : List (String × Json)) (key : String)

inductive Reading where
  | value (stack : List Frame)
  | firstItem (stack : List Frame)
  | firstKey (stack : List Frame)
  | key (stack : List Frame) (before : List (String × Json))
  | colon (stack : List Frame) (before : List (String × Json)) (key : String)
  | afterValue (stack : List Frame) (container : Container)
  | done (value : Json)

def maxDepth : Nat := 127

def Reading.complete (v : Json) : List Frame → Reading
  | [] => .done v
  | .items before :: stack => .afterValue stack (.items (v :: before))
  | .members before name :: stack => .afterValue stack (.members ((name, v) :: before))

def Reading.begin (stack : List Frame) : Token → Option Reading
  | .null => some (.complete .null stack)
  | .bool b => some (.complete (.bool b) stack)
  | .number n => some (.complete (.number n) stack)
  | .text s => some (.complete (.text s) stack)
  | .openArray => if stack.length < maxDepth then some (.firstItem stack) else none
  | .openObject => if stack.length < maxDepth then some (.firstKey stack) else none
  | _ => none

def Reading.step : Reading → Token → Option Reading
  | .value stack, token => begin stack token
  | .firstItem stack, .closeArray => some (complete (.array []) stack)
  | .firstItem stack, token => begin (.items [] :: stack) token
  | .firstKey stack, .closeObject => some (complete (.object []) stack)
  | .firstKey stack, .text name => some (.colon stack [] name)
  | .key stack before, .text name => some (.colon stack before name)
  | .colon stack before name, .colon => some (.value (.members before name :: stack))
  | .afterValue stack (.items values), .comma => some (.value (.items values :: stack))
  | .afterValue stack (.items values), .closeArray => some (complete (.array values.reverse) stack)
  | .afterValue stack (.members entries), .comma => some (.key stack entries)
  | .afterValue stack (.members entries), .closeObject =>
    some (complete (.object entries.reverse) stack)
  | _, _ => none

def Reading.value? : Reading → Option Json
  | .done v => some v
  | _ => none

def parseRepeated? (text : String) : Option Json := do
  let tokens ← tokens text.toList
  let reading ← tokens.foldlM Reading.step (.value [])
  reading.value?

mutual

def merged : Json → Json
  | .array items => .array (mergedItems items)
  | .object members => .object (Mapping.ofEntries (mergedMembers members))
  | value => value

def mergedItems : List Json → List Json
  | [] => []
  | item :: rest => merged item :: mergedItems rest

def mergedMembers : List (String × Json) → List (String × Json)
  | [] => []
  | (key, value) :: rest => (key, merged value) :: mergedMembers rest

end

def parse? (text : String) : Option Json :=
  (parseRepeated? text).map merged

end TypedClient.Json
