import TypedClient.Json.Basic
import TypedClient.Decimal.Digits
import TypedClient.Text.Split

/-!
Pointers into document values: segments after slashes, where `~1` stands for a slash and `~0` for
a tilde.
-/

namespace TypedClient.Json

def replaceSlashes : List Char → List Char
  | '~' :: '1' :: rest => '/' :: replaceSlashes rest
  | c :: rest => c :: replaceSlashes rest
  | [] => []

def replaceTildes : List Char → List Char
  | '~' :: '0' :: rest => '~' :: replaceTildes rest
  | c :: rest => c :: replaceTildes rest
  | [] => []

def unescapeSegment (segment : List Char) : String :=
  String.ofList (replaceTildes (replaceSlashes segment))

def pointerSegments? : List Char → Option (List String)
  | [] => some []
  | '/' :: rest => some ((Text.split '/' rest).map unescapeSegment)
  | _ => none

def index? (segment : String) : Option Nat :=
  match segment.toList with
  | ['0'] => some 0
  | '0' :: _ => none
  | digits => (Decimal.ofDigits? 10 digits).filter (Decimal.fitsUnsigned 64)

def child? (segment : String) : Json → Option Json
  | .object members => Mapping.get? members segment
  | .array items => (index? segment).bind (items[·]?)
  | _ => none

def descend? (value : Json) (segments : List String) : Option Json :=
  segments.foldlM (fun value segment => child? segment value) value

def pointer? (value : Json) (pointer : List Char) : Option Json :=
  (pointerSegments? pointer).bind value.descend?

end TypedClient.Json
