import TypedClient.Decimal.Numeral
import TypedClient.Json.Basic
import TypedClient.Yaml.Alias

/-!
Values of scalars. A plain scalar is a null, a boolean or a number when it is spelled like one, and
a text otherwise; a tag can ask for one of these.
-/

namespace TypedClient.Yaml

open Decimal (Numeral Double)

def isNull (text : String) : Bool :=
  text == "null" || text == "Null" || text == "NULL" || text == "~"

def bool? (text : String) : Option Bool :=
  if text = "true" ∨ text = "True" ∨ text = "TRUE" then some true
  else if text = "false" ∨ text = "False" ∨ text = "FALSE" then some false
  else none

def withoutSign : List Char → List Char
  | '-' :: rest => rest
  | '+' :: rest => rest
  | text => text

def hasNeedlessZero (text : List Char) : Bool :=
  match withoutSign text with
  | '0' :: rest => !rest.isEmpty && rest.all Decimal.isDigit
  | _ => false

def magnitude? : List Char → Option Nat
  | '0' :: 'x' :: rest => Decimal.ofDigits? 16 rest
  | '0' :: 'o' :: rest => Decimal.ofDigits? 8 rest
  | '0' :: 'b' :: rest => Decimal.ofDigits? 2 rest
  | text => if hasNeedlessZero text then none else Decimal.ofDigits? 10 text

def integer? (text : List Char) : Option Int :=
  match text with
  | '-' :: rest => ((magnitude? rest).map fun n => -(n : Int)).filter (Decimal.fitsSigned 128)
  | '+' :: rest => ((magnitude? rest).filter (Decimal.fitsUnsigned 128)).map Int.ofNat
  | rest => ((magnitude? rest).filter (Decimal.fitsUnsigned 128)).map Int.ofNat

def fitsWord (value : Int) : Bool :=
  Decimal.fitsSigned 64 value || (0 ≤ value && Decimal.fitsUnsigned 64 value.toNat)

def exponent? : List Char → Option (Bool × List Char)
  | [] => some (false, [])
  | e :: rest => do
    guard (e == 'e' || e == 'E')
    let digits := withoutSign rest
    guard (!digits.isEmpty && digits.all Decimal.isDigit)
    return (rest.head? == some '-', digits)

def numeral? (text : List Char) : Option Numeral := do
  let unsigned :=
    match text with
    | '-' :: rest => rest
    | rest => rest
  let (whole, rest) := unsigned.span Decimal.isDigit
  let (fraction, rest) :=
    match rest with
    | '.' :: rest => rest.span Decimal.isDigit
    | _ => ([], rest)
  guard (!whole.isEmpty || !fraction.isEmpty)
  let (exponentNegative, exponent) ← exponent? rest
  return ⟨text.head? == some '-', whole, fraction, exponentNegative, exponent⟩

def isInfinite (text : List Char) : Bool :=
  ["inf", "Inf", "INF"].any fun word => withoutSign text == '.' :: word.toList

def isNotANumber (text : List Char) : Bool :=
  ["nan", "NaN", "NAN"].any fun word => text == '.' :: word.toList

def float? (text : List Char) : Option Json :=
  if isInfinite text || isNotANumber text then some .null
  else
    let text :=
      match text with
      | '+' :: '-' :: _ => []
      | '+' :: rest => rest
      | rest => rest
    ((numeral? text).bind Numeral.nearest?).map fun value => .number (.double value)

def wordValue? (value : Int) : Option Json :=
  if fitsWord value then some (.number (.whole value)) else none

def plainValue? (text : String) : Option Json :=
  if text.isEmpty || isNull text then some .null
  else match bool? text with
    | some value => some (.bool value)
    | none =>
      match integer? text.toList with
      | some value => wordValue? value
      | none =>
        if hasNeedlessZero text.toList then some (.text text)
        else some ((float? text.toList).getD (.text text))

/-- The value of a scalar. A tag of the document's own has no value, and a tag of the standard
that names another kind of value than the text has is refused. -/
def scalarValue? (tag : Option String) (isPlain : Bool) (text : String) : Option Json :=
  match tag with
  | none => if isPlain then plainValue? text else some (.text text)
  | some "tag:yaml.org,2002:null" => if isNull text then some .null else none
  | some "tag:yaml.org,2002:bool" => (bool? text).map .bool
  | some "tag:yaml.org,2002:int" => (integer? text.toList).bind wordValue?
  | some "tag:yaml.org,2002:float" => float? text.toList
  | some tag => if tag.startsWith "!" then none else some (.text text)

def isOwnTag (tag : Option String) : Bool := tag.any (·.startsWith "!")

def Tree.key? : Tree → Option String
  | .scalar _ _ text => some text
  | _ => none

mutual

def Tree.value? : Tree → Option Json
  | .scalar tag isPlain text => scalarValue? tag isPlain text
  | .sequence tag items => do
    guard (!isOwnTag tag)
    return .array (← itemValues? items)
  | .mapping tag entries => do
    guard (!isOwnTag tag)
    return .object (Mapping.ofEntries (← entryValues? entries))

def itemValues? : List Tree → Option (List Json)
  | [] => some []
  | item :: rest => do return (← item.value?) :: (← itemValues? rest)

def entryValues? : List (Tree × Tree) → Option (List (String × Json))
  | [] => some []
  | (key, value) :: rest => do
    return (← key.key?, ← value.value?) :: (← entryValues? rest)

end

mutual

def Tree.hasValues : Tree → Bool
  | .scalar tag isPlain text => (scalarValue? tag isPlain text).isSome
  | .sequence tag items => !isOwnTag tag && itemsHaveValues items
  | .mapping tag entries => !isOwnTag tag && entriesHaveValues entries

def itemsHaveValues : List Tree → Bool
  | [] => true
  | item :: rest => item.hasValues && itemsHaveValues rest

def entriesHaveValues : List (Tree × Tree) → Bool
  | [] => true
  | (key, value) :: rest => key.hasValues && value.hasValues && entriesHaveValues rest

end

def parse? (text : String) : Option Json := do (← tree? text).value?

end TypedClient.Yaml
