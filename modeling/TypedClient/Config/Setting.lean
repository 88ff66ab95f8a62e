import TypedClient.Json.Basic

/-!
Settings as configuration formats write them. Formats differ in what may stand for a text: where
one wants a string, another takes any scalar by its spelling.
-/

namespace TypedClient

inductive SettingValue where
  | text (value : String)
  | flag (value : Bool)
  | other
  deriving DecidableEq

namespace SettingValue

def text? : SettingValue → Option String
  | .text value => some value
  | _ => none

def flag? : SettingValue → Option Bool
  | .flag value => some value
  | _ => none

def ofJson : Json → SettingValue
  | .text value => .text value
  | .bool value => .flag value
  | _ => .other

end SettingValue

structure Setting where
  text? : Option String
  optionalText? : Option (Option String)
  value? : Option SettingValue

def Setting.ofJson (value : Json) : Setting where
  text? := value.text?
  optionalText? :=
    match value with
    | .null => some none
    | value => value.text?.map some
  value? := some (.ofJson value)

abbrev Settings := List (String × Setting)

namespace Settings

def get? (settings : Settings) (name : String) : Option Setting :=
  Mapping.get? settings name

def isUnique (settings : Settings) (name : String) : Bool :=
  (settings.filter (·.1 == name)).length ≤ 1

def getD? {α : Type} (settings : Settings) (read : SettingValue → Option α) (name : String)
    (default : α) : Option α :=
  match settings.get? name with
  | none => some default
  | some setting => setting.value?.bind read

end Settings

end TypedClient
