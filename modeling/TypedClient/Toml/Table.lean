import TypedClient.Mapping
import TypedClient.Config.Setting

/-!
Tables of TOML documents. A key is given once, and a table that one way of writing defines cannot
be added to in another.
-/

namespace TypedClient.Toml

inductive Item where
  | value (value : SettingValue)
  /-- A table that is only named on the way to another is implicit; one that a dotted key makes is
  dotted as well. -/
  | table (isImplicit isDotted : Bool) (entries : List (String × Item))
  | tables (reversed : List Item)

namespace Item

def empty : Item := .table false false []

/-- What a path meets at a key: the item itself, the last of an array of tables, or a new table. A
dotted key does not pass through a table that has a head of its own. -/
def passThrough (dotted : Bool) (change : Item → Option Item) : Option Item → Option Item
  | none => change (.table true dotted [])
  | some (.value _) => none
  | some (.table isImplicit isDotted entries) =>
    if dotted && !isImplicit then none else change (.table isImplicit isDotted entries)
  | some (.tables []) => none
  | some (.tables (last :: before)) => (change last).map fun last => .tables (last :: before)

def update (dotted : Bool) : List String → (Item → Option Item) → Item → Option Item
  | [], change, item => change item
  | key :: path, change, .table isImplicit isDotted entries => do
    let child ← passThrough dotted (update dotted path change) (Mapping.get? entries key)
    return .table isImplicit isDotted (Mapping.insert entries key child)
  | _ :: _, _, _ => none

def addValue (path : List String) (key : String) (item : Item) : Item → Option Item :=
  update true path fun
    | .table isImplicit isDotted entries =>
      if isDotted = path.isEmpty ∨ Mapping.has entries key then none
      else some (.table isImplicit isDotted (entries ++ [(key, item)]))
    | _ => none

def openTable (path : List String) (key : String) : Item → Option Item :=
  update false path fun
    | .table isImplicit isDotted entries =>
      match Mapping.get? entries key with
      | none => some (.table isImplicit isDotted (entries ++ [(key, empty)]))
      | some (.table true false inner) =>
        some (.table isImplicit isDotted (Mapping.insert entries key (.table false false inner)))
      | _ => none
    | _ => none

def openElement (path : List String) (key : String) : Item → Option Item :=
  update false path fun
    | .table isImplicit isDotted entries =>
      match Mapping.get? entries key with
      | none => some (.table isImplicit isDotted (entries ++ [(key, .tables [empty])]))
      | some (.tables reversed) =>
        some (.table isImplicit isDotted (Mapping.insert entries key (.tables (empty :: reversed))))
      | _ => none
    | _ => none

def entries : Item → List (String × Item)
  | .table _ _ entries => entries
  | _ => []

end Item

end TypedClient.Toml
