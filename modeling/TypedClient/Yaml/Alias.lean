import TypedClient.Mapping
import TypedClient.Yaml.Node

/-!
Aliases and what they stand for. Anchors are numbered by how many names are known, an alias takes
the number of its name, and a number means the last node that was given it. Expansion puts a copy
of that node in place of every alias.
-/

namespace TypedClient.Yaml

abbrev AnchorNumbers := Mapping Nat

abbrev NumberingM := StateT AnchorNumbers Option

def numberAnchor : Option String → NumberingM (Option Nat)
  | none => return none
  | some name => do
    let numbers ← get
    set (Mapping.insert numbers name numbers.length)
    return some numbers.length

mutual

def Node.numbered : Node String → NumberingM (Node Nat)
  | .alias name => do return .alias (← (Mapping.get? (← get) name : Option Nat))
  | .scalar anchor tag isPlain text => do
    return .scalar (← numberAnchor anchor) tag isPlain text
  | .sequence anchor tag items => do
    let anchor ← numberAnchor anchor
    return .sequence anchor tag (← numberedItems items)
  | .mapping anchor tag entries => do
    let anchor ← numberAnchor anchor
    return .mapping anchor tag (← numberedEntries entries)

def numberedItems : List (Node String) → NumberingM (List (Node Nat))
  | [] => return []
  | item :: rest => do
    let item ← item.numbered
    return item :: (← numberedItems rest)

def numberedEntries : List (Node String × Node String) → NumberingM (List (Node Nat × Node Nat))
  | [] => return []
  | (key, value) :: rest => do
    let key ← key.numbered
    let value ← value.numbered
    return (key, value) :: (← numberedEntries rest)

end

mutual

def Node.anchored {α : Type} (node : Node α) : List (α × Node α) :=
  match node with
  | .alias _ => []
  | .scalar anchor _ _ _ => anchor.toList.map (·, node)
  | .sequence anchor _ items => anchor.toList.map (·, node) ++ anchoredItems items
  | .mapping anchor _ entries => anchor.toList.map (·, node) ++ anchoredEntries entries

def anchoredItems {α : Type} : List (Node α) → List (α × Node α)
  | [] => []
  | item :: rest => item.anchored ++ anchoredItems rest

def anchoredEntries {α : Type} : List (Node α × Node α) → List (α × Node α)
  | [] => []
  | (key, value) :: rest => key.anchored ++ (value.anchored ++ anchoredEntries rest)

end

mutual

def Node.eventCount {α : Type} : Node α → Nat
  | .alias _ => 1
  | .scalar _ _ _ _ => 1
  | .sequence _ _ items => 2 + itemEventCount items
  | .mapping _ _ entries => 2 + entryEventCount entries

def itemEventCount {α : Type} : List (Node α) → Nat
  | [] => 0
  | item :: rest => item.eventCount + itemEventCount rest

def entryEventCount {α : Type} : List (Node α × Node α) → Nat
  | [] => 0
  | (key, value) :: rest => key.eventCount + value.eventCount + entryEventCount rest

end

inductive Tree where
  | scalar (tag : Option String) (isPlain : Bool) (text : String)
  | sequence (tag : Option String) (items : List Tree)
  | mapping (tag : Option String) (entries : List (Tree × Tree))

abbrev ExpansionM := StateT Nat Option

def followAlias (targets : List (Nat × Node Nat)) (number : Nat) : ExpansionM (Node Nat) := do
  match ← get with
  | 0 => failure
  | left + 1 => do
    set left
    (List.lookup number targets : Option (Node Nat))

def Node.expand (targets : List (Nat × Node Nat)) : Nat → Node Nat → ExpansionM Tree
  | depth, node => do
    let node ←
      match node with
      | .alias number => followAlias targets number
      | node => pure node
    match depth, node with
    | _, .alias _ => failure
    | _, .scalar _ tag isPlain text => return .scalar tag isPlain text
    | 0, _ => failure
    | depth + 1, .sequence _ tag items => return .sequence tag (← items.mapM (expand targets depth))
    | depth + 1, .mapping _ tag entries => do
      let entries ← entries.mapM fun (key, value) => do
        return (← expand targets depth key, ← expand targets depth value)
      return .mapping tag entries

def maxDepth : Nat := 128

def aliasesPerEvent : Nat := 100

def Node.tree? (document : Node String) : Option Tree := do
  let (node, _) ← document.numbered.run []
  let limit := aliasesPerEvent * node.eventCount
  let (tree, _) ← (node.expand node.anchored.reverse maxDepth).run limit
  return tree

def tree? (text : String) : Option Tree := do
  match ← documents (← tokens text.toList) with
  | [] => return .scalar none true ""
  | [document] => document.tree?
  | _ => none

end TypedClient.Yaml
