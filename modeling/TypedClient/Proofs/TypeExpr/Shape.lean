import TypedClient.Proofs.Outcome
import TypedClient.TypeExpr.Synthesis

namespace TypedClient

namespace TypeExpr

theorem memberTexts_eq_map (members : List TypeExpr) : memberTexts members = members.map text := by
  induction members with
  | nil => rfl
  | cons member rest ih => rw [memberTexts, ih, List.map_cons]

theorem text_union {members : List TypeExpr} (h : members ≠ []) :
    (union members).text = " | ".intercalate (members.map text) := by
  cases members with
  | nil => exact absurd rfl h
  | cons member rest =>
    rw [text, memberTexts_eq_map]
    simp

def propertyText (property : Property TypeExpr) : String :=
  propertyHead property.name property.optional ++ property.type.text

theorem propertyTexts_eq_map (properties : List (Property TypeExpr)) :
    propertyTexts properties = properties.map propertyText := by
  induction properties with
  | nil => rfl
  | cons property rest ih =>
    obtain ⟨name, optional, type⟩ := property
    rw [propertyTexts, ih, List.map_cons]
    rfl

/-- Types with names and notes of a kind, in which no union has fewer than two members and no
object is without a property. -/
inductive IsBuilt (isName isNote : String → Prop) : TypeExpr → Prop
  | keyword (word : Keyword) : IsBuilt isName isNote (.keyword word)
  | named {name : String} : isName name → IsBuilt isName isNote (.named name)
  | object {properties : List (Property TypeExpr)} : properties ≠ [] →
      (∀ property ∈ properties, IsBuilt isName isNote property.type) →
      IsBuilt isName isNote (.object properties)
  | array {item : TypeExpr} : IsBuilt isName isNote item → IsBuilt isName isNote (.array item)
  | union {members : List TypeExpr} : 2 ≤ members.length →
      (∀ member ∈ members, IsBuilt isName isNote member) → IsBuilt isName isNote (.union members)
  | any : IsBuilt isName isNote (.any none)
  | noted {note : String} : isNote note → IsBuilt isName isNote (.any (some note))

theorem IsBuilt.imp {isName isNote isName' isNote' : String → Prop} {type : TypeExpr}
    (h : IsBuilt isName isNote type) (hname : ∀ name, isName name → isName' name)
    (hnote : ∀ note, isNote note → isNote' note) : IsBuilt isName' isNote' type := by
  induction h with
  | keyword word => exact .keyword word
  | named h => exact .named (hname _ h)
  | object hne _ ih => exact .object hne ih
  | array _ ih => exact .array ih
  | union hlength _ ih => exact .union hlength ih
  | any => exact .any
  | noted h => exact .noted (hnote _ h)

mutual

def names : TypeExpr → List String
  | .keyword _ => []
  | .named name => [name]
  | .object properties => namesOfProperties properties
  | .array item => names item
  | .union members => namesOfAll members
  | .any _ => []

def namesOfAll : List TypeExpr → List String
  | [] => []
  | member :: rest => names member ++ namesOfAll rest

def namesOfProperties : List (Property TypeExpr) → List String
  | [] => []
  | ⟨_, _, type⟩ :: rest => names type ++ namesOfProperties rest

end

theorem mem_namesOfAll {members : List TypeExpr} {name : String} (h : name ∈ namesOfAll members) :
    ∃ member ∈ members, name ∈ member.names := by
  induction members with
  | nil => cases h
  | cons member rest ih =>
    rcases List.mem_append.mp h with h | h
    · exact ⟨member, by simp, h⟩
    · obtain ⟨other, hother, hname⟩ := ih h
      exact ⟨other, List.mem_cons_of_mem _ hother, hname⟩

theorem mem_namesOfProperties {properties : List (Property TypeExpr)} {name : String}
    (h : name ∈ namesOfProperties properties) :
    ∃ property ∈ properties, name ∈ property.type.names := by
  induction properties with
  | nil => cases h
  | cons property rest ih =>
    rcases List.mem_append.mp h with h | h
    · exact ⟨property, by simp, h⟩
    · obtain ⟨other, hother, hname⟩ := ih h
      exact ⟨other, List.mem_cons_of_mem _ hother, hname⟩

theorem IsBuilt.names {isName isNote : String → Prop} {type : TypeExpr}
    (h : IsBuilt isName isNote type) : ∀ name ∈ type.names, isName name := by
  induction h with
  | keyword word => intro name hname; cases hname
  | named h =>
    intro name hname
    obtain rfl := List.mem_singleton.mp hname
    exact h
  | object _ _ ih =>
    intro name hname
    obtain ⟨property, hproperty, hname⟩ := mem_namesOfProperties hname
    exact ih property hproperty name hname
  | array _ ih => exact ih
  | union _ _ ih =>
    intro name hname
    obtain ⟨member, hmember, hname⟩ := mem_namesOfAll hname
    exact ih member hmember name hname
  | any => intro name hname; cases hname
  | noted _ => intro name hname; cases hname

end TypeExpr

namespace Schema

open TypeExpr (IsBuilt)

variable {isName isNote : String → Prop} {ofReference : String → TypeExpr}

theorem length_typesWith (schemas : List Schema) :
    (typesWith ofReference schemas).length = schemas.length := by
  induction schemas with
  | nil => rfl
  | cons schema rest ih => rw [typesWith, List.length_cons, ih, List.length_cons]

mutual

theorem isBuilt_typeWith (h : ∀ pointer, IsBuilt isName isNote (ofReference pointer)) :
    ∀ schema : Schema, IsBuilt isName isNote (schema.typeWith ofReference)
  | .reference pointer => h pointer
  | .union [] => .any
  | .union [alternative] => isBuilt_typeWith h alternative
  | .union (first :: second :: rest) =>
    .union (by simp [length_typesWith]) (isBuilt_typesWith h (first :: second :: rest))
  | .object [] _ => .any
  | .object (property :: rest) required =>
    .object (by simp [propertiesWith]) (isBuilt_propertiesWith h required (property :: rest))
  | .array item => .array (isBuilt_typeWith h item)
  | .primitive .string => .keyword .string
  | .primitive .number => .keyword .number
  | .primitive .integer => .keyword .number
  | .primitive .boolean => .keyword .boolean
  | .primitive (.other _) => .any

theorem isBuilt_typesWith (h : ∀ pointer, IsBuilt isName isNote (ofReference pointer)) :
    ∀ schemas : List Schema, ∀ type ∈ typesWith ofReference schemas, IsBuilt isName isNote type
  | [], _, hmem => by cases hmem
  | schema :: rest, type, hmem => by
    rcases List.mem_cons.mp hmem with rfl | hmem
    · exact isBuilt_typeWith h schema
    · exact isBuilt_typesWith h rest type hmem

theorem isBuilt_propertiesWith (h : ∀ pointer, IsBuilt isName isNote (ofReference pointer))
    (required : List String) : ∀ properties : List (String × Schema),
    ∀ property ∈ propertiesWith ofReference required properties, IsBuilt isName isNote property.type
  | [], _, hmem => by cases hmem
  | (_, schema) :: rest, property, hmem => by
    rcases List.mem_cons.mp hmem with rfl | hmem
    · exact isBuilt_typeWith h schema
    · exact isBuilt_propertiesWith h required rest property hmem

end

end Schema

namespace Synthesis

open TypeExpr (IsBuilt)

def Writes (synthesis : Synthesis) (name : String) : Prop :=
  ∃ key declared, (key, declared) ∈ synthesis.names ∧ name = synthesis.mode.qualify declared

def IsNote (note : String) : Prop := ∃ text, note = Text.comment text

theorem isBuilt_referenceType (synthesis : Synthesis) (fuel : Nat) (chain : List String)
    (pointer : String) :
    IsBuilt synthesis.Writes IsNote (synthesis.referenceType fuel chain pointer) := by
  induction fuel generalizing chain pointer with
  | zero => exact .noted ⟨_, rfl⟩
  | succ fuel ih =>
    rw [referenceType]
    split
    next key _ =>
      unfold registryType
      split
      next name hname => exact .named ⟨key, name, Mapping.mem_of_get? hname, rfl⟩
      next => exact .noted ⟨_, rfl⟩
    next =>
      split
      · exact .noted ⟨_, rfl⟩
      · split
        next target _ => exact Schema.isBuilt_typeWith (ih (pointer :: chain)) target
        next => exact .noted ⟨_, rfl⟩

theorem isBuilt_typeOf (synthesis : Synthesis) (schema : Schema) :
    IsBuilt synthesis.Writes IsNote (synthesis.typeOf schema) :=
  Schema.isBuilt_typeWith (synthesis.isBuilt_referenceType _ _) schema

end Synthesis

end TypedClient
