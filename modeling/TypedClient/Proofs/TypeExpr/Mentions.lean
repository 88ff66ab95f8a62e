import TypedClient.Proofs.TypeExpr.Expansion

/-!
The names that a type mentions, against the component references that are met when its schema is
expanded. A name is an alternative of the type, or it stands deeper, in a property or an array item.
-/

namespace TypedClient

inductive TypeExpr.Mentions (deep : Bool) : TypeExpr → String → Prop
  | named (name : String) : Mentions deep (.named name) name
  | member {members : List TypeExpr} {member : TypeExpr} {name : String} : member ∈ members →
      Mentions deep member name → Mentions deep (.union members) name
  | property {properties : List (Property TypeExpr)} {property : Property TypeExpr}
      {name : String} : deep = true → property ∈ properties → Mentions deep property.type name →
      Mentions deep (.object properties) name
  | item {item : TypeExpr} {name : String} : deep = true → Mentions deep item name →
      Mentions deep (.array item) name

inductive TypeExpr.Encloses : TypeExpr → String → Prop
  | member {members : List TypeExpr} {member : TypeExpr} {name : String} : member ∈ members →
      Encloses member name → Encloses (.union members) name
  | property {properties : List (Property TypeExpr)} {property : Property TypeExpr}
      {name : String} : property ∈ properties → property.type.Mentions true name →
      Encloses (.object properties) name
  | item {item : TypeExpr} {name : String} : item.Mentions true name → Encloses (.array item) name

theorem TypeExpr.Mentions.shallow_or_encloses {type : TypeExpr} {name : String}
    (h : type.Mentions true name) : type.Mentions false name ∨ type.Encloses name := by
  induction h with
  | named name => exact .inl (.named name)
  | member hmember _ ih => exact ih.imp (.member hmember) (.member hmember)
  | property _ hproperty hmentions _ => exact .inr (.property hproperty hmentions)
  | item _ hmentions _ => exact .inr (.item hmentions)

namespace TypeExpr

variable {deep : Bool} {name : String}

theorem mentions_named {other : String} : (named other).Mentions deep name ↔ name = other := by
  constructor
  · intro h
    cases h
    rfl
  · rintro rfl
    exact .named name

theorem mentions_union {members : List TypeExpr} :
    (union members).Mentions deep name ↔ ∃ member ∈ members, member.Mentions deep name := by
  constructor
  · intro h
    cases h with
    | member hmember hmentions => exact ⟨_, hmember, hmentions⟩
  · rintro ⟨member, hmember, hmentions⟩
    exact .member hmember hmentions

theorem mentions_object {properties : List (Property TypeExpr)} :
    (object properties).Mentions deep name ↔
      deep = true ∧ ∃ property ∈ properties, property.type.Mentions deep name := by
  constructor
  · intro h
    cases h with
    | property hdeep hproperty hmentions => exact ⟨hdeep, _, hproperty, hmentions⟩
  · rintro ⟨hdeep, property, hproperty, hmentions⟩
    exact .property hdeep hproperty hmentions

theorem mentions_array {item : TypeExpr} :
    (array item).Mentions deep name ↔ deep = true ∧ item.Mentions deep name := by
  constructor
  · intro h
    cases h with
    | item hdeep hmentions => exact ⟨hdeep, hmentions⟩
  · rintro ⟨hdeep, hmentions⟩
    exact .item hdeep hmentions

theorem not_mentions_keyword {word : Keyword} : ¬ (keyword word).Mentions deep name := by
  intro h
  cases h

theorem not_mentions_any {note : Option String} : ¬ (any note).Mentions deep name := by
  intro h
  cases h

end TypeExpr

namespace Schema

def inner (deep : Bool) : Schema → List Schema
  | .reference _ => []
  | .object properties _ => if deep then properties.map (·.2) else []
  | .array item => if deep then [item] else []
  | .primitive _ => []
  | .union alternatives => alternatives

theorem mem_children_of_mem_inner {deep : Bool} {schema child : Schema}
    (h : child ∈ schema.inner deep) : child ∈ schema.children := by
  cases schema <;> cases deep <;> first | exact h | cases h

theorem mentions_shape {types : Schema → TypeExpr} {schema : Schema} {deep : Bool} {name : String}
    (hreference : schema.isReference = false) :
    (schema.shape types).Mentions deep name ↔
      ∃ child ∈ schema.inner deep, (types child).Mentions deep name := by
  cases schema with
  | reference pointer => cases hreference
  | object properties required =>
    cases properties with
    | nil => simp [shape, inner, TypeExpr.not_mentions_any]
    | cons property rest =>
      rw [shape, TypeExpr.mentions_object]
      · cases deep with
        | false => simp [inner]
        | true => simp only [inner, if_true, List.mem_map, exists_exists_and_eq_and, true_and]
      · exact nofun
  | array item =>
    rw [shape, TypeExpr.mentions_array]
    cases deep <;> simp [inner]
  | primitive kind =>
    cases kind <;>
      simp [shape, inner, TypeExpr.not_mentions_any, TypeExpr.not_mentions_keyword]
  | union alternatives =>
    match alternatives with
    | [] => simp [shape, inner, TypeExpr.not_mentions_any]
    | [alternative] => simp [shape, inner]
    | first :: second :: rest =>
      show (TypeExpr.union ((first :: second :: rest).map types)).Mentions deep name ↔ _
      rw [TypeExpr.mentions_union]
      simp only [inner, List.mem_map, exists_exists_and_eq_and]

end Schema

/-- A component is met when a schema is expanded, without following a reference that is avoided:
along alternatives alone, or along everything below when `deep` is set. -/
inductive Document.Leads (document : Document) (deep : Bool) (avoided : List String) :
    Schema → String → Prop
  | component {pointer key : String} : registryKey? pointer = some key →
      Leads document deep avoided (.reference pointer) key
  | target {pointer key : String} {target : Schema} :
      registryKey? pointer = none → pointer ∉ avoided →
      document.resolve? pointer = some target → Leads document deep avoided target key →
      Leads document deep avoided (.reference pointer) key
  | inner {schema child : Schema} {key : String} : child ∈ schema.inner deep →
      Leads document deep avoided child key → Leads document deep avoided schema key

namespace Document

variable {document : Document} {deep : Bool} {avoided : List String}

theorem leads_reference {pointer key : String} :
    document.Leads deep avoided (.reference pointer) key ↔
      registryKey? pointer = some key ∨ registryKey? pointer = none ∧ pointer ∉ avoided ∧
        ∃ target, document.resolve? pointer = some target ∧
          document.Leads deep avoided target key := by
  constructor
  · intro h
    cases h with
    | component hkey => exact .inl hkey
    | target hinlined hnew htarget hleads => exact .inr ⟨hinlined, hnew, _, htarget, hleads⟩
    | inner hchild _ =>
      cases hchild
  · rintro (hkey | ⟨hinlined, hnew, target, htarget, hleads⟩)
    · exact .component hkey
    · exact .target hinlined hnew htarget hleads

theorem leads_shape {schema : Schema} {key : String} (hreference : schema.isReference = false) :
    document.Leads deep avoided schema key ↔
      ∃ child ∈ schema.inner deep, document.Leads deep avoided child key := by
  constructor
  · intro h
    cases h with
    | inner hchild hleads => exact ⟨_, hchild, hleads⟩
    | _ => cases hreference
  · rintro ⟨child, hchild, hleads⟩
    exact .inner hchild hleads

theorem Leads.mono {fewer : List String} {schema : Schema} {key : String} (hsub : fewer ⊆ avoided)
    (h : document.Leads deep avoided schema key) : document.Leads deep fewer schema key := by
  induction h with
  | component hkey => exact .component hkey
  | target hinlined hnew htarget _ ih =>
    exact .target hinlined (fun hmem => hnew (hsub hmem)) htarget ih
  | inner hchild _ ih => exact .inner hchild ih

/-- A path that follows a reference starts anew at the target of its last use of the reference. -/
theorem Leads.avoid {schema : Schema} {key : String} (h : document.Leads deep avoided schema key)
    (pointer : String) : document.Leads deep (pointer :: avoided) schema key ∨
      ∃ target, document.resolve? pointer = some target ∧
        document.Leads deep (pointer :: avoided) target key := by
  induction h with
  | component hkey => exact .inl (.component hkey)
  | @target other key target hinlined hnew htarget _ ih =>
    rcases ih with hleads | hlast
    · by_cases he : other = pointer
      · exact .inr ⟨target, he ▸ htarget, hleads⟩
      · exact .inl (.target hinlined (by simp [he, hnew]) htarget hleads)
    · exact .inr hlast
  | inner hchild _ ih => exact ih.imp_left (.inner hchild)

theorem leads_target {pointer key : String} {target : Schema}
    (htarget : document.resolve? pointer = some target) :
    document.Leads deep (pointer :: avoided) target key ↔
      document.Leads deep avoided target key := by
  refine ⟨Leads.mono (List.subset_cons_self _ _), fun h => ?_⟩
  rcases h.avoid pointer with hleads | ⟨last, hlast, hleads⟩
  · exact hleads
  · rw [htarget] at hlast
    cases hlast
    exact hleads

end Document

namespace Synthesis

variable {synthesis : Synthesis}

/-- An expansion that is cut at its chain loses no component: whatever lies beyond a reference on
the chain is met where that reference was replaced. -/
theorem Expands.mentions_iff {state : Expansion} {type : TypeExpr}
    (h : synthesis.Expands state type) (deep : Bool) (name : String) :
    type.Mentions deep name ↔ ∃ key declared,
      synthesis.document.Leads deep state.chain state.schema key ∧
      synthesis.names.get? key = some declared ∧ name = synthesis.mode.qualify declared := by
  induction h with
  | @registry chain pointer key hkey =>
    have hleads : ∀ other, synthesis.document.Leads deep chain (.reference pointer) other ↔
        other = key := by
      intro other
      rw [Document.leads_reference]
      simp [hkey, eq_comm]
    simp only [hleads, exists_and_left, exists_eq_left]
    unfold registryType
    cases synthesis.names.get? key with
    | none => exact iff_of_false TypeExpr.not_mentions_any (by simp)
    | some declared => simp [TypeExpr.mentions_named]
  | @circular chain pointer hinlined hmem =>
    refine iff_of_false TypeExpr.not_mentions_any ?_
    rintro ⟨key, declared, hleads, -⟩
    rcases Document.leads_reference.mp hleads with hkey | ⟨-, hnew, -⟩
    · rw [hinlined] at hkey
      cases hkey
    · exact hnew hmem
  | @unresolved chain pointer hinlined hnew hnone =>
    refine iff_of_false TypeExpr.not_mentions_any ?_
    rintro ⟨key, declared, hleads, -⟩
    rcases Document.leads_reference.mp hleads with hkey | ⟨-, -, target, htarget, -⟩
    · rw [hinlined] at hkey
      cases hkey
    · rw [hnone] at htarget
      cases htarget
  | @target chain pointer target type hinlined hnew htarget _ ih =>
    have hsame : ∀ key, synthesis.document.Leads deep chain (.reference pointer) key ↔
        synthesis.document.Leads deep (pointer :: chain) target key := by
      intro key
      rw [Document.leads_reference, Document.leads_target htarget]
      simp [hinlined, hnew, htarget]
    simp only [ih, hsame]
  | @shape chain schema types hreference _ ih =>
    rw [Schema.mentions_shape hreference]
    simp only [Document.leads_shape hreference]
    constructor
    · rintro ⟨child, hchild, hmentions⟩
      obtain ⟨key, declared, hleads, hname⟩ :=
        (ih child (Schema.mem_children_of_mem_inner hchild)).mp hmentions
      exact ⟨key, declared, ⟨child, hchild, hleads⟩, hname⟩
    · rintro ⟨key, declared, ⟨child, hchild, hleads⟩, hname⟩
      exact ⟨child, hchild, (ih child (Schema.mem_children_of_mem_inner hchild)).mpr
        ⟨key, declared, hleads, hname⟩⟩

end Synthesis

end TypedClient
