import TypedClient.Proofs.Document.RawSchema
import TypedClient.Proofs.Script.OneLine
import TypedClient.Proofs.TypeExpr.Expansion
import TypedClient.Proofs.TypeExpr.Faithful

/-!
Objects of synthesized types against the raw schemas they come from: at every depth one member for
each property, in order, which is optional if and only if its name is not required, and which is
read back from the text.
-/

namespace TypedClient

open Json (Layer Conjoins propertyEntries requiredNames)

/-- A type says what a raw value says. The members of an object are those of the value, and all that
`required` does is to mark them. -/
inductive Shows (root : Json) : Json → TypeExpr → Prop
  | named {value : Json} {pointer name : String} : value.layer = .reference pointer →
      Shows root value (.named name)
  | noted {value : Json} {pointer note : String} : value.layer = .reference pointer →
      Shows root value (.any (some note))
  | target {value target : Json} {pointer : String} {type : TypeExpr} :
      value.layer = .reference pointer → Reference.lookup? root pointer = some target →
      Shows root target type → Shows root value type
  | conjunction {value inner : Json} {type : TypeExpr} : value.layer = .conjunction inner →
      Shows root inner type → Shows root value type
  | nothing {value : Json} : value.layer = .alternatives [] → Shows root value (.any none)
  | alternative {value only : Json} {type : TypeExpr} : value.layer = .alternatives [only] →
      Shows root only type → Shows root value type
  | alternatives {value : Json} {values : List Json} {types : Json → TypeExpr} :
      value.layer = .alternatives values → 2 ≤ values.length →
      (∀ below ∈ values, Shows root below (types below)) →
      Shows root value (.union (values.map types))
  | bare {value : Json} {required : List String} : value.layer = .object [] required →
      Shows root value (.any none)
  | object {value : Json} {entries : Mapping Json} {required : List String}
      {types : Json → TypeExpr} : value.layer = .object entries required → entries ≠ [] →
      (∀ entry ∈ entries, Shows root entry.2 (types entry.2)) →
      Shows root value (.object (entries.map fun entry =>
        ⟨entry.1, decide (entry.1 ∉ required), types entry.2⟩))
  | array {value item : Json} {type : TypeExpr} : value.layer = .array item →
      Shows root item type → Shows root value (.array type)
  | word {value : Json} {kind : Primitive} {word : Keyword} : value.layer = .plain kind →
      Shows root value (.keyword word)
  | untyped {value : Json} {kind : Primitive} : value.layer = .plain kind →
      Shows root value (.any none)

theorem Shows.of_core {root value core : Json} {type : TypeExpr} (hconjoins : Conjoins value core)
    (h : Shows root core type) : Shows root value type := by
  induction hconjoins with
  | self value => exact h
  | within hlayer _ ih => exact .conjunction hlayer (ih h)

namespace Synthesis

variable {synthesis : Synthesis}

theorem shows_shape {root value : Json} {types : Schema → TypeExpr}
    (hreference : value.layer.schema.isReference = false)
    (hcore : ∀ inner, value.layer ≠ .conjunction inner)
    (h : ∀ child ∈ value.layer.schema.children, ∀ below, Schema.ofJson below = child →
      Shows root below (types child)) :
    Shows root value (value.layer.schema.shape types) := by
  cases hlayer : value.layer with
  | reference pointer =>
    rw [hlayer] at hreference
    cases hreference
  | conjunction inner => exact absurd hlayer (hcore inner)
  | alternatives values =>
    rw [hlayer] at h
    have hvalues : ∀ below ∈ values, Shows root below (types (Schema.ofJson below)) :=
      fun below hbelow => h _ (List.mem_map.mpr ⟨below, hbelow, rfl⟩) below rfl
    cases values with
    | nil => exact .nothing hlayer
    | cons first others =>
      cases others with
      | nil => exact .alternative hlayer (hvalues first (by simp))
      | cons second rest =>
        have hshape : (Layer.alternatives (first :: second :: rest)).schema.shape types =
            .union ((first :: second :: rest).map fun below => types (Schema.ofJson below)) := by
          rw [Layer.schema, ← Function.comp_def, ← List.map_map]
          rfl
        rw [hshape]
        exact .alternatives hlayer (by simp) hvalues
  | object entries required =>
    rw [hlayer] at h
    have hentries : ∀ entry ∈ entries, Shows root entry.2 (types (Schema.ofJson entry.2)) := by
      intro entry hentry
      refine h _ ?_ entry.2 rfl
      simp only [Layer.schema, Schema.children, List.map_map]
      exact List.mem_map.mpr ⟨entry, hentry, rfl⟩
    cases entries with
    | nil => exact .bare hlayer
    | cons first rest =>
      have hshape : (Layer.object (first :: rest) required).schema.shape types =
          .object ((first :: rest).map fun entry =>
            ⟨entry.1, decide (entry.1 ∉ required), types (Schema.ofJson entry.2)⟩) := by
        simp only [Layer.schema, List.map_cons, Schema.shape, List.map_map]
        simp [mem_distinct, Function.comp_def]
      rw [hshape]
      exact @Shows.object root value (first :: rest) required
        (fun below => types (Schema.ofJson below)) hlayer (by simp) hentries
  | array item =>
    rw [hlayer] at h
    exact .array hlayer (h _ (List.mem_singleton.mpr rfl) item rfl)
  | plain kind =>
    cases kind with
    | other _ => exact .untyped hlayer
    | _ => exact .word hlayer

theorem exists_reference {value : Json} {pointer : String}
    (h : Schema.ofJson value = .reference pointer) :
    ∃ core, Conjoins value core ∧ core.layer = .reference pointer := by
  obtain ⟨core, hconjoins, hcore, hschema⟩ := Json.exists_layer value
  rw [hschema] at h
  refine ⟨core, hconjoins, ?_⟩
  cases hlayer : core.layer with
  | conjunction inner => exact absurd hlayer (hcore inner)
  | reference other =>
    rw [hlayer] at h
    cases h
    rfl
  | _ =>
    rw [hlayer] at h
    cases h

theorem shows_registryType {root value : Json} {pointer : String}
    (hlayer : value.layer = .reference pointer) (key : String) :
    Shows root value (synthesis.registryType pointer key) := by
  unfold registryType
  split
  · exact .named hlayer
  · exact .noted hlayer

theorem Expands.shows {state : Expansion} {type : TypeExpr} (h : synthesis.Expands state type)
    (value : Json) (hvalue : Schema.ofJson value = state.schema) :
    Shows synthesis.document.raw value type := by
  induction h generalizing value with
  | @registry _ pointer key _ =>
    obtain ⟨core, hconjoins, hlayer⟩ := exists_reference hvalue
    exact .of_core hconjoins (shows_registryType hlayer key)
  | circular _ _ =>
    obtain ⟨core, hconjoins, hlayer⟩ := exists_reference hvalue
    exact .of_core hconjoins (.noted hlayer)
  | unresolved _ _ _ =>
    obtain ⟨core, hconjoins, hlayer⟩ := exists_reference hvalue
    exact .of_core hconjoins (.noted hlayer)
  | target _ _ htarget _ ih =>
    obtain ⟨core, hconjoins, hlayer⟩ := exists_reference hvalue
    obtain ⟨below, hlookup, hbelow⟩ := Option.map_eq_some_iff.mp htarget
    exact .of_core hconjoins (.target hlayer hlookup (ih below hbelow))
  | shape hreference _ ih =>
    obtain ⟨core, hconjoins, hcore, hschema⟩ := Json.exists_layer value
    rw [hschema] at hvalue
    subst hvalue
    exact .of_core hconjoins (shows_shape hreference hcore fun child hchild below hbelow =>
      ih child hchild below hbelow)

theorem shows_typeOf (synthesis : Synthesis) (value : Json) :
    Shows synthesis.document.raw value (synthesis.typeOf (Schema.ofJson value)) :=
  (expands_typeOf synthesis (Schema.ofJson value)).shows value rfl

theorem typeOf_object_congr {properties : List (String × Schema)} {required required' : List String}
    (h : ∀ property ∈ properties, property.1 ∈ required ↔ property.1 ∈ required') :
    synthesis.typeOf (.object properties required) =
      synthesis.typeOf (.object properties required') := by
  have hbound : synthesis.chainBound (.object properties required) =
      synthesis.chainBound (.object properties required') := rfl
  rw [typeOf, typeOf, hbound, Schema.typeWith_eq_shape, Schema.typeWith_eq_shape]
  cases properties with
  | nil => rfl
  | cons first rest =>
    apply congrArg TypeExpr.object
    apply List.map_congr_left
    intro property hproperty
    simp [h property hproperty]

end Synthesis

namespace Reader

def member? (line : String) : Option (Property TypeExpr) :=
  match run (.key [] [] []) line.toList with
  | some (.after [.property [] [] name optional] members) => some ⟨name, optional, joined members⟩
  | _ => none

theorem member?_propertyText {property : Property TypeExpr}
    (h : TypeExpr.IsBuilt IsTypeName IsClosedNote property.type) :
    member? (TypeExpr.propertyText property) =
      some ⟨property.name, property.optional, property.type.spliced⟩ := by
  have hread : run (.key [] [] []) ((TypeExpr.propertyText property).toList ++ []) =
      run (.after [.property [] [] property.name property.optional]
        property.type.atoms.reverse) [] :=
    run_property (isRead_of_isBuilt h) (fun c hc => by cases hc)
  rw [List.append_nil] at hread
  have hend : run (.after [.property [] [] property.name property.optional]
      property.type.atoms.reverse) [] = some (.after [.property [] [] property.name
        property.optional] property.type.atoms.reverse) := by
    rw [run, Script.scan]
    rfl
  rw [member?, hread, hend]
  dsimp only
  rw [joined_atoms h]

end Reader

namespace Synthesis

open Script (OneLine)

variable {synthesis : Synthesis}

structure IsMemberLine (root : Json) (required : List String) (entry : String × Json)
    (line : String) : Prop where
  oneLine : OneLine line
  reads : ∃ type, Shows root entry.2 type ∧
    Reader.member? line = some ⟨entry.1, decide (entry.1 ∉ required), type.spliced⟩

theorem isMemberLine_propertyText {root : Json} {required : List String} {entry : String × Json}
    {type : TypeExpr} (hshows : Shows root entry.2 type)
    (hbuilt : TypeExpr.IsBuilt Reader.IsTypeName IsNote type) :
    IsMemberLine root required entry
      (TypeExpr.propertyText ⟨entry.1, decide (entry.1 ∉ required), type⟩) where
  oneLine := (Script.oneLine_propertyHead _ _).append (Script.oneLine_text hbuilt)
  reads := ⟨type, hshows, Reader.member?_propertyText
    (hbuilt.imp (fun _ => id) fun _ => isClosedNote_of_isNote)⟩

theorem shows_object {root value : Json} {entries : Mapping Json} {required : List String}
    {type : TypeExpr} (hlayer : value.layer = .object entries required) (hne : entries ≠ [])
    (h : Shows root value type) : ∃ types : Json → TypeExpr,
      (∀ entry ∈ entries, Shows root entry.2 (types entry.2)) ∧
      type = .object (entries.map fun entry =>
        ⟨entry.1, decide (entry.1 ∉ required), types entry.2⟩) := by
  cases h with
  | object hlayer' _ hentries =>
    rw [hlayer] at hlayer'
    cases hlayer'
    exact ⟨_, hentries, rfl⟩
  | bare hlayer' =>
    rw [hlayer] at hlayer'
    cases hlayer'
    exact absurd rfl hne
  | _ => simp_all

theorem interface_text (name : String) (properties : List (Property TypeExpr)) :
    (Declaration.mk name (.object properties)).text = "export interface " ++ name ++ " \x7b\n" ++
      String.join ((properties.map TypeExpr.propertyText).map fun line => "  " ++ line ++ ";\n") ++
        "\x7d" := by
  rw [← TypeExpr.propertyTexts_eq_map]
  rfl

theorem isBuilt_of_mem {properties : List (Property TypeExpr)} {isName isNote : String → Prop}
    (h : TypeExpr.IsBuilt isName isNote (.object properties)) {property : Property TypeExpr}
    (hproperty : property ∈ properties) : TypeExpr.IsBuilt isName isNote property.type := by
  cases h with
  | object _ hproperties => exact hproperties property hproperty

theorem exists_members {value : Json} {properties : List (String × Schema)} {required : List String}
    (h : Schema.ofJson value = .object properties required) (hne : properties ≠ []) :
    ∃ members, Conjoins value (.object members) ∧ propertyEntries members ≠ [] ∧
      Json.layerOfMembers members = .object (propertyEntries members) (requiredNames members) := by
  obtain ⟨core, hconjoins, hcore, hschema⟩ := Json.exists_layer value
  rw [hschema] at h
  cases hlayer : core.layer with
  | conjunction inner => exact absurd hlayer (hcore inner)
  | object entries names =>
    rw [hlayer] at h
    cases h
    cases core with
    | object members =>
      obtain ⟨-, -, hentries, hrequired⟩ := Json.layerOfMembers_eq_object_iff.mp hlayer
      rw [← hentries, ← hrequired] at hlayer
      exact ⟨members, hconjoins, fun he => hne (by rw [← hentries, he]; rfl), hlayer⟩
    | _ => cases hlayer
  | _ =>
    rw [hlayer] at h
    cases h

theorem mem_texts {items : List Json} {name : String} :
    name ∈ items.filterMap Json.text? ↔ Json.text name ∈ items := by
  rw [List.mem_filterMap]
  constructor
  · rintro ⟨item, hitem, htext⟩
    cases item with
    | text other =>
      cases htext
      exact hitem
    | _ => cases htext
  · exact fun hitem => ⟨_, hitem, rfl⟩

theorem typeOf_insert_required {members : Mapping Json} (hlayer : Json.layerOfMembers members =
      .object (propertyEntries members) (requiredNames members)) {items : List Json}
    (hitems : ∀ entry ∈ propertyEntries members,
      Json.text entry.1 ∈ items ↔ entry.1 ∈ requiredNames members) :
    synthesis.typeOf (Schema.ofJson (.object (members.insert "required" (.array items)))) =
      synthesis.typeOf (Schema.ofJson (.object members)) := by
  have hinsert := Json.layerOfMembers_insert_required hlayer items
  rw [Schema.ofJson_eq_layer, Schema.ofJson_eq_layer, Json.layer, Json.layer, hlayer, hinsert]
  apply typeOf_object_congr
  intro property hproperty
  obtain ⟨entry, hentry, rfl⟩ := List.mem_map.mp hproperty
  rw [mem_distinct, mem_distinct, mem_texts]
  exact hitems entry hentry

/-- The type of a raw schema says what the schema says, at every depth, and so does its text. Where
the schema is an object with properties it is declared as an interface with one line for each
property, in order, which names the property and marks it if and only if it is not required; and
only what `required` says of properties makes a difference. -/
theorem required_faithful (synthesis : Synthesis) (hnames : synthesis.IsRegistered) (value : Json) :
    Shows synthesis.document.raw value (synthesis.typeOf (Schema.ofJson value)) ∧
      Reader.read? (synthesis.typeOf (Schema.ofJson value)).text =
        some (synthesis.typeOf (Schema.ofJson value)).spliced ∧
      ∀ properties required, Schema.ofJson value = .object properties required →
        properties ≠ [] → ∃ members : Mapping Json, Conjoins value (.object members) ∧
          (∃ lines, List.Forall₂ (IsMemberLine synthesis.document.raw (requiredNames members))
              (propertyEntries members) lines ∧
            ∀ name, (Declaration.mk name (synthesis.typeOf (Schema.ofJson value))).text =
              "export interface " ++ name ++ " \x7b\n" ++
                String.join (lines.map fun line => "  " ++ line ++ ";\n") ++ "\x7d") ∧
          ∀ items, (∀ entry ∈ propertyEntries members,
              Json.text entry.1 ∈ items ↔ entry.1 ∈ requiredNames members) →
            synthesis.typeOf (Schema.ofJson (.object (members.insert "required" (.array items)))) =
              synthesis.typeOf (Schema.ofJson value) := by
  refine ⟨shows_typeOf synthesis value, read?_typeOf hnames _, ?_⟩
  intro properties required hvalue hne
  obtain ⟨members, hconjoins, hentries, hlayer⟩ := exists_members hvalue hne
  have hcore := shows_typeOf synthesis (.object members)
  rw [← hconjoins.ofJson_eq] at hcore
  have hobject : (Json.object members).layer =
      .object (propertyEntries members) (requiredNames members) := hlayer
  obtain ⟨types, htypes, htype⟩ := shows_object hobject hentries hcore
  have hbuilt := isBuilt_named hnames (Schema.ofJson value)
  refine ⟨members, hconjoins, ⟨_, ?_, fun name => htype ▸ interface_text name _⟩, ?_⟩
  · rw [List.map_map, List.forall₂_map_right_iff, List.forall₂_same]
    intro entry hentry
    rw [htype] at hbuilt
    exact isMemberLine_propertyText (htypes entry hentry)
      (isBuilt_of_mem hbuilt (List.mem_map.mpr ⟨entry, hentry, rfl⟩))
  · intro items hitems
    rw [hconjoins.ofJson_eq]
    exact typeOf_insert_required hlayer hitems

theorem required_faithful_wrapped :
    let point : Json := .object [("type", .array [.text "object", .text "null"]),
      ("properties", .object [("x", .object [("type", .text "number")]), ("y", .object [])]),
      ("required", .array [.text "x"])]
    let refer : Json := .object [("allOf", .array [.object [("$ref", .text "#/points/0")]])]
    let value : Json := .object [("properties", .object [("a b", refer), ("c", .bool true)]),
      ("required", .array [.null, .text "a b", .text "d"])]
    let raw : Json := .object [("points", .array [point])]
    let synthesis : Synthesis := ⟨⟨raw, none, none, [], []⟩, [], .global⟩
    let text := "export interface Form \x7b\n  \"a b\": \x7b x: number; y?: any \x7d | any;\n" ++
      "  c?: any;\n\x7d"
    synthesis.IsRegistered ∧
      (Declaration.mk "Form" (synthesis.typeOf (Schema.ofJson value))).text = text ∧
      ∃ members lines, Conjoins value (.object members) ∧
        List.Forall₂ (IsMemberLine raw (requiredNames members)) (propertyEntries members) lines ∧
        text = "export interface Form \x7b\n" ++
          String.join (lines.map fun line => "  " ++ line ++ ";\n") ++ "\x7d" := by
  intro point refer value raw synthesis text
  have hregistered : synthesis.IsRegistered := ⟨[], "types.ts", false, rfl⟩
  have htext : (Declaration.mk "Form" (synthesis.typeOf (Schema.ofJson value))).text = text := by
    decide +kernel
  obtain ⟨-, -, hobject⟩ := required_faithful synthesis hregistered value
  obtain ⟨members, hconjoins, ⟨lines, hlines, hinterface⟩, -⟩ :=
    hobject [("a b", .reference "#/points/0"), ("c", Schema.untyped)] ["a b", "d"] rfl (by simp)
  exact ⟨hregistered, htext, members, lines, hconjoins, hlines,
    htext.symm.trans (hinterface "Form")⟩

end Synthesis

end TypedClient
