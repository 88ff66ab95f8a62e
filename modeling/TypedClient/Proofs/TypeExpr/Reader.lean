import TypedClient.Proofs.Script.Token
import TypedClient.Proofs.TypeExpr.Shape

/-!
A reader that recovers a type from its text. Unions that stand directly in unions leave no trace in
the text, so what is recovered is the type with their members in their place.
-/

namespace TypedClient

open Script (Token scan EndsWord isTokenChar marks endsWord_cons)
open Text (closes)

namespace TypeExpr

mutual

def spliced : TypeExpr → TypeExpr
  | .keyword word => .keyword word
  | .named name => .named name
  | .object properties => .object (splicedProperties properties)
  | .array item => .array (spliced item)
  | .union members => .union (splicedMembers members)
  | .any note => .any note

def splicedMembers : List TypeExpr → List TypeExpr
  | [] => []
  | .union inner :: rest => splicedMembers inner ++ splicedMembers rest
  | member :: rest => spliced member :: splicedMembers rest

def splicedProperties : List (Property TypeExpr) → List (Property TypeExpr)
  | [] => []
  | ⟨name, optional, type⟩ :: rest => ⟨name, optional, spliced type⟩ :: splicedProperties rest

end

def atoms : TypeExpr → List TypeExpr
  | .union members => splicedMembers members
  | type => [type.spliced]

theorem splicedMembers_eq (members : List TypeExpr) :
    splicedMembers members = members.flatMap atoms := by
  induction members with
  | nil => rfl
  | cons member rest ih =>
    cases member <;> simp [splicedMembers, atoms, ih]

theorem splicedProperties_eq (properties : List (Property TypeExpr)) :
    splicedProperties properties = properties.map fun property =>
      { property with type := property.type.spliced } := by
  induction properties with
  | nil => rfl
  | cons property rest ih => rw [splicedProperties, ih, List.map_cons]

theorem atoms_ne_nil {isName isNote : String → Prop} {type : TypeExpr}
    (h : IsBuilt isName isNote type) : type.atoms ≠ [] := by
  induction h with
  | @union members hlength _ ih =>
    intro hnil
    rw [atoms, splicedMembers_eq, List.flatMap_eq_nil_iff] at hnil
    cases members with
    | nil => simp at hlength
    | cons member rest => exact ih member (by simp) (hnil member (by simp))
  | _ => simp [atoms]

end TypeExpr

/-- What is open around a member: a group, or an object with the properties before the one that is
being read, last first; and before it the members of the union around it, last first. -/
inductive Frame where
  | group (before : List TypeExpr)
  | property (before : List TypeExpr) (properties : List (Property TypeExpr)) (name : String)
    (optional : Bool)

inductive Reader where
  | type (stack : List Frame) (before : List TypeExpr)
  | after (stack : List Frame) (members : List TypeExpr)
  | key (stack : List Frame) (before : List TypeExpr) (properties : List (Property TypeExpr))
  | colon (stack : List Frame) (before : List TypeExpr) (properties : List (Property TypeExpr))
    (name : String) (optional : Bool)

namespace Reader

def joined : List TypeExpr → TypeExpr
  | [member] => member
  | members => .union members.reverse

def ofWord (word : String) : TypeExpr :=
  if word = "string" then .keyword .string
  else if word = "number" then .keyword .number
  else if word = "boolean" then .keyword .boolean
  else if word = "void" then .keyword .void
  else if word = "any" then .any none
  else .named word

def noteOf (text : List Char) : String := String.ofList (text.drop 2).dropLast

def withNote (text : List Char) : List TypeExpr → List TypeExpr
  | .any none :: before => .any (some (noteOf text)) :: before
  | members => members

def wrapped : List TypeExpr → List TypeExpr
  | member :: before => .array member :: before
  | [] => []

def closeGroup (members : List TypeExpr) : List Frame → Option Reader
  | .group before :: stack => some (.after stack (joined members :: before))
  | _ => none

def endProperty (members : List TypeExpr) : List Frame → Option Reader
  | .property before properties name optional :: stack =>
    some (.key stack before (⟨name, optional, joined members⟩ :: properties))
  | _ => none

def closeObject (members : List TypeExpr) : List Frame → Option Reader
  | .property before properties name optional :: stack =>
    some (.after stack
      (.object (⟨name, optional, joined members⟩ :: properties).reverse :: before))
  | _ => none

def step : Reader → Token → Option Reader
  | .type stack before, .word word => some (.after stack (ofWord (String.ofList word) :: before))
  | .type stack before, .mark '(' => some (.type (.group before :: stack) [])
  | .type stack before, .mark '\x7b' => some (.key stack before [])
  | .after stack members, .note text => some (.after stack (withNote text members))
  | .after stack members, .mark '[' => some (.after stack (wrapped members))
  | .after stack members, .mark ']' => some (.after stack members)
  | .after stack members, .mark '|' => some (.type stack members)
  | .after stack members, .mark ')' => closeGroup members stack
  | .after stack members, .mark ';' => endProperty members stack
  | .after stack members, .mark '\x7d' => closeObject members stack
  | .key stack before properties, .word word =>
    some (.colon stack before properties (String.ofList word) false)
  | .key stack before properties, .key name =>
    some (.colon stack before properties (String.ofList name) false)
  | .colon stack before properties name _, .mark '?' =>
    some (.colon stack before properties name true)
  | .colon stack before properties name optional, .mark ':' =>
    some (.type (.property before properties name optional :: stack) [])
  | _, _ => none

def run (reader : Reader) (text : List Char) : Option Reader :=
  (scan text).foldlM step reader

def read? (text : String) : Option TypeExpr :=
  match run (.type [] []) text.toList with
  | some (.after [] members) => some (joined members)
  | _ => none

theorem run_mark {reader next : Reader} {c : Char} (hmark : c ∈ marks)
    (hstep : reader.step (.mark c) = some next) (rest : List Char) :
    reader.run (c :: rest) = next.run rest := by
  unfold run
  rw [Script.scan_mark hmark, List.foldlM_cons, hstep]
  rfl

theorem run_space (reader : Reader) (rest : List Char) :
    reader.run (' ' :: rest) = reader.run rest := by
  unfold run
  rw [Script.scan_space]

theorem run_word {reader next : Reader} {word : String} (hne : word.toList ≠ [])
    (hword : ∀ c ∈ word.toList, isTokenChar c = true)
    (hstep : reader.step (.word word.toList) = some next) {rest : List Char}
    (hrest : EndsWord rest) : reader.run (word.toList ++ rest) = next.run rest := by
  unfold run
  rw [Script.scan_word hne hword hrest, List.foldlM_cons, hstep]
  rfl

structure IsTypeName (name : String) : Prop where
  ne_nil : name.toList ≠ []
  chars : ∀ c ∈ name.toList, isTokenChar c = true
  ofWord : ofWord name = .named name

def IsClosedNote (note : String) : Prop := closes note.toList = false

def IsRead (type : TypeExpr) : Prop :=
  ∀ stack before rest, EndsWord rest →
    run (.type stack before) (type.text.toList ++ rest) =
      run (.after stack (type.atoms.reverse ++ before)) rest

theorem run_typeWord {word : String} (hne : word.toList ≠ [])
    (hword : ∀ c ∈ word.toList, isTokenChar c = true) (stack : List Frame)
    (before : List TypeExpr) {rest : List Char} (hrest : EndsWord rest) :
    run (.type stack before) (word.toList ++ rest) =
      run (.after stack (ofWord word :: before)) rest := by
  apply run_word hne hword _ hrest
  rw [step, String.ofList_toList]

theorem isRead_keyword (word : Keyword) : IsRead (.keyword word) := by
  intro stack before rest hrest
  have hchars : (!word.text.toList.isEmpty && word.text.toList.all isTokenChar) = true := by
    cases word <;> decide
  rw [Bool.and_eq_true] at hchars
  have hword : ofWord word.text = .keyword word := by
    cases word <;> rfl
  have hread := run_typeWord (by simpa using hchars.1) (List.all_eq_true.mp hchars.2) stack before hrest
  rw [hword] at hread
  exact hread

theorem isRead_named {name : String} (h : IsTypeName name) : IsRead (.named name) := by
  intro stack before rest hrest
  have hread := run_typeWord h.ne_nil h.chars stack before hrest
  rw [h.ofWord] at hread
  exact hread

theorem run_any (stack : List Frame) (before : List TypeExpr) {rest : List Char}
    (hrest : EndsWord rest) :
    run (.type stack before) ("any".toList ++ rest) =
      run (.after stack (.any none :: before)) rest :=
  run_typeWord (by decide) (List.all_eq_true.mp (by decide)) stack before hrest

theorem isRead_any : IsRead (.any none) := fun stack before _ hrest => run_any stack before hrest

theorem noteOf_eq (note : String) : noteOf ('*' :: ' ' :: note.toList ++ [' ']) = note := by
  unfold noteOf
  rw [List.cons_append, List.cons_append, List.drop_succ_cons, List.drop_succ_cons, List.drop_zero,
    List.dropLast_concat, String.ofList_toList]

theorem isRead_noted {note : String} (h : IsClosedNote note) : IsRead (.any (some note)) := by
  intro stack before rest hrest
  have hspace : EndsWord (' ' :: '/' :: '*' :: ' ' :: (note.toList ++ ' ' :: '*' :: '/' :: rest)) :=
    endsWord_cons (by decide) _
  have hstep : (Reader.after stack (.any none :: before)).step
      (.note ('*' :: ' ' :: note.toList ++ [' '])) =
        some (.after stack (.any (some note) :: before)) := by
    rw [step, withNote, noteOf_eq]
  have htext : (TypeExpr.any (some note)).text.toList ++ rest = "any".toList ++
      ' ' :: '/' :: '*' :: ' ' :: (note.toList ++ ' ' :: '*' :: '/' :: rest) := by
    simp [TypeExpr.text]
  rw [htext, run_any stack before hspace, run_space, run, Script.scan_note h, List.foldlM_cons, hstep]
  rfl

theorem run_members {members : List TypeExpr} (hne : members ≠ [])
    (h : ∀ member ∈ members, IsRead member) (stack : List Frame) (before : List TypeExpr)
    {rest : List Char} (hrest : EndsWord rest) :
    run (.type stack before) ((" | ".intercalate (members.map TypeExpr.text)).toList ++ rest) =
      run (.after stack ((members.flatMap TypeExpr.atoms).reverse ++ before)) rest := by
  induction members generalizing before with
  | nil => exact absurd rfl hne
  | cons member members ih =>
    have hmember := h member (by simp)
    cases members with
    | nil =>
      rw [List.map_singleton, String.intercalate_singleton, List.flatMap_singleton]
      exact hmember stack before rest hrest
    | cons next members =>
      have hmembers := ih (by simp) (fun other hother => h other (List.mem_cons_of_mem _ hother))
        (member.atoms.reverse ++ before)
      have htext : (" | ".intercalate ((member :: next :: members).map TypeExpr.text)).toList ++ rest =
          member.text.toList ++ ' ' :: '|' :: ' ' ::
            ((" | ".intercalate ((next :: members).map TypeExpr.text)).toList ++ rest) := by
        simp [String.intercalate_cons_cons]
      have hatoms : (member :: next :: members).flatMap TypeExpr.atoms =
          member.atoms ++ (next :: members).flatMap TypeExpr.atoms := List.flatMap_cons
      rw [htext, hmember stack before _ (endsWord_cons (by decide) _), run_space,
        run_mark (by decide) rfl, run_space, hmembers, hatoms,
        List.reverse_append, List.append_assoc]

theorem isRead_union {members : List TypeExpr} (hlength : 2 ≤ members.length)
    (h : ∀ member ∈ members, IsRead member) : IsRead (.union members) := by
  have hne : members ≠ [] := by
    rintro rfl
    simp at hlength
  intro stack before rest hrest
  rw [TypeExpr.atoms, TypeExpr.splicedMembers_eq, TypeExpr.text_union hne]
  exact run_members hne h stack before hrest

theorem run_brackets (stack : List Frame) (member : TypeExpr) (before : List TypeExpr)
    (rest : List Char) :
    run (.after stack (member :: before)) ('[' :: ']' :: rest) =
      run (.after stack (.array member :: before)) rest := by
  rw [run_mark (by decide) rfl, run_mark (by decide) rfl]
  rfl

theorem length_atoms {isName isNote : String → Prop} {members : List TypeExpr}
    (hlength : 2 ≤ members.length)
    (h : ∀ member ∈ members, TypeExpr.IsBuilt isName isNote member) :
    2 ≤ (TypeExpr.union members).atoms.length := by
  rw [TypeExpr.atoms, TypeExpr.splicedMembers_eq]
  match members, hlength with
  | first :: second :: rest, _ =>
    have hfirst := List.length_pos_iff.mpr (TypeExpr.atoms_ne_nil (h first (by simp)))
    have hsecond := List.length_pos_iff.mpr (TypeExpr.atoms_ne_nil (h second (by simp)))
    rw [List.flatMap_cons, List.flatMap_cons, List.length_append, List.length_append]
    omega

theorem joined_atoms {isName isNote : String → Prop} {type : TypeExpr}
    (h : TypeExpr.IsBuilt isName isNote type) : joined type.atoms.reverse = type.spliced := by
  cases h with
  | @union members hlength hmembers =>
    have hatoms := length_atoms hlength hmembers
    have hspliced : (TypeExpr.union members).spliced = .union (TypeExpr.union members).atoms := by
      rw [TypeExpr.spliced, TypeExpr.atoms]
    rw [hspliced]
    unfold joined
    split
    next member hsingle =>
      have := congrArg List.length hsingle
      simp only [List.length_reverse, List.length_singleton] at this
      omega
    next => rw [List.reverse_reverse]
  | _ => simp [TypeExpr.atoms, joined]

theorem atoms_eq_of_not_compound {isName isNote : String → Prop} {type : TypeExpr}
    (h : TypeExpr.IsBuilt isName isNote type) (hcompound : type.isCompound = false) :
    type.atoms = [type.spliced] := by
  cases h with
  | @union members hlength hmembers =>
    match members, hlength with
    | first :: second :: rest, _ => cases hcompound
  | _ => rw [TypeExpr.atoms]; simp

theorem isRead_array {isName isNote : String → Prop} {item : TypeExpr}
    (hbuilt : TypeExpr.IsBuilt isName isNote item) (h : IsRead item) : IsRead (.array item) := by
  intro stack before rest hrest
  have hatoms : (TypeExpr.array item).atoms = [.array item.spliced] := by
    rw [TypeExpr.atoms, TypeExpr.spliced]
    simp
  rw [hatoms, TypeExpr.text]
  cases hitem : item.isCompound with
  | true =>
    have htext : ("(" ++ item.text ++ ")[]").toList ++ rest =
        '(' :: (item.text.toList ++ ')' :: '[' :: ']' :: rest) := by
      simp
    rw [if_pos rfl, htext, run_mark (by decide) rfl,
      h _ _ _ (endsWord_cons (by decide) _), run_mark (by decide) rfl,
      List.append_nil, joined_atoms hbuilt, run_brackets]
    rfl
  | false =>
    have hsingle := atoms_eq_of_not_compound hbuilt hitem
    have htext : (item.text ++ "[]").toList ++ rest = item.text.toList ++ '[' :: ']' :: rest := by
      simp
    rw [if_neg (by simp), htext, h stack before _ (endsWord_cons (by decide) _), hsingle]
    exact run_brackets stack _ before rest

section

variable {isName isNote : String → Prop} {stack : List Frame} {before : List TypeExpr}
  {done : List (Property TypeExpr)}

theorem run_key (name : String) {rest : List Char} (hrest : EndsWord rest) :
    run (.key stack before done) ((Text.propertyKey name).toList ++ rest) =
      run (.colon stack before done name false) rest := by
  unfold Text.propertyKey
  split
  next h =>
    have hname := Naming.isName_of_isIdentifier h
    apply run_word hname.ne_nil _ _ hrest
    · intro c hc
      simp [isTokenChar, hname.chars c hc]
    · rw [step, String.ofList_toList]
  next =>
    have htext : (Text.quoted name).toList ++ rest =
        '"' :: (Text.escapeChars name.toList ++ '"' :: rest) := by
      simp [Text.quoted, Text.escapeLiteral]
    rw [htext, run, Script.scan_quoted, List.foldlM_cons, step, String.ofList_toList]
    rfl

theorem run_propertyHead (name : String) (optional : Bool) (rest : List Char) :
    run (.key stack before done) ((TypeExpr.propertyHead name optional).toList ++ rest) =
      run (.type (.property before done name optional :: stack) []) rest := by
  unfold TypeExpr.propertyHead
  cases optional with
  | false =>
    have htext : (Text.propertyKey name ++ (if false = true then "?" else "") ++ ": ").toList ++ rest =
        (Text.propertyKey name).toList ++ ':' :: ' ' :: rest := by
      simp
    rw [htext, run_key name (endsWord_cons (by decide) _),
      run_mark (by decide) rfl, run_space]
  | true =>
    have htext : (Text.propertyKey name ++ (if true = true then "?" else "") ++ ": ").toList ++ rest =
        (Text.propertyKey name).toList ++ '?' :: ':' :: ' ' :: rest := by
      simp
    rw [htext, run_key name (endsWord_cons (by decide) _),
      run_mark (by decide) rfl, run_mark (by decide) rfl, run_space]

theorem run_property {property : Property TypeExpr} (h : IsRead property.type) {rest : List Char}
    (hrest : EndsWord rest) :
    run (.key stack before done) ((TypeExpr.propertyText property).toList ++ rest) =
      run (.after (.property before done property.name property.optional :: stack)
        property.type.atoms.reverse) rest := by
  rw [TypeExpr.propertyText, String.toList_append, List.append_assoc, run_propertyHead,
    h _ _ _ hrest, List.append_nil]

theorem run_properties {properties : List (Property TypeExpr)} (hne : properties ≠ [])
    (h : ∀ property ∈ properties,
      TypeExpr.IsBuilt isName isNote property.type ∧ IsRead property.type) (rest : List Char) :
    run (.key stack before done) (("; ".intercalate (properties.map TypeExpr.propertyText)).toList ++
        ' ' :: '\x7d' :: rest) =
      run (.after stack
        (.object (done.reverse ++ TypeExpr.splicedProperties properties) :: before)) rest := by
  induction properties generalizing done with
  | nil => exact absurd rfl hne
  | cons property properties ih =>
    obtain ⟨hbuilt, hread⟩ := h property (by simp)
    cases properties with
    | nil =>
      rw [List.map_singleton, String.intercalate_singleton,
        run_property hread (endsWord_cons (by decide) _), run_space,
        run_mark (by decide) rfl, joined_atoms hbuilt, List.reverse_cons]
      rfl
    | cons next properties =>
      have hproperties := @ih (⟨property.name, property.optional, property.type.spliced⟩ :: done)
        (by simp) fun other hother => h other (List.mem_cons_of_mem _ hother)
      have htext : ("; ".intercalate
          ((property :: next :: properties).map TypeExpr.propertyText)).toList ++ ' ' :: '\x7d' :: rest =
          (TypeExpr.propertyText property).toList ++ ';' :: ' ' ::
            (("; ".intercalate ((next :: properties).map TypeExpr.propertyText)).toList ++
              ' ' :: '\x7d' :: rest) := by
        simp [String.intercalate_cons_cons]
      rw [htext, run_property hread (endsWord_cons (by decide) _),
        run_mark (by decide) rfl, run_space, joined_atoms hbuilt, hproperties,
        List.reverse_cons, List.append_assoc]
      rfl

theorem isRead_object {properties : List (Property TypeExpr)} (hne : properties ≠ [])
    (h : ∀ property ∈ properties,
      TypeExpr.IsBuilt isName isNote property.type ∧ IsRead property.type) :
    IsRead (.object properties) := by
  intro stack before rest _
  have htext : (TypeExpr.object properties).text.toList ++ rest = '\x7b' :: ' ' ::
      (("; ".intercalate (properties.map TypeExpr.propertyText)).toList ++ ' ' :: '\x7d' :: rest) := by
    rw [TypeExpr.text, TypeExpr.propertyTexts_eq_map]
    simp
  rw [htext, run_mark (by decide) rfl, run_space, run_properties hne h]
  rfl

end

theorem isRead_of_isBuilt {type : TypeExpr} (h : TypeExpr.IsBuilt IsTypeName IsClosedNote type) :
    IsRead type := by
  induction h with
  | keyword word => exact isRead_keyword word
  | named hname => exact isRead_named hname
  | object hne hproperties ih =>
    exact isRead_object hne fun property hmem => ⟨hproperties property hmem, ih property hmem⟩
  | array hitem ih => exact isRead_array hitem ih
  | union hlength _ ih => exact isRead_union hlength ih
  | any => exact isRead_any
  | noted hnote => exact isRead_noted hnote

theorem read?_text {type : TypeExpr} (h : TypeExpr.IsBuilt IsTypeName IsClosedNote type) :
    read? type.text = some type.spliced := by
  have hread := isRead_of_isBuilt h [] [] [] (fun c hc => by cases hc)
  rw [List.append_nil, List.append_nil] at hread
  have hend : run (.after [] type.atoms.reverse) [] = some (.after [] type.atoms.reverse) := by
    rw [run, scan]
    rfl
  rw [read?, hread, hend]
  dsimp only
  rw [joined_atoms h]

end Reader

end TypedClient
