import TypedClient.Proofs.Naming.Registry
import TypedClient.Proofs.TypeExpr.Reader

namespace TypedClient

open Naming (IsName)
open Reader (IsTypeName IsClosedNote)

namespace TypeExpr

theorem intercalate_append (separator : String) {front back : List String} (hfront : front ≠ [])
    (hback : back ≠ []) : separator.intercalate (front ++ back) =
      separator.intercalate front ++ separator ++ separator.intercalate back := by
  induction front with
  | nil => exact absurd rfl hfront
  | cons part front ih =>
    cases front with
    | nil =>
      cases back with
      | nil => exact absurd rfl hback
      | cons next back =>
        rw [List.singleton_append, String.intercalate_cons_cons, String.intercalate_singleton]
    | cons next front =>
      have hrest := ih (by simp)
      rw [List.cons_append] at hrest
      rw [List.cons_append, List.cons_append, String.intercalate_cons_cons, hrest,
        String.intercalate_cons_cons]
      simp only [String.append_assoc]

theorem intercalate_flatMap {α : Type} (separator : String) {parts : α → List String}
    {items : List α} (h : ∀ item ∈ items, parts item ≠ []) :
    separator.intercalate (items.flatMap parts) =
      separator.intercalate (items.map fun item => separator.intercalate (parts item)) := by
  induction items with
  | nil => rfl
  | cons item items ih =>
    have hrest := ih fun other hother => h other (List.mem_cons_of_mem _ hother)
    cases items with
    | nil => rw [List.flatMap_singleton, List.map_singleton, String.intercalate_singleton]
    | cons next items =>
      have hback : (next :: items).flatMap parts ≠ [] := by
        have := h next (by simp)
        simp [this]
      rw [List.flatMap_cons, intercalate_append separator (h item (by simp)) hback, hrest,
        List.map_cons, List.map_cons, List.map_cons, String.intercalate_cons_cons]

section

variable {isName isNote : String → Prop} {type : TypeExpr}

theorem isCompound_of_length {members : List TypeExpr} (h : 2 ≤ members.length) :
    (union members).isCompound = true := by
  match members, h with
  | _ :: _ :: _, _ => rfl

theorem isCompound_spliced (h : IsBuilt isName isNote type) :
    type.spliced.isCompound = type.isCompound := by
  cases h with
  | union hlength hmembers =>
    have hatoms := Reader.length_atoms hlength hmembers
    rw [isCompound_of_length hlength, spliced]
    exact isCompound_of_length hatoms
  | _ => simp [spliced, isCompound]

theorem text_spliced_of_atoms (h : IsBuilt isName isNote type)
    (htext : " | ".intercalate (type.atoms.map text) = type.text) :
    type.spliced.text = type.text := by
  cases h with
  | @union members hlength hmembers =>
    have hatoms : (union members).atoms ≠ [] := atoms_ne_nil (.union hlength hmembers)
    rw [spliced]
    exact (text_union hatoms).trans htext
  | _ => simpa [atoms] using htext

theorem text_atoms (h : IsBuilt isName isNote type) :
    " | ".intercalate (type.atoms.map text) = type.text := by
  induction h with
  | @object properties _ hproperties ih =>
    have hmap : (splicedProperties properties).map propertyText = properties.map propertyText := by
      rw [splicedProperties_eq, List.map_map]
      apply List.map_congr_left
      intro property hmem
      have htext := text_spliced_of_atoms (hproperties property hmem) (ih property hmem)
      simp only [Function.comp_apply, propertyText, htext]
    rw [atoms, List.map_singleton, String.intercalate_singleton, spliced, text, text,
      propertyTexts_eq_map, propertyTexts_eq_map, hmap]
    simp
  | @array item hitem ih =>
    rw [atoms, List.map_singleton, String.intercalate_singleton, spliced, text, text,
      isCompound_spliced hitem, text_spliced_of_atoms hitem ih]
    simp
  | @union members hlength hmembers ih =>
    have hne : members ≠ [] := List.ne_nil_of_length_pos (by omega)
    have hparts : ∀ member ∈ members, member.atoms.map text ≠ [] := by
      intro member hmem
      simpa using atoms_ne_nil (hmembers member hmem)
    rw [atoms, splicedMembers_eq, List.map_flatMap, intercalate_flatMap " | " hparts, text_union hne]
    congr 1
    exact List.map_congr_left ih
  | _ => simp [atoms, spliced]

theorem text_spliced (h : IsBuilt isName isNote type) : type.spliced.text = type.text :=
  text_spliced_of_atoms h (text_atoms h)

end

end TypeExpr

namespace Reader

theorem ofWord_eq_named {name : String}
    (h : name ∉ ["string", "number", "boolean", "void", "any"]) : ofWord name = .named name := by
  simp only [List.mem_cons, List.not_mem_nil, or_false, not_or] at h
  obtain ⟨hstring, hnumber, hboolean, hvoid, hany⟩ := h
  unfold ofWord
  rw [if_neg hstring, if_neg hnumber, if_neg hboolean, if_neg hvoid, if_neg hany]

end Reader

namespace Synthesis

variable {first second : Synthesis}

def IsRegistered (synthesis : Synthesis) : Prop :=
  ∃ keys scope strict, Naming.nameRegistry keys scope strict = .ok synthesis.names

theorem words_reserved : ∀ word ∈ ["string", "number", "boolean", "void", "any"],
    word ∈ Naming.reservedTypeNames ∧ '.' ∉ word.toList := by
  decide

theorem not_word_of_writes (h : first.IsRegistered) {name : String} (hname : first.Writes name) :
    name ∉ ["string", "number", "boolean", "void", "any"] := by
  obtain ⟨keys, scope, strict, hnames⟩ := h
  obtain ⟨key, declared, hentry, rfl⟩ := hname
  intro hword
  obtain ⟨hreserved, hdot⟩ := words_reserved _ hword
  cases hmode : first.mode with
  | global =>
    rw [hmode] at hreserved
    exact (Naming.declared_of_nameRegistry hnames hentry).2 hreserved
  | «local» =>
    rw [hmode] at hdot
    exact hdot (by simp [TypeMode.qualify])

theorem isTypeName_of_writes (h : first.IsRegistered) {name : String} (hname : first.Writes name) :
    IsTypeName name := by
  have hword := Reader.ofWord_eq_named (not_word_of_writes h hname)
  obtain ⟨keys, scope, strict, hnames⟩ := h
  obtain ⟨key, declared, hentry, rfl⟩ := hname
  have hdeclared := (Naming.declared_of_nameRegistry hnames hentry).1
  have hchars : ∀ c ∈ declared.toList, Script.isTokenChar c = true := by
    intro c hc
    simp [Script.isTokenChar, hdeclared.chars c hc]
  cases hmode : first.mode with
  | global =>
    rw [hmode] at hword
    exact ⟨hdeclared.ne_nil, hchars, hword⟩
  | «local» =>
    rw [hmode] at hword
    have hnamespace : ("Types.".toList.all Script.isTokenChar) = true := by decide
    refine ⟨by simp [TypeMode.qualify], ?_, hword⟩
    intro c hc
    rw [TypeMode.qualify, String.toList_append, List.mem_append] at hc
    rcases hc with hc | hc
    · exact List.all_eq_true.mp hnamespace c hc
    · exact hchars c hc

theorem isBuilt_named (h : first.IsRegistered) (schema : Schema) :
    TypeExpr.IsBuilt IsTypeName IsNote (first.typeOf schema) :=
  (first.isBuilt_typeOf schema).imp (fun _ hname => isTypeName_of_writes h hname) fun _ => id

theorem isClosedNote_of_isNote {note : String} (h : IsNote note) : IsClosedNote note := by
  obtain ⟨text, rfl⟩ := h
  rw [IsClosedNote, Text.comment, String.toList_ofList]
  exact Text.closes_commentChars text.toList

theorem read?_typeOf (h : first.IsRegistered) (schema : Schema) :
    Reader.read? (first.typeOf schema).text = some (first.typeOf schema).spliced :=
  Reader.read?_text ((isBuilt_named h schema).imp (fun _ => id) fun _ => isClosedNote_of_isNote)

/-- Two synthesized types have one text exactly when they are the same up to the grouping of
unions in unions; no written name is a keyword or `any`; and unions and objects are never
degenerate. -/
theorem text_faithful (hfirst : first.IsRegistered) (hsecond : second.IsRegistered)
    (schema other : Schema) :
    ((first.typeOf schema).text = (second.typeOf other).text ↔
        (first.typeOf schema).spliced = (second.typeOf other).spliced) ∧
      (∀ entry ∈ first.names, first.mode.qualify entry.2 ≠ "any" ∧
        ∀ word : Keyword, first.mode.qualify entry.2 ≠ word.text) ∧
      TypeExpr.IsBuilt first.Writes IsNote (first.typeOf schema) := by
  refine ⟨⟨?_, ?_⟩, ?_, first.isBuilt_typeOf schema⟩
  · intro h
    have hread := read?_typeOf hfirst schema
    rw [h, read?_typeOf hsecond other] at hread
    exact (Option.some.inj hread).symm
  · intro h
    have htext := congrArg TypeExpr.text h
    rwa [TypeExpr.text_spliced (first.isBuilt_typeOf schema),
      TypeExpr.text_spliced (second.isBuilt_typeOf other)] at htext
  · intro entry hentry
    have hword := not_word_of_writes hfirst ⟨entry.1, entry.2, hentry, rfl⟩
    refine ⟨fun he => hword (by simp [he]), ?_⟩
    intro word he
    apply hword
    cases word <;> simp [he, Keyword.text]

theorem text_faithful_regrouped :
    let refer : Schema := .reference "#/components/schemas/any"
    let items : Schema := .array (.union [.primitive .number, refer])
    let first : Schema := .union [.union [refer, .primitive .string], items]
    let other : Schema := .union [refer, .union [.primitive .string, items]]
    ∃ synthesis : Synthesis, synthesis.IsRegistered ∧ synthesis.names = [("any", "Any")] ∧
      (synthesis.typeOf first).text = "Types.Any | string | (number | Types.Any)[]" ∧
      (synthesis.typeOf first).spliced = (synthesis.typeOf other).spliced := by
  intro refer items first other
  let synthesis : Synthesis := ⟨⟨.null, none, none, [], []⟩, [("any", "Any")], .local⟩
  have hregistered : synthesis.IsRegistered := ⟨["any"], "types.ts", false, rfl⟩
  obtain ⟨hfaithful, -, -⟩ := text_faithful hregistered hregistered first other
  have htext : (synthesis.typeOf first).text = "Types.Any | string | (number | Types.Any)[]" := by
    decide
  have hother : (synthesis.typeOf other).text = "Types.Any | string | (number | Types.Any)[]" := by
    decide
  exact ⟨synthesis, hregistered, rfl, htext, hfaithful.mp (htext.trans hother.symm)⟩

end Synthesis

end TypedClient
