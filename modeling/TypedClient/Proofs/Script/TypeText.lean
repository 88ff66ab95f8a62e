import TypedClient.Proofs.Naming.Registry
import TypedClient.Proofs.Script.Lexeme
import TypedClient.Proofs.TypeExpr.Shape

namespace TypedClient

open Script (Lexeme Reads IsPlain)

namespace TypeExpr

def keyLexemes (name : String) : List Lexeme :=
  if Text.isIdentifier name then [] else [.stringLiteral (Text.quoted name)]

mutual

def lexemes : TypeExpr → List Lexeme
  | .keyword _ => []
  | .named _ => []
  | .object properties => lexemesOfProperties properties
  | .array item => lexemes item
  | .union members => lexemesOfAll members
  | .any none => []
  | .any (some note) => [.blockComment ("/* " ++ note ++ " */")]

def lexemesOfAll : List TypeExpr → List Lexeme
  | [] => []
  | member :: rest => lexemes member ++ lexemesOfAll rest

def lexemesOfProperties : List (Property TypeExpr) → List Lexeme
  | [] => []
  | ⟨name, _, type⟩ :: rest => keyLexemes name ++ lexemes type ++ lexemesOfProperties rest

end

theorem lexemesOfAll_eq (members : List TypeExpr) :
    lexemesOfAll members = members.flatMap lexemes := by
  induction members with
  | nil => rfl
  | cons member rest ih => rw [lexemesOfAll, ih, List.flatMap_cons]

theorem lexemesOfProperties_eq (properties : List (Property TypeExpr)) :
    lexemesOfProperties properties =
      properties.flatMap fun property => keyLexemes property.name ++ lexemes property.type := by
  induction properties with
  | nil => rfl
  | cons property rest ih =>
    obtain ⟨name, optional, type⟩ := property
    rw [lexemesOfProperties, ih, List.flatMap_cons]

theorem isPlain_of_isName {name : String} (h : Naming.IsName name) : IsPlain name.toList := by
  intro c hc
  have hname := h.chars c hc
  constructor
  · rintro rfl
    exact absurd hname (by decide)
  · rintro rfl
    exact absurd hname (by decide)

theorem reads_propertyHead (name : String) (optional : Bool) :
    Reads (propertyHead name optional) (keyLexemes name) := by
  have hkey : Reads (Text.propertyKey name) (keyLexemes name) := by
    unfold Text.propertyKey keyLexemes
    split
    next h => exact Script.reads_of_isPlain (isPlain_of_isName (Naming.isName_of_isIdentifier h))
    next => exact Script.reads_quoted name
  have hmark : Reads (if optional then "?" else "") [] := by
    cases optional <;> exact Script.reads_of_decide (by decide)
  have hcolon : Reads ": " [] := Script.reads_of_decide (by decide)
  have hall := (hkey.append hmark).append hcolon
  rw [List.append_nil, List.append_nil] at hall
  exact hall

theorem reads_noted {note : String} (h : Text.closes note.toList = false) :
    Reads (text (.any (some note))) (lexemes (.any (some note))) := by
  have hopen : Reads "any " [] := Script.reads_of_decide (by decide)
  have hinner : Text.closes (" " ++ note ++ " ").toList = false := by
    simp only [String.toList_append]
    apply Text.closes_append _ (by decide) (by decide)
    rwa [show (" ".toList ++ note.toList) = ' ' :: note.toList from rfl,
      Text.closes_cons (by decide)]
  have hcomment := Script.reads_blockComment hinner
  have hwritten : "/*" ++ (" " ++ note ++ " ") ++ "*/" = "/* " ++ note ++ " */" := by
    rw [← String.toList_inj]
    simp
  have htext : "any " ++ ("/* " ++ note ++ " */") = "any /* " ++ note ++ " */" := by
    rw [← String.toList_inj]
    simp
  have hall := hopen.append hcomment
  rw [hwritten, htext] at hall
  rw [text, lexemes]
  exact hall

abbrev IsReadable : TypeExpr → Prop :=
  IsBuilt (fun name => IsPlain name.toList) (fun note => Text.closes note.toList = false)

theorem reads_text {type : TypeExpr} (h : IsReadable type) : Reads type.text type.lexemes := by
  induction h with
  | keyword word =>
    cases word <;> exact Script.reads_of_decide (by decide)
  | named h => exact Script.reads_of_isPlain h
  | @object properties _ _ ih =>
    have hopen : Reads "\x7b " [] := Script.reads_of_decide (by decide)
    have hclose : Reads " \x7d" [] := Script.reads_of_decide (by decide)
    have hseparator : Reads "; " [] := Script.reads_of_decide (by decide)
    have hmembers := hseparator.intercalate propertyText
      fun property (hproperty : property ∈ properties) =>
        (reads_propertyHead property.name property.optional).append (ih property hproperty)
    have hall := (hopen.append hmembers).append hclose
    rw [text, lexemes, lexemesOfProperties_eq, propertyTexts_eq_map]
    simpa using hall
  | @array item _ ih =>
    have hopen : Reads "(" [] := Script.reads_of_decide (by decide)
    have hclose : Reads ")[]" [] := Script.reads_of_decide (by decide)
    have hmark : Reads "[]" [] := Script.reads_of_decide (by decide)
    rw [text, lexemes]
    split
    · simpa using (hopen.append ih).append hclose
    · simpa using ih.append hmark
  | @union members hlength _ ih =>
    have hseparator : Reads " | " [] := Script.reads_of_decide (by decide)
    have hmembers := hseparator.intercalate text ih
    have hne : members ≠ [] := List.ne_nil_of_length_pos (by omega)
    rw [text_union hne, lexemes, lexemesOfAll_eq]
    exact hmembers
  | any => exact Script.reads_of_decide (by decide)
  | noted h => exact reads_noted h

end TypeExpr

end TypedClient
