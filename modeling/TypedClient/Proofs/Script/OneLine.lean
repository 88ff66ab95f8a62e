import TypedClient.Proofs.Script.CommentBlock
import TypedClient.Proofs.TypeExpr.Faithful

namespace TypedClient.Script

def OneLine (text : String) : Prop := ∀ c ∈ text.toList, isLineTerminator c = false

theorem OneLine.append {front back : String} (hfront : OneLine front) (hback : OneLine back) :
    OneLine (front ++ back) := by
  intro c hc
  rw [String.toList_append, List.mem_append] at hc
  exact hc.elim (hfront c) (hback c)

theorem OneLine.intercalate {separator : String} {parts : List String}
    (hseparator : OneLine separator) (hparts : ∀ part ∈ parts, OneLine part) :
    OneLine (separator.intercalate parts) := by
  intro c hc
  rcases Text.mem_intercalate hc with hc | ⟨part, hpart, hc⟩
  · exact hseparator c hc
  · exact hparts part hpart c hc

theorem not_isLineTerminator_of_all {text : List Char} {c : Char}
    (h : (text.all fun c => !isLineTerminator c) = true) (hc : c ∈ text) :
    isLineTerminator c = false := by
  simpa using List.all_eq_true.mp h c hc

theorem oneLine_of_all {text : String}
    (h : (text.toList.all fun c => !isLineTerminator c) = true) : OneLine text :=
  fun _ hc => not_isLineTerminator_of_all h hc

theorem isLineTerminator_of_isTokenChar {c : Char} (h : isTokenChar c = true) :
    isLineTerminator c = false := by
  have hall : (['\n', '\r', '\u2028', '\u2029'].all fun c => !isTokenChar c) = true := by
    decide +kernel
  by_contra hline
  have hterminator : isLineTerminator c = true := by simpa using hline
  have hnot := List.all_eq_true.mp hall c (by simpa [isLineTerminator, or_assoc] using hterminator)
  rw [h] at hnot
  cases hnot

theorem isLineTerminator_of_mem_escapeChar {c d : Char} (h : c ∈ Text.escapeChar d) :
    isLineTerminator c = false := by
  have hescape := Text.isEscape_escapeChar d
  generalize Text.escapeChar d = written at h hescape
  cases hescape with
  | plain _ _ hfeed hreturn hline hparagraph =>
    obtain rfl := List.mem_singleton.mp h
    simp [isLineTerminator, hfeed, hreturn, hline, hparagraph]
  | backslash => exact not_isLineTerminator_of_all (by decide) h
  | quote => exact not_isLineTerminator_of_all (by decide) h
  | feed => exact not_isLineTerminator_of_all (by decide) h
  | carriageReturn => exact not_isLineTerminator_of_all (by decide) h
  | line => exact not_isLineTerminator_of_all (by decide) h
  | paragraph => exact not_isLineTerminator_of_all (by decide) h

theorem oneLine_propertyKey (name : String) : OneLine (Text.propertyKey name) := by
  unfold Text.propertyKey
  split
  next h =>
    intro c hc
    have hchar := (Naming.isName_of_isIdentifier h).chars c hc
    exact isLineTerminator_of_isTokenChar (by simp [isTokenChar, hchar])
  next =>
    have hquote : OneLine "\"" := oneLine_of_all (by decide)
    refine (hquote.append ?_).append hquote
    intro c hc
    rw [Text.escapeLiteral, String.toList_ofList] at hc
    obtain ⟨d, -, hc⟩ := List.mem_flatMap.mp hc
    exact isLineTerminator_of_mem_escapeChar hc

theorem oneLine_propertyHead (name : String) (optional : Bool) :
    OneLine (TypeExpr.propertyHead name optional) := by
  have hmark : OneLine (if optional then "?" else "") := by
    cases optional <;> exact oneLine_of_all (by decide)
  exact ((oneLine_propertyKey name).append hmark).append (oneLine_of_all (by decide))

theorem oneLine_text {type : TypeExpr}
    (h : TypeExpr.IsBuilt Reader.IsTypeName Synthesis.IsNote type) : OneLine type.text := by
  induction h with
  | keyword word => cases word <;> exact oneLine_of_all (by decide)
  | named h => exact fun c hc => isLineTerminator_of_isTokenChar (h.chars c hc)
  | @object properties _ _ ih =>
    rw [TypeExpr.text, TypeExpr.propertyTexts_eq_map]
    refine ((oneLine_of_all (by decide)).append ?_).append (oneLine_of_all (by decide))
    refine .intercalate (oneLine_of_all (by decide)) ?_
    intro part hpart
    obtain ⟨property, hproperty, rfl⟩ := List.mem_map.mp hpart
    exact (oneLine_propertyHead property.name property.optional).append (ih property hproperty)
  | @array item _ ih =>
    rw [TypeExpr.text]
    split
    · exact ((oneLine_of_all (by decide)).append ih).append (oneLine_of_all (by decide))
    · exact ih.append (oneLine_of_all (by decide))
  | @union members hlength _ ih =>
    have hne : members ≠ [] := List.ne_nil_of_length_pos (by omega)
    rw [TypeExpr.text_union hne]
    refine .intercalate (oneLine_of_all (by decide)) ?_
    intro part hpart
    obtain ⟨member, hmember, rfl⟩ := List.mem_map.mp hpart
    exact ih member hmember
  | any => exact oneLine_of_all (by decide)
  | noted h =>
    obtain ⟨text, rfl⟩ := h
    have hnote : OneLine (Text.comment text) := fun c hc => Text.isLineTerminator_of_mem_comment hc
    exact ((oneLine_of_all (by decide)).append hnote).append (oneLine_of_all (by decide))

end TypedClient.Script
