import Mathlib.Tactic.ByContra
import TypedClient.Artifact.Emit
import TypedClient.Proofs.Distinct
import TypedClient.Proofs.Script.Lexeme

namespace TypedClient

open Script (Lexeme Reads Mode)
open Text (closes)

namespace Text

theorem closes_comment (text : String) : closes (comment text).toList = false := by
  rw [comment, String.toList_ofList]
  exact closes_commentChars text.toList

theorem isSpace_of_isLineTerminator {c : Char} (h : Script.isLineTerminator c = true) :
    isSpace c = true := by
  have hspaces : (['\n', '\r', '\u2028', '\u2029'].all isSpace) = true := by decide
  apply List.all_eq_true.mp hspaces
  simpa [Script.isLineTerminator, or_assoc] using h

theorem isLineTerminator_of_mem_comment {text : String} {c : Char}
    (h : c ∈ (comment text).toList) : Script.isLineTerminator c = false := by
  rw [comment, String.toList_ofList] at h
  by_cases hspace : isSpace c = true
  · rw [eq_space_of_mem_commentChars h hspace]
    decide
  · by_contra hline
    apply hspace
    apply isSpace_of_isLineTerminator
    simpa using hline

theorem mem_intercalate {separator : String} {parts : List String} {c : Char}
    (h : c ∈ (separator.intercalate parts).toList) :
    c ∈ separator.toList ∨ ∃ part ∈ parts, c ∈ part.toList := by
  induction parts with
  | nil => cases h
  | cons part parts ih =>
    cases parts with
    | nil => exact .inr ⟨part, by simp, by simpa using h⟩
    | cons next parts =>
      rw [String.intercalate_cons_cons, String.toList_append, String.toList_append,
        List.mem_append, List.mem_append] at h
      rcases h with (h | h) | h
      · exact .inr ⟨part, by simp, h⟩
      · exact .inl h
      · rcases ih h with h | ⟨other, hother, h⟩
        · exact .inl h
        · exact .inr ⟨other, List.mem_cons_of_mem _ hother, h⟩

end Text

namespace Artifact

theorem isLineTerminator_of_mem_bannerSource {document : Document} {c : Char}
    (h : c ∈ (bannerSource document).toList) : Script.isLineTerminator c = false := by
  unfold bannerSource at h
  dsimp only at h
  split at h
  · rw [String.toList_append, List.mem_append] at h
    rcases h with h | h
    · exact List.all_eq_true.mp (by decide : (" from ".toList.all fun c =>
        Script.isLineTerminator c == false) = true) c h |> eq_of_beq
    · rcases Text.mem_intercalate h with h | ⟨part, hpart, h⟩
      · obtain rfl : c = ' ' := by simpa using h
        decide
      · obtain ⟨title, -, hsome⟩ := List.mem_filterMap.mp (List.mem_filter.mp hpart).1
        obtain ⟨text, -, rfl⟩ := Option.map_eq_some_iff.mp hsome
        exact Text.isLineTerminator_of_mem_comment h
  · cases h

def bannerLexemes (document : Document) : List Lexeme := [
  .blockComment "/* eslint-disable */",
  .lineComment ("// Generated by clientgen" ++ bannerSource document ++ ". Do not edit by hand.")]

theorem reads_of_newline {text : String} {found : List Lexeme} (h : Reads ("\n" ++ text) found) :
    Reads text found := by
  have hstep : Script.run .code ("\n" ++ text).toList = Script.run .code text.toList := by
    rw [String.toList_append]
    cases hrun : Script.run .code text.toList <;> simp [Script.run, Mode.step, hrun]
  exact hstep.symm.trans h

theorem reads_banner (document : Document) {rest : String} {found : List Lexeme}
    (hrest : Reads rest found) (hhead : rest.toList.head? = some '\n') :
    Reads (banner document ++ rest) (bannerLexemes document ++ found) := by
  have hnotice : ∀ c ∈ (" Generated by clientgen" ++ bannerSource document ++
      ". Do not edit by hand.").toList, Script.isLineTerminator c = false := by
    intro c hc
    rw [String.toList_append, String.toList_append, List.mem_append, List.mem_append] at hc
    rcases hc with (hc | hc) | hc
    · exact eq_of_beq (List.all_eq_true.mp (by decide : (" Generated by clientgen".toList.all
        fun c => Script.isLineTerminator c == false) = true) c hc)
    · exact isLineTerminator_of_mem_bannerSource hc
    · exact eq_of_beq (List.all_eq_true.mp (by decide : (". Do not edit by hand.".toList.all
        fun c => Script.isLineTerminator c == false) = true) c hc)
  obtain ⟨tail, htail⟩ := List.head?_eq_some_iff.mp hhead
  obtain rfl : rest = "\n" ++ String.ofList tail := by
    rw [← String.toList_inj, htail]
    simp
  have hblock := Script.reads_blockComment (by decide : closes " eslint-disable ".toList = false)
  have hfeed : Reads "\n" [] := Script.reads_of_decide (by decide)
  have hall := ((hblock.append hfeed).append (Script.reads_lineComment hnotice)).append
    (reads_of_newline hrest)
  have hopen : "/*" ++ (" eslint-disable " ++ ("*/" ++ ("\n" ++ ("//" ++
      " Generated by clientgen")))) = "/* eslint-disable */\n// Generated by clientgen" := by decide
  have hslashes : "//" ++ " Generated by clientgen" = "// Generated by clientgen" := by decide
  unfold banner bannerLexemes
  rw [← hopen, ← hslashes]
  simp only [String.append_assoc, List.cons_append, List.nil_append] at hall ⊢
  exact hall

end Artifact

def docLexemes (operation : Operation) : List Lexeme :=
  let lines := docLines operation.summary operation.description operation.deprecated
  if lines.isEmpty then [] else [.blockComment ("\n    ".intercalate lines)]

theorem head_joined (lines : List String) {rest : String} (h : rest.toList.head? ≠ some '/') :
    (String.join (lines.map ("\n    " ++ ·)) ++ rest).toList.head? ≠ some '/' := by
  cases lines with
  | nil => simpa using h
  | cons line lines => simp

theorem closes_joined {lines : List String} (h : ∀ line ∈ lines, closes line.toList = false)
    {rest : String} (hrest : closes rest.toList = false) (hhead : rest.toList.head? ≠ some '/') :
    closes (String.join (lines.map ("\n    " ++ ·)) ++ rest).toList = false := by
  induction lines with
  | nil => simpa using hrest
  | cons line lines ih =>
    have hlines := ih fun line hline => h line (List.mem_cons_of_mem _ hline)
    have hindented : closes ("\n    " ++ line).toList = false := by
      have hline := h line (by simp)
      simpa [Text.closes_cons] using hline
    rw [List.map_cons, String.join_cons, String.append_assoc, String.toList_append]
    exact Text.closes_append hindented hlines (head_joined lines hhead)

theorem intercalate_cons (separator line : String) (lines : List String) :
    separator.intercalate (line :: lines) = line ++ String.join (lines.map (separator ++ ·)) := by
  induction lines generalizing line with
  | nil => simp
  | cons next lines ih =>
    rw [String.intercalate_cons_cons, ih, List.map_cons, String.join_cons, String.append_assoc,
      String.append_assoc]

theorem reads_block {lines : List String} (h : ∀ line ∈ lines, closes line.toList = false) :
    Reads (String.join (("/**" :: lines ++ [" */"]).map ("\n    " ++ ·)))
      [.blockComment ("\n    ".intercalate ("/**" :: lines ++ [" */"]))] := by
  have hinner : closes ("*" ++ (String.join (lines.map ("\n    " ++ ·)) ++ "\n     ")).toList =
      false := by
    rw [String.toList_append]
    exact Text.closes_append (by decide) (closes_joined h (by decide) (by decide))
      (head_joined lines (by decide))
  have hindent : Reads "\n    " [] := Script.reads_of_decide (by decide)
  have hall := hindent.append (Script.reads_blockComment hinner)
  have hopen : "/*" ++ "*" = "/**" := by decide
  have hclose : "\n    " ++ " */" = "\n     " ++ "*/" := by decide
  rw [List.cons_append, intercalate_cons, List.map_cons, String.join_cons, List.map_append,
    String.join_append, List.map_singleton, String.join_cons, String.join_nil, String.append_empty,
    hclose, ← hopen]
  simp only [String.append_assoc, List.nil_append] at hall ⊢
  exact hall

theorem closes_docLine {line : String} (h : closes line.toList = false) :
    closes (if line.isEmpty then " *" else " * " ++ line).toList = false := by
  split
  · decide
  · rw [String.toList_append]
    change closes (' ' :: '*' :: ' ' :: line.toList) = false
    rwa [Text.closes_cons (by decide), Text.closes_star (by simp), Text.closes_cons (by decide)]

theorem mem_intersperse {separator line : String} {lines : List String}
    (h : line ∈ lines.intersperse separator) : line = separator ∨ line ∈ lines := by
  induction lines with
  | nil => cases h
  | cons first lines ih =>
    cases lines with
    | nil => exact .inr h
    | cons second lines =>
      rw [List.intersperse_cons_cons, List.mem_cons, List.mem_cons] at h
      rcases h with rfl | rfl | h
      · exact .inr (by simp)
      · exact .inl rfl
      · rcases ih h with h | h
        · exact .inl h
        · exact .inr (List.mem_cons_of_mem _ h)

theorem docLines_texts (summary description : Option String) (deprecated : Bool) :
    docLines summary description deprecated = [] ∨ ∃ texts : List String,
      docLines summary description deprecated = "/**" ::
        texts.map (fun line => if line.isEmpty then " *" else " * " ++ line) ++ [" */"] ∧
      ∀ text ∈ texts, text = "" ∨ text = "@deprecated" ∨ ∃ raw, text = Text.comment raw := by
  let texts := distinct (([summary, description].filterMap (·.map Text.comment)).filter (!·.isEmpty))
  have htexts : ∀ text ∈ texts, ∃ raw, text = Text.comment raw := by
    intro text htext
    have hmem := List.mem_filter.mp (mem_distinct.mp htext)
    obtain ⟨source, -, hsome⟩ := List.mem_filterMap.mp hmem.1
    obtain ⟨raw, -, rfl⟩ := Option.map_eq_some_iff.mp hsome
    exact ⟨raw, rfl⟩
  let body := texts.intersperse "" ++ if deprecated then ["@deprecated"] else []
  change (if body.isEmpty then [] else _) = [] ∨ _
  by_cases hempty : body.isEmpty = true
  · exact .inl (if_pos hempty)
  refine .inr ⟨body, if_neg hempty, ?_⟩
  intro text htext
  rcases List.mem_append.mp htext with htext | htext
  · rcases mem_intersperse htext with rfl | htext
    · exact .inl rfl
    · exact .inr (.inr (htexts text htext))
  · split at htext
    · exact .inr (.inl (List.mem_singleton.mp htext))
    · cases htext

theorem docLines_eq (summary description : Option String) (deprecated : Bool) :
    docLines summary description deprecated = [] ∨
      ∃ lines, docLines summary description deprecated = "/**" :: lines ++ [" */"] ∧
        ∀ line ∈ lines, closes line.toList = false := by
  rcases docLines_texts summary description deprecated with hnone | ⟨texts, hlines, htexts⟩
  · exact .inl hnone
  refine .inr ⟨_, hlines, ?_⟩
  intro line hline
  obtain ⟨text, htext, rfl⟩ := List.mem_map.mp hline
  rcases htexts text htext with rfl | rfl | ⟨raw, rfl⟩
  · decide
  · decide
  · exact closes_docLine (Text.closes_comment raw)

theorem reads_doc (operation : Operation) :
    Reads (String.join ((docLines operation.summary operation.description
      operation.deprecated).map ("\n    " ++ ·))) (docLexemes operation) := by
  unfold docLexemes
  rcases docLines_eq operation.summary operation.description operation.deprecated with
    hlines | ⟨lines, hlines, hcloses⟩
  · rw [hlines]
    exact Script.reads_empty
  · rw [hlines]
    exact reads_block hcloses

end TypedClient
