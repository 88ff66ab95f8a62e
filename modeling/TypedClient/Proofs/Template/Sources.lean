import Mathlib.Data.List.Forall2
import Mathlib.Data.Option.Basic
import TypedClient.Template.Parse
import TypedClient.Proofs.Artifact.Layout

/-!
The texts of the built-in templates, what reading them gives, and the artifacts that are rendered
from them. White space beside a tag is removed while a template is read, before there are values.
-/

namespace TypedClient

namespace Template

def typesSource : String :=
  "\x7b\x7b banner \x7d\x7d\n" ++
  "\x7b%- for decl in declarations %\x7d\n" ++
  "\n" ++
  "\x7b\x7b decl \x7d\x7d\n" ++
  "\x7b%- endfor %\x7d\n" ++
  "\x7b%- if declarations | length == 0 %\x7d\n" ++
  "\n" ++
  "export \x7b\x7d;\n" ++
  "\x7b%- endif %\x7d\n"

def groupSource : String :=
  "\x7b\x7b banner \x7d\x7d\n" ++
  "\n" ++
  "import type \x7b \x7b\x7b request_type \x7d\x7d \x7d from " ++
  "\"./\x7b\x7b request_module \x7d\x7d\";\n" ++
  "import type * as \x7b\x7b types_namespace \x7d\x7d from " ++
  "\"./\x7b\x7b types_module \x7d\x7d\";\n" ++
  "\x7b%- for decl in declarations %\x7d\n" ++
  "\n" ++
  "\x7b\x7b decl \x7d\x7d\n" ++
  "\x7b%- endfor %\x7d\n" ++
  "\n" ++
  "export function \x7b\x7b factory \x7d\x7d(request: \x7b\x7b request_type \x7d\x7d) \x7b\n" ++
  "  return \x7b\n" ++
  "\x7b%- for op in operations %\x7d\n" ++
  "\x7b%- for line in op.doc %\x7d\n" ++
  "    \x7b\x7b line \x7d\x7d\n" ++
  "\x7b%- endfor %\x7d\n" ++
  "    \x7b\x7b op.name \x7d\x7d(\x7b\x7b op.params \x7d\x7d): " ++
  "Promise<\x7b\x7b op.returns \x7d\x7d> \x7b\n" ++
  "      return request<\x7b\x7b op.returns \x7d\x7d>(\"\x7b\x7b op.path \x7d\x7d\", " ++
  "\"\x7b\x7b op.method \x7d\x7d\", \x7b\x7b op.data \x7d\x7d, signal);\n" ++
  "    \x7d,\n" ++
  "\x7b%- endfor %\x7d\n" ++
  "  \x7d;\n" ++
  "\x7d\n"

mutual

def compactParts : List Part → List Part
  | [] => []
  | part :: rest => compactPart part ++ compactParts rest

def compactPart : Part → List Part
  | .text content => if content = "" then [] else [.text content]
  | .value path => [.value path]
  | .each name source body => [.each name source (compactParts body)]
  | .whenLength source length body => [.whenLength source length (compactParts body)]

end

theorem renderParts_singleton (scope : Scope) (part : Part) :
    renderParts scope [part] = part.render scope := by
  cases h : part.render scope with
  | error fault =>
    rw [renderParts, h]
    rfl
  | ok text => rw [renderParts_cons h (renderParts.eq_1 scope), String.append_empty]

theorem renderParts_append (scope : Scope) (front back : List Part) :
    renderParts scope (front ++ back) =
      (do return (← renderParts scope front) ++ (← renderParts scope back)) := by
  induction front with
  | nil =>
    cases h : renderParts scope back <;> simp [renderParts, h, bind, Except.bind, pure, Except.pure]
  | cons part rest ih =>
    rw [List.cons_append, renderParts, renderParts, ih]
    cases part.render scope <;> cases renderParts scope rest <;> cases renderParts scope back <;>
      simp [bind, Except.bind, pure, Except.pure, String.append_assoc]

mutual

theorem renderParts_compactParts (scope : Scope) :
    ∀ parts, renderParts scope (compactParts parts) = renderParts scope parts
  | [] => rfl
  | part :: rest => by
    rw [compactParts, renderParts_append, renderParts_compactPart scope part,
      renderParts_compactParts scope rest, renderParts]

theorem renderParts_compactPart (scope : Scope) :
    ∀ part, renderParts scope (compactPart part) = part.render scope
  | .text content => by
    by_cases h : content = ""
    · rw [compactPart, if_pos h, renderParts, Part.render, h]
    · rw [compactPart, if_neg h, renderParts_singleton]
  | .value path => renderParts_singleton scope _
  | .each name source body => by
    have hbody : ∀ scope, renderParts scope (compactParts body) = renderParts scope body :=
      fun scope => renderParts_compactParts scope body
    simp only [compactPart, renderParts_singleton, Part.render, hbody]
  | .whenLength source length body => by
    simp only [compactPart, renderParts_singleton, Part.render, renderParts_compactParts scope body]

end

mutual

def sameParts : List Part → List Part → Bool
  | [], [] => true
  | part :: rest, part' :: rest' => samePart part part' && sameParts rest rest'
  | _, _ => false

def samePart : Part → Part → Bool
  | .text content, .text content' => content == content'
  | .value path, .value path' => path == path'
  | .each name source body, .each name' source' body' =>
    name == name' && source == source' && sameParts body body'
  | .whenLength source length body, .whenLength source' length' body' =>
    source == source' && length == length' && sameParts body body'
  | _, _ => false

end

mutual

theorem eq_of_sameParts : ∀ {parts others : List Part}, sameParts parts others = true →
    parts = others
  | [], [], _ => rfl
  | part :: rest, part' :: rest', h => by
    obtain ⟨hpart, hrest⟩ := Bool.and_eq_true_iff.mp h
    rw [eq_of_samePart hpart, eq_of_sameParts hrest]

theorem eq_of_samePart : ∀ {part other : Part}, samePart part other = true → part = other
  | .text content, .text content', h => by simpa [samePart] using h
  | .value path, .value path', h => by simpa [samePart] using h
  | .each name source body, .each name' source' body', h => by
    simp only [samePart, Bool.and_eq_true, beq_iff_eq] at h
    obtain ⟨⟨rfl, rfl⟩, hbody⟩ := h
    rw [eq_of_sameParts hbody]
  | .whenLength source length body, .whenLength source' length' body', h => by
    simp only [samePart, Bool.and_eq_true, beq_iff_eq] at h
    obtain ⟨⟨rfl, rfl⟩, hbody⟩ := h
    rw [eq_of_sameParts hbody]

end

def parts? (source : List Char) : Option (List Part) := do
  let fragments ← fragments none [] source
  let assembly ← (trimFragments false fragments).foldlM Assembly.take ⟨[], []⟩
  guard assembly.blocks.isEmpty
  return assembly.parts.reverse

theorem parse?_eq (source : String) :
    Template.parse? source = (parts? source.toList).map Template.mk := by
  simp only [Template.parse?, parts?, Option.map_bind, Function.comp_def, Option.bind_eq_bind,
    Option.pure_def, Option.map_some]

theorem exists_of_parts? {source : String} {parts : List Part}
    (h : (parts? source.toList).any (fun found => sameParts (compactParts found) parts) = true) :
    ∃ template, Template.parse? source = some template ∧ compactParts template.parts = parts := by
  rw [parse?_eq]
  cases hfound : parts? source.toList with
  | none => simp [hfound] at h
  | some found =>
    rw [hfound] at h
    exact ⟨⟨found⟩, rfl, eq_of_sameParts h⟩

-- The source is turned into characters before it is read, since evaluating the text itself would
-- decode its bytes; `delta` unfolds it without an equation lemma for the same reason.

theorem parse?_typesSource :
    ∃ template, Template.parse? typesSource = some template ∧
      compactParts template.parts = types.parts := by
  apply exists_of_parts?
  delta typesSource
  simp only [String.toList_append]
  repeat rw [String.toList_ofList]
  decide +kernel

theorem parse?_groupSource :
    ∃ template, Template.parse? groupSource = some template ∧
      compactParts template.parts = group.parts := by
  apply exists_of_parts?
  delta groupSource
  simp only [String.toList_append]
  repeat rw [String.toList_ofList]
  decide +kernel

theorem render_of_compactParts {template other : Template}
    (h : compactParts template.parts = other.parts) (bindings : Mapping Json) :
    template.render bindings = other.render bindings := by
  rw [Template.render, ← renderParts_compactParts, h, Template.render]

inductive Trimmed : Fragment → Fragment → Prop
  | text {front back : List Char} (content : List Char) : front.all Text.isSpace = true →
      back.all Text.isSpace = true → Trimmed (.text (front ++ content ++ back)) (.text content)
  | tag (kind : TagKind) (trimsBefore trimsAfter : Bool) (content : List Char) :
      Trimmed (.tag kind trimsBefore trimsAfter content) (.tag kind trimsBefore trimsAfter content)

theorem exists_trimStart (text : List Char) :
    ∃ front, front.all Text.isSpace = true ∧ text = front ++ trimStart text :=
  ⟨text.takeWhile Text.isSpace, List.all_takeWhile, List.takeWhile_append_dropWhile.symm⟩

theorem exists_trimEnd (text : List Char) :
    ∃ back, back.all Text.isSpace = true ∧ text = trimEnd text ++ back := by
  obtain ⟨front, hfront, htext⟩ := exists_trimStart text.reverse
  refine ⟨front.reverse, by rwa [List.all_reverse], ?_⟩
  calc text = text.reverse.reverse := text.reverse_reverse.symm
    _ = (front ++ trimStart text.reverse).reverse := by rw [← htext]
    _ = trimEnd text ++ front.reverse := List.reverse_append

theorem Trimmed.start {text kept : List Char} (h : Trimmed (.text text) (.text kept)) :
    Trimmed (.text text) (.text (trimStart kept)) := by
  obtain ⟨more, hmore, hkept⟩ := exists_trimStart kept
  cases h with
  | @text front back _ hfront hback =>
    have htext : front ++ kept ++ back = front ++ more ++ trimStart kept ++ back := by
      rw [List.append_assoc front more, ← hkept]
    rw [htext]
    exact .text (trimStart kept) (by simp [hfront, hmore]) hback

theorem Trimmed.end {text kept : List Char} (h : Trimmed (.text text) (.text kept)) :
    Trimmed (.text text) (.text (trimEnd kept)) := by
  obtain ⟨more, hmore, hkept⟩ := exists_trimEnd kept
  cases h with
  | @text front back _ hfront hback =>
    have htext : front ++ kept ++ back = front ++ trimEnd kept ++ (more ++ back) := by
      rw [← List.append_assoc, List.append_assoc front (trimEnd kept), ← hkept]
    rw [htext]
    exact .text (trimEnd kept) hfront (by simp [hmore, hback])

theorem forall₂_trimFragments (after : Bool) (fragments : List Fragment) :
    List.Forall₂ Trimmed fragments (trimFragments after fragments) := by
  induction fragments generalizing after with
  | nil => exact .nil
  | cons fragment rest ih =>
    cases fragment with
    | tag kind trimsBefore trimsAfter content => exact .cons (.tag _ _ _ _) (ih trimsAfter)
    | text content =>
      have hwhole : Trimmed (.text content) (.text content) := by
        simpa using @Trimmed.text [] [] content rfl rfl
      have hstart : Trimmed (.text content)
          (.text (if after then trimStart content else content)) := by
        split
        · exact hwhole.start
        · exact hwhole
      refine .cons ?_ (ih false)
      split
      · exact hstart.end
      · exact hstart

end Template

namespace Artifact

open Template

/-- The layouts are `typesText` and `groupText`. -/
theorem artifact_layouts :
    (∃ template, Template.parse? typesSource = some template ∧
      template.render = Template.types.render) ∧
    (∃ template, Template.parse? groupSource = some template ∧
      template.render = Template.group.render) ∧
    (∀ banner declarations, Template.types.render
      [("banner", .text banner), ("declarations", texts declarations)] =
        .ok (typesText banner declarations)) ∧
    (∀ run group scope signatures declarations, run.templates = .builtin →
      groupContent run group scope = .ok (signatures, declarations) →
      emitGroup run group scope = .ok (groupText run.options run.banner (factoryName group.tag)
        (declarations.map (·.text)) (signatures.map (·.callable)))) ∧
    (∀ after fragments, List.Forall₂ Trimmed fragments (trimFragments after fragments)) ∧
    (∀ scope path text, find scope path = .ok (.text text) →
      Part.render scope (.value path) = .ok text) := by
  refine ⟨?_, ?_, render_types, ?_, forall₂_trimFragments, ?_⟩
  · obtain ⟨template, hparse, hparts⟩ := parse?_typesSource
    exact ⟨template, hparse, funext (render_of_compactParts hparts)⟩
  · obtain ⟨template, hparse, hparts⟩ := parse?_groupSource
    exact ⟨template, hparse, funext (render_of_compactParts hparts)⟩
  · intro run group scope signatures declarations hrun hcontent
    rw [emitGroup_builtin run hrun, hcontent]
    rfl
  · intro scope path text hvalue
    rw [Part.render, hvalue]
    rfl

theorem artifact_layouts_markup :
    let banner := " // <b> & c "
    let raw : Json := .object [("paths", .object [("/a&b", .object [
      ("get", .object [("operationId", .text "a"), ("summary", .text "<i>")]),
      ("delete", .object [("operationId", .text "b")])])])]
    let text := " // <b> & c \n\n" ++
      "import type \x7b RequestFn \x7d from \"./request\";\n" ++
      "import type * as Types from \"./types\";\n\n" ++
      "export function createDefaultApi(request: RequestFn) \x7b\n" ++
      "  return \x7b\n" ++
      "    /**\n     * <i>\n     */\n" ++
      "    a(signal?: AbortSignal): Promise<void> \x7b\n" ++
      "      return request<void>(\"/a&b\", \"GET\", undefined, signal);\n    \x7d,\n" ++
      "    b(signal?: AbortSignal): Promise<void> \x7b\n" ++
      "      return request<void>(\"/a&b\", \"DELETE\", undefined, signal);\n    \x7d,\n" ++
      "  \x7d;\n\x7d\n"
    ∃ document group, Document.ofJson raw = .ok document ∧ document.tagGroups "default" = [group] ∧
      emitGroup ⟨document, [], {}, .builtin, banner⟩ group "a" = .ok text ∧
      Template.types.render [("banner", .text banner), ("declarations", texts [])] =
        .ok " // <b> & c \n\nexport \x7b\x7d;\n" ∧
      Part.render [("decl", .text " <b> ")] (.value ["decl"]) = .ok " <b> " := by
  intro banner raw text
  have hwritten : ((Document.ofJson raw).toOption.map fun document =>
      (document.tagGroups "default").map fun group =>
        (groupContent ⟨document, [], {}, .builtin, banner⟩ group "a").toOption.map fun content =>
          groupText {} banner (factoryName group.tag) (content.2.map (·.text))
            (content.1.map (·.callable))) = some [some text] := by
    decide +kernel
  obtain ⟨document, hread, hgroups⟩ := Option.map_eq_some_iff.mp hwritten
  obtain ⟨group, hgroup, hcontent⟩ := List.map_eq_singleton_iff.mp hgroups
  obtain ⟨⟨signatures, declarations⟩, hcontent, htext⟩ := Option.map_eq_some_iff.mp hcontent
  obtain ⟨-, -, htypes, hclient, -, hvalue⟩ := artifact_layouts
  refine ⟨document, group, Outcome.ok_of_toOption hread, hgroup, ?_, htypes banner [],
    hvalue _ _ _ rfl⟩
  rw [hclient _ group "a" signatures declarations rfl (Outcome.ok_of_toOption hcontent)]
  exact congrArg Except.ok htext

end Artifact

end TypedClient
