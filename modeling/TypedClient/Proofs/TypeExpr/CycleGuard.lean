import TypedClient.Proofs.Text.CommentSafety
import TypedClient.Proofs.TypeExpr.Expansion

/-!
Expansion is cut short exactly where references lead back to themselves. Where they do not, a type
is what inlining every reference gives.
-/

namespace TypedClient

open Relation (ReflTransGen TransGen)

namespace Document

def LeadsTo (document : Document) (pointer next : String) : Prop :=
  registryKey? next = none ∧
    ∃ target, document.resolve? pointer = some target ∧ next ∈ target.pointers

def IsCyclic (document : Document) (pointer : String) : Prop :=
  TransGen document.LeadsTo pointer pointer

def MeetsCycle (document : Document) (pointer : String) : Prop :=
  ∃ other, ReflTransGen document.LeadsTo pointer other ∧ document.IsCyclic other

def HasCycleBelow (document : Document) (schema : Schema) : Prop :=
  ∃ pointer ∈ schema.pointers, registryKey? pointer = none ∧ document.MeetsCycle pointer

theorem MeetsCycle.next {document : Document} {pointer : String} (h : document.MeetsCycle pointer) :
    ∃ next, document.LeadsTo pointer next ∧ document.MeetsCycle next := by
  obtain ⟨other, hpath, hcycle⟩ := h
  rcases hpath.cases_head with rfl | ⟨next, hleads, hpath⟩
  · obtain ⟨next, hleads, hpath⟩ := TransGen.head'_iff.mp hcycle
    exact ⟨next, hleads, pointer, hpath, hcycle⟩
  · exact ⟨next, hleads, other, hpath, hcycle⟩

end Document

namespace TypeExpr

mutual

def notes : TypeExpr → List String
  | .keyword _ => []
  | .named _ => []
  | .object properties => notesOfProperties properties
  | .array item => notes item
  | .union members => notesOfAll members
  | .any note => note.toList

def notesOfAll : List TypeExpr → List String
  | [] => []
  | member :: rest => notes member ++ notesOfAll rest

def notesOfProperties : List (Property TypeExpr) → List String
  | [] => []
  | ⟨_, _, type⟩ :: rest => notes type ++ notesOfProperties rest

end

theorem mem_notesOfAll {members : List TypeExpr} {note : String} :
    note ∈ notesOfAll members ↔ ∃ member ∈ members, note ∈ member.notes := by
  induction members with
  | nil => simp [notesOfAll]
  | cons member rest ih => simp [notesOfAll, ih]

theorem mem_notesOfProperties {properties : List (Property TypeExpr)} {note : String} :
    note ∈ notesOfProperties properties ↔ ∃ property ∈ properties, note ∈ property.type.notes := by
  induction properties with
  | nil => simp [notesOfProperties]
  | cons property rest ih => simp [notesOfProperties, ih]

end TypeExpr

theorem Schema.mem_notes_shape {types : Schema → TypeExpr} {schema : Schema} {note : String}
    (hreference : schema.isReference = false) :
    note ∈ (schema.shape types).notes ↔ ∃ child ∈ schema.children, note ∈ (types child).notes := by
  cases schema with
  | reference pointer => cases hreference
  | object properties required =>
    cases properties with
    | nil => simp [shape, children, TypeExpr.notes]
    | cons property rest =>
      rw [shape, TypeExpr.notes, TypeExpr.mem_notesOfProperties]
      simp only [children, List.mem_map, exists_exists_and_eq_and]
      simp
  | array item => simp [shape, children, TypeExpr.notes]
  | primitive kind => cases kind <;> simp [shape, children, TypeExpr.notes]
  | union alternatives =>
    cases alternatives with
    | nil => simp [shape, children, TypeExpr.notes]
    | cons first others =>
      cases others with
      | nil => simp [shape, children]
      | cons second rest =>
        show note ∈ (TypeExpr.union ((first :: second :: rest).map types)).notes ↔ _
        rw [TypeExpr.notes, TypeExpr.mem_notesOfAll]
        simp only [children, List.mem_map, exists_exists_and_eq_and]

def circularNote (pointer : String) : String :=
  Text.comment ("circular reference: " ++ pointer)

theorem head_comment_append {front : String} {c : Char} {rest : List Char}
    (hfront : front.toList = c :: rest) (hmark : Text.plainMark c = c)
    (hspace : Text.isSpace c = false) (back : String) :
    (Text.comment (front ++ back)).toList.head? = some c := by
  have hchars : (front ++ back).toList = c :: (rest ++ back.toList) := by
    rw [String.toList_append, hfront, List.cons_append]
  exact Text.head_comment hchars hmark hspace

theorem circularNote_not_mem_unresolved (pointer other : String) :
    circularNote pointer ∉ (unresolved other).notes := by
  intro hmem
  have he : circularNote pointer = Text.comment ("unresolved reference: " ++ other) :=
    List.mem_singleton.mp hmem
  have hcircular : (circularNote pointer).toList.head? = some 'c' :=
    head_comment_append rfl (by decide) (by decide) pointer
  have hunresolved : (Text.comment ("unresolved reference: " ++ other)).toList.head? = some 'u' :=
    head_comment_append rfl (by decide) (by decide) other
  rw [he, hunresolved] at hcircular
  exact absurd hcircular (by decide)

namespace Synthesis

variable {synthesis : Synthesis}

theorem circularNote_not_mem_registryType (pointer other key : String) :
    circularNote pointer ∉ (synthesis.registryType other key).notes := by
  unfold registryType
  split
  · exact List.not_mem_nil
  · exact circularNote_not_mem_unresolved pointer other

theorem calls_reference {chain : List String} {pointer : String} {next : Expansion} :
    synthesis.Calls ⟨chain, .reference pointer⟩ next ↔
      registryKey? pointer = none ∧ pointer ∉ chain ∧
        ∃ target, synthesis.document.resolve? pointer = some target ∧
          next = ⟨pointer :: chain, target⟩ := by
  constructor
  · intro h
    cases h with
    | child hchild => cases hchild
    | target hinlined hnew htarget => exact ⟨hinlined, hnew, _, htarget, rfl⟩
  · rintro ⟨hinlined, hnew, target, htarget, rfl⟩
    exact .target hinlined hnew htarget

theorem calls_shape {chain : List String} {schema : Schema} {next : Expansion}
    (hreference : schema.isReference = false) :
    synthesis.Calls ⟨chain, schema⟩ next ↔ ∃ child ∈ schema.children, next = ⟨chain, child⟩ := by
  constructor
  · intro h
    cases h with
    | child hchild => exact ⟨_, hchild, rfl⟩
    | target _ _ _ => cases hreference
  · rintro ⟨child, hchild, rfl⟩
    exact .child hchild

/-- The expansion comes to a reference that is on its chain. -/
def CutsAt (synthesis : Synthesis) (state : Expansion) (pointer : String) : Prop :=
  ∃ chain, ReflTransGen synthesis.Calls state ⟨chain, .reference pointer⟩ ∧
    registryKey? pointer = none ∧ pointer ∈ chain

theorem CutsAt.of_mem {chain : List String} {pointer : String} (hinlined : registryKey? pointer = none)
    (hmem : pointer ∈ chain) : synthesis.CutsAt ⟨chain, .reference pointer⟩ pointer :=
  ⟨chain, .refl, hinlined, hmem⟩

theorem CutsAt.before {state next : Expansion} {pointer : String}
    (hcut : synthesis.CutsAt next pointer) (hcall : synthesis.Calls state next) :
    synthesis.CutsAt state pointer := by
  obtain ⟨chain, hreaches, hinlined, hmem⟩ := hcut
  exact ⟨chain, .head hcall hreaches, hinlined, hmem⟩

theorem cutsAt_reference {chain : List String} {pointer other : String} :
    synthesis.CutsAt ⟨chain, .reference pointer⟩ other ↔ registryKey? pointer = none ∧
      (other = pointer ∧ pointer ∈ chain ∨ pointer ∉ chain ∧ ∃ target,
        synthesis.document.resolve? pointer = some target ∧
          synthesis.CutsAt ⟨pointer :: chain, target⟩ other) := by
  constructor
  · rintro ⟨above, hreaches, hother, hmem⟩
    rcases hreaches.cases_head with he | ⟨next, hcall, hreaches⟩
    · cases he
      exact ⟨hother, .inl ⟨rfl, hmem⟩⟩
    · obtain ⟨hinlined, hnew, target, htarget, rfl⟩ := calls_reference.mp hcall
      exact ⟨hinlined, .inr ⟨hnew, target, htarget, above, hreaches, hother, hmem⟩⟩
  · rintro ⟨hinlined, ⟨rfl, hmem⟩ | ⟨hnew, target, htarget, hcut⟩⟩
    · exact .of_mem hinlined hmem
    · exact hcut.before (.target hinlined hnew htarget)

theorem cutsAt_shape {chain : List String} {schema : Schema} {pointer : String}
    (hreference : schema.isReference = false) :
    synthesis.CutsAt ⟨chain, schema⟩ pointer ↔
      ∃ child ∈ schema.children, synthesis.CutsAt ⟨chain, child⟩ pointer := by
  constructor
  · rintro ⟨above, hreaches, hinlined, hmem⟩
    rcases hreaches.cases_head with he | ⟨next, hcall, hreaches⟩
    · cases he
      cases hreference
    · obtain ⟨child, hchild, rfl⟩ := (calls_shape hreference).mp hcall
      exact ⟨child, hchild, above, hreaches, hinlined, hmem⟩
  · rintro ⟨child, hchild, hcut⟩
    exact hcut.before (.child hchild)

theorem Expands.circularNote_mem_iff {state : Expansion} {type : TypeExpr}
    (h : synthesis.Expands state type) (pointer : String) :
    circularNote pointer ∈ type.notes ↔
      ∃ other, synthesis.CutsAt state other ∧ circularNote other = circularNote pointer := by
  induction h with
  | @registry chain reference key hkey =>
    refine iff_of_false (circularNote_not_mem_registryType _ _ _) ?_
    rintro ⟨other, hcut, -⟩
    rw [(cutsAt_reference.mp hcut).1] at hkey
    cases hkey
  | @circular chain reference hinlined hmem =>
    rw [TypedClient.circular, TypeExpr.annotated, TypeExpr.notes, Option.toList_some, List.mem_singleton]
    constructor
    · intro he
      exact ⟨reference, .of_mem hinlined hmem, he.symm⟩
    · rintro ⟨other, hcut, he⟩
      rcases (cutsAt_reference.mp hcut).2 with ⟨rfl, -⟩ | ⟨hnew, -⟩
      · exact he.symm
      · exact absurd hmem hnew
  | @unresolved chain reference hinlined hnew hnone =>
    refine iff_of_false (circularNote_not_mem_unresolved _ _) ?_
    rintro ⟨other, hcut, -⟩
    rcases (cutsAt_reference.mp hcut).2 with ⟨-, hmem⟩ | ⟨-, target, htarget, -⟩
    · exact hnew hmem
    · rw [hnone] at htarget
      cases htarget
  | @target chain reference target type hinlined hnew htarget _ ih =>
    have hsame : ∀ other, synthesis.CutsAt ⟨chain, .reference reference⟩ other ↔
        synthesis.CutsAt ⟨reference :: chain, target⟩ other := by
      intro other
      rw [cutsAt_reference]
      simp [hinlined, hnew, htarget]
    simp only [ih, hsame]
  | @shape chain schema types hreference _ ih =>
    rw [Schema.mem_notes_shape hreference]
    simp only [cutsAt_shape hreference]
    constructor
    · rintro ⟨child, hchild, hnote⟩
      obtain ⟨other, hcut, he⟩ := (ih child hchild).mp hnote
      exact ⟨other, ⟨child, hchild, hcut⟩, he⟩
    · rintro ⟨other, ⟨child, hchild, hcut⟩, he⟩
      exact ⟨child, hchild, (ih child hchild).mpr ⟨other, hcut, he⟩⟩

theorem leadsTo_of_mem_chain {schema : Schema} {state : Expansion}
    (h : ReflTransGen synthesis.Calls ⟨[], schema⟩ state) :
    ∀ above ∈ state.chain, ∀ pointer ∈ state.schema.pointers, registryKey? pointer = none →
      TransGen synthesis.document.LeadsTo above pointer := by
  induction h with
  | refl => intro above habove; cases habove
  | tail _ hcall ih =>
    cases hcall with
    | child hchild =>
      intro above habove pointer hpointer hinlined
      exact ih above habove pointer (Schema.mem_pointers_iff.mpr (.inr ⟨_, hchild, hpointer⟩)) hinlined
    | @target chain reference target hreference _ htarget =>
      intro above habove pointer hpointer hinlined
      have hleads : synthesis.document.LeadsTo reference pointer :=
        ⟨hinlined, target, htarget, hpointer⟩
      rcases List.mem_cons.mp habove with rfl | habove
      · exact .single hleads
      · exact (ih above habove reference (List.mem_singleton.mpr rfl) hreference).tail hleads

theorem leadsTo_of_reaches {schema : Schema} {state : Expansion}
    (h : ReflTransGen synthesis.Calls ⟨[], schema⟩ state) :
    ∀ pointer ∈ state.schema.pointers, registryKey? pointer = none →
      ∃ first ∈ schema.pointers, registryKey? first = none ∧
        ReflTransGen synthesis.document.LeadsTo first pointer := by
  induction h with
  | refl => exact fun pointer hpointer hinlined => ⟨pointer, hpointer, hinlined, .refl⟩
  | tail _ hcall ih =>
    cases hcall with
    | child hchild =>
      intro pointer hpointer hinlined
      exact ih pointer (Schema.mem_pointers_iff.mpr (.inr ⟨_, hchild, hpointer⟩)) hinlined
    | @target chain reference target hreference _ htarget =>
      intro pointer hpointer hinlined
      obtain ⟨first, hfirst, hinlined', hpath⟩ :=
        ih reference (List.mem_singleton.mpr rfl) hreference
      exact ⟨first, hfirst, hinlined', hpath.tail ⟨hinlined, target, htarget, hpointer⟩⟩

theorem CutsAt.isCyclic {schema : Schema} {pointer : String}
    (h : synthesis.CutsAt ⟨[], schema⟩ pointer) :
    synthesis.document.IsCyclic pointer ∧ synthesis.document.HasCycleBelow schema := by
  obtain ⟨chain, hreaches, hinlined, hmem⟩ := h
  have hself : pointer ∈ (Schema.reference pointer).pointers := List.mem_singleton.mpr rfl
  have hcyclic := leadsTo_of_mem_chain hreaches pointer hmem pointer hself hinlined
  obtain ⟨first, hfirst, hinlined', hpath⟩ := leadsTo_of_reaches hreaches pointer hself hinlined
  exact ⟨hcyclic, first, hfirst, hinlined', pointer, hpath, hcyclic⟩

/-- An expansion that follows a cycle is cut, since it comes to an end. -/
theorem exists_cutsAt {state : Expansion}
    (hends : Acc (fun next state => synthesis.Calls state next) state)
    (hcycle : synthesis.document.HasCycleBelow state.schema) :
    ∃ pointer, synthesis.CutsAt state pointer := by
  induction hends with
  | intro state _ ih =>
    obtain ⟨chain, schema⟩ := state
    obtain ⟨pointer, hpointer, hinlined, hmeets⟩ := hcycle
    rcases Schema.mem_pointers_iff.mp hpointer with he | ⟨child, hchild, hpointer⟩
    · dsimp only at he
      subst he
      -- Either the reference is cut here, or its target goes on along the cycle.
      by_cases hmem : pointer ∈ chain
      · exact ⟨pointer, .of_mem hinlined hmem⟩
      · obtain ⟨next, ⟨hinlined', target, htarget, hnext⟩, hmeets⟩ := hmeets.next
        have hcall : synthesis.Calls ⟨chain, .reference pointer⟩ ⟨pointer :: chain, target⟩ :=
          .target hinlined hmem htarget
        obtain ⟨other, hcut⟩ := ih _ hcall ⟨next, hnext, hinlined', hmeets⟩
        exact ⟨other, hcut.before hcall⟩
    · have hcall : synthesis.Calls ⟨chain, schema⟩ ⟨chain, child⟩ := .child hchild
      obtain ⟨other, hcut⟩ := ih _ hcall ⟨pointer, hpointer, hinlined, hmeets⟩
      exact ⟨other, hcut.before hcall⟩

/-- Inlining without a guard: every reference that is not to a component and leads somewhere is
replaced by the type of its target, as often as it is met. -/
inductive Inlines (synthesis : Synthesis) : Schema → TypeExpr → Prop
  | registry {pointer key : String} : registryKey? pointer = some key →
      Inlines synthesis (.reference pointer) (synthesis.registryType pointer key)
  | unresolved {pointer : String} : registryKey? pointer = none →
      synthesis.document.resolve? pointer = none →
      Inlines synthesis (.reference pointer) (unresolved pointer)
  | target {pointer : String} {target : Schema} {type : TypeExpr} : registryKey? pointer = none →
      synthesis.document.resolve? pointer = some target → Inlines synthesis target type →
      Inlines synthesis (.reference pointer) type
  | shape {schema : Schema} {types : Schema → TypeExpr} : schema.isReference = false →
      (∀ child ∈ schema.children, Inlines synthesis child (types child)) →
      Inlines synthesis schema (schema.shape types)

theorem Expands.inlines {state : Expansion} {type : TypeExpr} (h : synthesis.Expands state type)
    (huncut : ∀ pointer, ¬synthesis.CutsAt state pointer) :
    synthesis.Inlines state.schema type := by
  induction h with
  | registry hkey => exact .registry hkey
  | circular hinlined hmem => exact absurd (.of_mem hinlined hmem) (huncut _)
  | unresolved hinlined _ hnone => exact .unresolved hinlined hnone
  | target hinlined hnew htarget _ ih =>
    apply Inlines.target hinlined htarget
    apply ih
    intro pointer hcut
    exact huncut pointer (hcut.before (.target hinlined hnew htarget))
  | shape hreference _ ih =>
    apply Inlines.shape hreference
    intro child hchild
    apply ih child hchild
    intro pointer hcut
    exact huncut pointer (hcut.before (.child hchild))

theorem Inlines.expands {schema : Schema} {type : TypeExpr} (h : synthesis.Inlines schema type)
    {chain : List String} (huncut : ∀ pointer, ¬synthesis.CutsAt ⟨chain, schema⟩ pointer) :
    synthesis.Expands ⟨chain, schema⟩ type := by
  induction h generalizing chain with
  | registry hkey => exact .registry hkey
  | @unresolved reference hinlined hnone =>
    have hnew : reference ∉ chain := fun hmem =>
      huncut reference (.of_mem hinlined hmem)
    exact .unresolved hinlined hnew hnone
  | @target reference target type hinlined htarget _ ih =>
    have hnew : reference ∉ chain := fun hmem =>
      huncut reference (.of_mem hinlined hmem)
    apply Expands.target hinlined hnew htarget
    apply ih
    intro pointer hcut
    exact huncut pointer (hcut.before (.target hinlined hnew htarget))
  | shape hreference _ ih =>
    apply Expands.shape hreference
    intro child hchild
    apply ih child hchild
    intro pointer hcut
    exact huncut pointer (hcut.before (.child hchild))

/-- The guard cuts cycles and nothing else. A reference that is cut leads back to itself, and the
notes in the type tell of the cuts. Without a cycle below the schema there is no such note, and the
type is what inlining gives; with one there is a note. -/
theorem cuts_exactly_cycles (synthesis : Synthesis) (schema : Schema) :
    (∀ pointer, synthesis.CutsAt ⟨[], schema⟩ pointer → synthesis.document.IsCyclic pointer) ∧
    (∀ pointer, circularNote pointer ∈ (synthesis.typeOf schema).notes ↔
      ∃ other, synthesis.CutsAt ⟨[], schema⟩ other ∧ circularNote other = circularNote pointer) ∧
    (¬synthesis.document.HasCycleBelow schema →
      (∀ pointer, circularNote pointer ∉ (synthesis.typeOf schema).notes) ∧
      ∀ type, synthesis.Inlines schema type ↔ type = synthesis.typeOf schema) ∧
    (synthesis.document.HasCycleBelow schema →
      ∃ pointer, circularNote pointer ∈ (synthesis.typeOf schema).notes) := by
  have hexpands := expands_typeOf synthesis schema
  refine ⟨fun pointer hcut => hcut.isCyclic.1,
    hexpands.circularNote_mem_iff, ?_, ?_⟩
  · intro hnone
    have huncut : ∀ pointer, ¬synthesis.CutsAt ⟨[], schema⟩ pointer :=
      fun pointer hcut => hnone hcut.isCyclic.2
    constructor
    · intro pointer hnote
      obtain ⟨other, hcut, -⟩ := (hexpands.circularNote_mem_iff pointer).mp hnote
      exact huncut other hcut
    · intro type
      constructor
      · exact fun h => (h.expands huncut).unique hexpands
      · rintro rfl
        exact hexpands.inlines huncut
  · intro hcycle
    obtain ⟨pointer, hcut⟩ := exists_cutsAt (acc_of_within (within_start schema)) hcycle
    exact ⟨pointer, (hexpands.circularNote_mem_iff pointer).mpr ⟨pointer, hcut, rfl⟩⟩

theorem cuts_exactly_cycles_loop_and_diamond :
    let refer : String → Json := fun pointer => .object [("$ref", .text pointer)]
    let raw : Json := .object [("x", .object [("loop", refer "#/x/loop"),
      ("leaf", .object [("type", .text "string")])])]
    let document : Document := ⟨raw, none, none, [], []⟩
    let synthesis : Synthesis := ⟨document, [], .local⟩
    let loop : Schema := .array (.reference "#/x/loop")
    let diamond : Schema := .union [.reference "#/x/leaf", .reference "#/x/leaf"]
    Document.ofJson raw = .ok document ∧
    document.HasCycleBelow loop ∧
    (∃ pointer, circularNote pointer ∈ (synthesis.typeOf loop).notes) ∧
    ¬document.HasCycleBelow diamond ∧
    synthesis.Inlines diamond (.union [.keyword .string, .keyword .string]) := by
  intro refer raw document synthesis loop diamond
  have hloop : document.HasCycleBelow loop := by
    have hleads : document.LeadsTo "#/x/loop" "#/x/loop" :=
      ⟨by decide, .reference "#/x/loop", rfl, List.mem_singleton.mpr rfl⟩
    exact ⟨"#/x/loop", List.mem_singleton.mpr rfl, by decide, "#/x/loop", .refl, .single hleads⟩
  have hdiamond : ¬document.HasCycleBelow diamond := by
    rintro ⟨pointer, hpointer, -, hmeets⟩
    obtain ⟨next, ⟨-, target, htarget, hnext⟩, -⟩ := hmeets.next
    have hleaf : pointer = "#/x/leaf" := by simpa [diamond, Schema.pointers, Schema.pointersOfAll] using hpointer
    subst hleaf
    have hstring : document.resolve? "#/x/leaf" = some (.primitive .string) := rfl
    obtain rfl := Option.some.inj (hstring.symm.trans htarget)
    cases hnext
  obtain ⟨-, -, -, hcut⟩ := cuts_exactly_cycles synthesis loop
  obtain ⟨-, -, hinlined, -⟩ := cuts_exactly_cycles synthesis diamond
  exact ⟨rfl, hloop, hcut hloop, hdiamond, ((hinlined hdiamond).2 _).mpr rfl⟩

end Synthesis

end TypedClient
