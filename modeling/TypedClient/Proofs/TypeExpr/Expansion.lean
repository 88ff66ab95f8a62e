import Mathlib.Data.List.Perm.Subperm
import Mathlib.Logic.Relation
import TypedClient.Proofs.Distinct
import TypedClient.Proofs.Document.Pointers

/-!
Expansion of a schema into its type as a recursion of its own: what each call leads to, why the
calls come to an end, and that the type of a schema is what the recursion returns.
-/

namespace TypedClient

open Schema (mem_pointers_iff)

namespace Schema

def shape (types : Schema → TypeExpr) : Schema → TypeExpr
  | .reference pointer => types (.reference pointer)
  | .union [] => .any none
  | .union [alternative] => types alternative
  | .union alternatives => .union (alternatives.map types)
  | .object [] _ => .any none
  | .object properties required =>
    .object (properties.map fun (name, schema) => ⟨name, !required.contains name, types schema⟩)
  | .array item => .array (types item)
  | .primitive .string => .keyword .string
  | .primitive .number => .keyword .number
  | .primitive .integer => .keyword .number
  | .primitive .boolean => .keyword .boolean
  | .primitive (.other _) => .any none

theorem typesWith_eq_map (ofReference : String → TypeExpr) (schemas : List Schema) :
    typesWith ofReference schemas = schemas.map (typeWith ofReference) := by
  induction schemas with
  | nil => rfl
  | cons schema rest ih => rw [typesWith, ih, List.map_cons]

theorem propertiesWith_eq_map (ofReference : String → TypeExpr) (required : List String)
    (properties : List (String × Schema)) :
    propertiesWith ofReference required properties = properties.map fun (name, schema) =>
      ⟨name, !required.contains name, schema.typeWith ofReference⟩ := by
  induction properties with
  | nil => rfl
  | cons property rest ih =>
    obtain ⟨name, schema⟩ := property
    rw [propertiesWith, ih, List.map_cons]

theorem typeWith_eq_shape (ofReference : String → TypeExpr) (schema : Schema) :
    schema.typeWith ofReference = schema.shape (typeWith ofReference) := by
  cases schema with
  | reference pointer => rfl
  | object properties required =>
    cases properties with
    | nil => rfl
    | cons property rest => exact congrArg TypeExpr.object (propertiesWith_eq_map _ _ _)
  | array item => rfl
  | primitive kind => cases kind <;> rfl
  | union alternatives =>
    match alternatives with
    | [] => rfl
    | [alternative] => rfl
    | first :: second :: rest => exact congrArg TypeExpr.union (typesWith_eq_map _ _)

theorem shape_congr {types types' : Schema → TypeExpr} {schema : Schema}
    (hreference : schema.isReference = false)
    (h : ∀ child ∈ schema.children, types child = types' child) :
    schema.shape types = schema.shape types' := by
  cases schema with
  | reference pointer => cases hreference
  | object properties required =>
    cases properties with
    | nil => rfl
    | cons property rest =>
      apply congrArg TypeExpr.object
      apply List.map_congr_left
      intro entry hentry
      simp only [h entry.2 (List.mem_map.mpr ⟨entry, hentry, rfl⟩)]
  | array item => exact congrArg TypeExpr.array (h item (List.mem_singleton.mpr rfl))
  | primitive kind => cases kind <;> rfl
  | union alternatives =>
    match alternatives with
    | [] => rfl
    | [alternative] => exact h alternative (List.mem_singleton.mpr rfl)
    | first :: second :: rest => exact congrArg TypeExpr.union (List.map_congr_left h)

end Schema

structure Expansion where
  chain : List String
  schema : Schema

namespace Expansion

/-- How far an expansion is from its end: the references that its chain can still take, and the size
of its schema. -/
def remaining (bound : Nat) (state : Expansion) : Nat × Nat :=
  (bound - state.chain.length, state.schema.size)

structure Within (references : List String) (state : Expansion) : Prop where
  nodup : state.chain.Nodup
  chain : state.chain ⊆ references
  pointers : ∀ pointer ∈ state.schema.pointers, registryKey? pointer = none → pointer ∈ references

theorem Within.length_le {references : List String} {state : Expansion}
    (h : state.Within references) : state.chain.length ≤ references.length :=
  (h.nodup.subperm h.chain).length_le

end Expansion

namespace Synthesis

variable (synthesis : Synthesis)

/-- One call leads to another: to a schema directly below, or through a reference to its target,
which is expanded with the reference on the chain. -/
inductive Calls : Expansion → Expansion → Prop
  | child {chain : List String} {schema child : Schema} : child ∈ schema.children →
      Calls ⟨chain, schema⟩ ⟨chain, child⟩
  | target {chain : List String} {pointer : String} {target : Schema} :
      registryKey? pointer = none → pointer ∉ chain →
      synthesis.document.resolve? pointer = some target →
      Calls ⟨chain, .reference pointer⟩ ⟨pointer :: chain, target⟩

/-- What the recursion returns, once all calls in it have returned. -/
inductive Expands : Expansion → TypeExpr → Prop
  | registry {chain : List String} {pointer key : String} : registryKey? pointer = some key →
      Expands ⟨chain, .reference pointer⟩ (synthesis.registryType pointer key)
  | circular {chain : List String} {pointer : String} :
      registryKey? pointer = none → pointer ∈ chain →
      Expands ⟨chain, .reference pointer⟩ (circular pointer)
  | unresolved {chain : List String} {pointer : String} :
      registryKey? pointer = none → pointer ∉ chain →
      synthesis.document.resolve? pointer = none →
      Expands ⟨chain, .reference pointer⟩ (unresolved pointer)
  | target {chain : List String} {pointer : String} {target : Schema} {type : TypeExpr} :
      registryKey? pointer = none → pointer ∉ chain →
      synthesis.document.resolve? pointer = some target →
      Expands ⟨pointer :: chain, target⟩ type → Expands ⟨chain, .reference pointer⟩ type
  | shape {chain : List String} {schema : Schema} {types : Schema → TypeExpr} :
      schema.isReference = false →
      (∀ child ∈ schema.children, Expands ⟨chain, child⟩ (types child)) →
      Expands ⟨chain, schema⟩ (schema.shape types)

def inlinable (schema : Schema) : List String :=
  distinct ((schema.pointers ++ synthesis.document.raw.references).filter
    fun pointer => (registryKey? pointer).isNone)

variable {synthesis}

theorem mem_inlinable {schema : Schema} {pointer : String} :
    pointer ∈ synthesis.inlinable schema ↔
      (pointer ∈ schema.pointers ∨ pointer ∈ synthesis.document.raw.references) ∧
        registryKey? pointer = none := by
  rw [inlinable, mem_distinct, List.mem_filter, List.mem_append, Option.isNone_iff_eq_none]

theorem length_inlinable (schema : Schema) :
    (synthesis.inlinable schema).length ≤ synthesis.chainBound schema := by
  have hnodup : (synthesis.inlinable schema).Nodup := by
    rw [inlinable, distinct_eq_eraseDups]
    exact nodup_eraseDups _
  apply (hnodup.subperm _).length_le
  intro pointer hpointer
  rw [mem_distinct, List.mem_append]
  exact (mem_inlinable.mp hpointer).1

theorem within_start (schema : Schema) :
    (⟨[], schema⟩ : Expansion).Within (synthesis.inlinable schema) where
  nodup := List.nodup_nil
  chain := List.nil_subset _
  pointers := fun _ hpointer hinlined => mem_inlinable.mpr ⟨.inl hpointer, hinlined⟩

theorem Calls.within {start : Schema} {state next : Expansion} (hcall : synthesis.Calls state next)
    (h : state.Within (synthesis.inlinable start)) : next.Within (synthesis.inlinable start) := by
  cases hcall with
  | child hchild =>
    refine ⟨h.nodup, h.chain, fun pointer hpointer => h.pointers pointer ?_⟩
    exact mem_pointers_iff.mpr (.inr ⟨_, hchild, hpointer⟩)
  | @target chain pointer target hinlined hnew htarget =>
    have hmem := h.pointers pointer (mem_pointers_iff.mpr (.inl rfl)) hinlined
    refine ⟨List.nodup_cons.mpr ⟨hnew, h.nodup⟩, List.cons_subset.mpr ⟨hmem, h.chain⟩, ?_⟩
    intro other hother hinlined'
    exact mem_inlinable.mpr ⟨.inr (Document.pointers_resolve htarget hother), hinlined'⟩

theorem within_of_reaches {schema : Schema} {state : Expansion}
    (h : Relation.ReflTransGen synthesis.Calls ⟨[], schema⟩ state) :
    state.Within (synthesis.inlinable schema) := by
  induction h with
  | refl => exact within_start schema
  | tail _ hcall ih => exact hcall.within ih

theorem Calls.remaining_lt {references : List String} {state next : Expansion}
    (hcall : synthesis.Calls state next) (hnext : next.Within references) :
    Prod.Lex (· < ·) (· < ·) (next.remaining references.length) (state.remaining references.length) := by
  cases hcall with
  | child hchild => exact Prod.Lex.right _ (Schema.size_child hchild)
  | @target chain pointer target _ _ _ =>
    have hlength : chain.length + 1 ≤ references.length := hnext.length_le
    apply Prod.Lex.left
    show references.length - (chain.length + 1) < references.length - chain.length
    omega

theorem acc_of_within {start : Schema} {state : Expansion}
    (h : state.Within (synthesis.inlinable start)) :
    Acc (fun next state => synthesis.Calls state next) state := by
  have hwf : WellFounded (InvImage (Prod.Lex (· < ·) (· < ·))
      (Expansion.remaining (synthesis.inlinable start).length)) :=
    InvImage.wf _ (Prod.lex Nat.lt_wfRel Nat.lt_wfRel).wf
  induction state using hwf.induction with
  | h state ih =>
    apply Acc.intro
    intro next hcall
    exact ih next (hcall.remaining_lt (hcall.within h)) (hcall.within h)

theorem Expands.unique {state : Expansion} {type type' : TypeExpr}
    (h : synthesis.Expands state type) (h' : synthesis.Expands state type') : type = type' := by
  induction h generalizing type' with
  | registry hkey =>
    cases h' with
    | registry hkey' => rw [Option.some.inj (hkey.symm.trans hkey')]
    | shape hreference _ => cases hreference
    | _ => simp_all
  | circular hinlined hmem =>
    cases h' with
    | circular _ _ => rfl
    | shape hreference _ => cases hreference
    | _ => simp_all
  | unresolved hinlined hnew hnone =>
    cases h' with
    | unresolved _ _ _ => rfl
    | shape hreference _ => cases hreference
    | _ => simp_all
  | target hinlined hnew htarget _ ih =>
    cases h' with
    | target _ _ htarget' hexpands =>
      obtain rfl := Option.some.inj (htarget.symm.trans htarget')
      exact ih hexpands
    | shape hreference _ => cases hreference
    | _ => simp_all
  | shape hreference _ ih =>
    cases h' with
    | shape _ hchildren =>
      exact Schema.shape_congr hreference fun child hchild =>
        ih child hchild (hchildren child hchild)
    | _ => cases hreference

/-- The fuel never runs out: while it and the chain together exceed the number of references, what
is written is what the recursion returns. -/
theorem expands_typeWith {start : Schema} (fuel : Nat) {chain : List String} (schema : Schema)
    (h : (⟨chain, schema⟩ : Expansion).Within (synthesis.inlinable start))
    (hfuel : (synthesis.inlinable start).length < fuel + chain.length) :
    synthesis.Expands ⟨chain, schema⟩ (schema.typeWith (synthesis.referenceType fuel chain)) := by
  -- Following a reference takes fuel and going down a schema does not, so there are two inductions.
  induction fuel generalizing chain schema with
  | zero =>
    have hlength : chain.length ≤ (synthesis.inlinable start).length := h.length_le
    omega
  | succ fuel ihfuel =>
    induction schema using Schema.induction_children with
    | step schema ih =>
      cases hreference : schema.isReference with
      | false =>
        rw [Schema.typeWith_eq_shape]
        exact .shape hreference fun child hchild =>
          ih child hchild ((Calls.child hchild).within h)
      | true =>
        cases schema with
        | reference pointer =>
          rw [Schema.typeWith, referenceType]
          cases hkey : registryKey? pointer with
          | some key => exact .registry hkey
          | none =>
            dsimp only
            by_cases hmem : pointer ∈ chain
            · rw [if_pos (by simpa using hmem)]
              exact .circular hkey hmem
            · rw [if_neg (by simpa using hmem)]
              cases htarget : synthesis.document.resolve? pointer with
              | none => exact .unresolved hkey hmem htarget
              | some target =>
                have hnext := (Calls.target hkey hmem htarget).within h
                apply Expands.target hkey hmem htarget (ihfuel target hnext _)
                rw [List.length_cons]
                omega
        | _ => cases hreference

theorem expands_typeOf (synthesis : Synthesis) (schema : Schema) :
    synthesis.Expands ⟨[], schema⟩ (synthesis.typeOf schema) := by
  apply expands_typeWith _ schema (within_start schema)
  rw [List.length_nil, Nat.add_zero]
  exact Nat.lt_succ_of_le (length_inlinable schema)

/-- Expansion ends for every schema, and the type of the schema is what it returns. On the way the
chain never repeats a reference or outgrows the references there are, and each call brings the end
nearer. -/
theorem expansion_terminates (synthesis : Synthesis) (schema : Schema) :
    let bound := (synthesis.inlinable schema).length
    (∀ type, synthesis.Expands ⟨[], schema⟩ type ↔ type = synthesis.typeOf schema) ∧
    Acc (fun next state => synthesis.Calls state next) ⟨[], schema⟩ ∧
    ∀ state, Relation.ReflTransGen synthesis.Calls ⟨[], schema⟩ state →
      state.chain.Nodup ∧ state.chain ⊆ synthesis.inlinable schema ∧
      state.chain.length ≤ bound ∧
      ∀ next, synthesis.Calls state next → Prod.Lex (· < ·) (· < ·)
        (bound - next.chain.length, next.schema.size)
        (bound - state.chain.length, state.schema.size) := by
  intro bound
  refine ⟨?_, acc_of_within (within_start schema), ?_⟩
  · intro type
    constructor
    · exact fun h => h.unique (expands_typeOf synthesis schema)
    · rintro rfl
      exact expands_typeOf synthesis schema
  · intro state hreaches
    have hstate := within_of_reaches hreaches
    refine ⟨hstate.nodup, hstate.chain, hstate.length_le, ?_⟩
    intro next hcall
    exact hcall.remaining_lt (hcall.within hstate)

theorem expansion_terminates_mutual :
    let raw : Json := .object [("x", .object [
      ("a", .object [("type", .text "array"), ("items", .object [("$ref", .text "#/x/b")])]),
      ("b", .object [("$ref", .text "#/x/a")])])]
    let document : Document := ⟨raw, none, none, [], []⟩
    let synthesis : Synthesis := ⟨document, [], .local⟩
    let chain := ["#/x/b", "#/x/a"]
    Document.ofJson raw = .ok document ∧
    (synthesis.inlinable (.reference "#/x/a")).length = 2 ∧
    Relation.ReflTransGen synthesis.Calls ⟨[], .reference "#/x/a"⟩ ⟨chain, .reference "#/x/a"⟩ ∧
    chain.Nodup ∧ chain.length ≤ 2 ∧
    synthesis.Expands ⟨[], .reference "#/x/a"⟩ (.array (circular "#/x/a")) := by
  intro raw document synthesis chain
  have hbound : (synthesis.inlinable (.reference "#/x/a")).length = 2 := by decide
  have hfirst : synthesis.Calls ⟨[], .reference "#/x/a"⟩ ⟨["#/x/a"], .array (.reference "#/x/b")⟩ :=
    .target (by decide) (by decide) rfl
  have hitem : synthesis.Calls ⟨["#/x/a"], .array (.reference "#/x/b")⟩
      ⟨["#/x/a"], .reference "#/x/b"⟩ := .child (List.mem_singleton.mpr rfl)
  have hsecond : synthesis.Calls ⟨["#/x/a"], .reference "#/x/b"⟩ ⟨chain, .reference "#/x/a"⟩ :=
    .target (by decide) (by decide) rfl
  have hreaches : Relation.ReflTransGen synthesis.Calls ⟨[], .reference "#/x/a"⟩
      ⟨chain, .reference "#/x/a"⟩ := .head hfirst (.head hitem (.single hsecond))
  obtain ⟨hexpands, -, hstates⟩ := expansion_terminates synthesis (.reference "#/x/a")
  obtain ⟨hnodup, -, hlength, -⟩ := hstates _ hreaches
  exact ⟨rfl, hbound, hreaches, hnodup, hbound ▸ hlength, (hexpands _).mpr rfl⟩

end Synthesis

end TypedClient
