import TypedClient.Proofs.Client.Signatures
import TypedClient.Proofs.Naming.Registry
import TypedClient.Proofs.TypeExpr.Shape

namespace TypedClient

open Naming (Allocator IsName)
open Synthesis (IsNote)
open TypeExpr (IsBuilt)

def BodyParameter.types : BodyParameter → List TypeExpr
  | .none => []
  | .untyped => []
  | .typed type => [type]

def Signature.types (signature : Signature) : List TypeExpr :=
  signature.body.types ++ [signature.returns]

structure Declares (synthesis : Synthesis) (before : Allocator) (declarations : List Declaration)
    (after : Allocator) : Prop where
  named : ∃ bases, (∀ base ∈ bases, IsName base) ∧
    before.allocateAll bases = .ok (declarations.map (·.name), after)
  built : ∀ declaration ∈ declarations, IsBuilt synthesis.Writes IsNote declaration.type

def Synthesis.Uses (synthesis : Synthesis) (declarations : List Declaration) : TypeExpr → Prop :=
  IsBuilt (fun name => synthesis.Writes name ∨ name ∈ declarations.map (·.name)) IsNote

section

variable {synthesis : Synthesis} {before middle after : Allocator} {base : String}
  {declarations front back : List Declaration} {type : TypeExpr}

theorem Declares.nil : Declares synthesis before [] before := by
  constructor
  · exact ⟨[], by simp, rfl⟩
  · simp

theorem Declares.append (hfront : Declares synthesis before front middle)
    (hback : Declares synthesis middle back after) :
    Declares synthesis before (front ++ back) after := by
  obtain ⟨bases, hbases, hnames⟩ := hfront.named
  obtain ⟨more, hmore, hnames'⟩ := hback.named
  constructor
  · refine ⟨bases ++ more, ?_, ?_⟩
    · intro base hbase
      rcases List.mem_append.mp hbase with hbase | hbase
      · exact hbases base hbase
      · exact hmore base hbase
    · rw [List.map_append]
      exact Allocator.allocateAll_append hnames hnames'
  · intro declaration hdeclaration
    rcases List.mem_append.mp hdeclaration with hdeclaration | hdeclaration
    · exact hfront.built declaration hdeclaration
    · exact hback.built declaration hdeclaration

theorem Declares.uses (h : Declares synthesis before declarations after) :
    ∀ declaration ∈ declarations, synthesis.Uses declarations declaration.type := by
  intro declaration hdeclaration
  exact (h.built declaration hdeclaration).imp (fun _ hname => .inl hname) fun _ hnote => hnote

theorem Declares.isName (h : Declares synthesis before declarations after) :
    ∀ name ∈ declarations.map (·.name), IsName name := by
  obtain ⟨bases, hbases, hnames⟩ := h.named
  obtain ⟨hnumbers, -, -⟩ := Allocator.allocateAll_ok hnames
  exact Naming.isName_of_allocated hbases hnumbers

theorem Synthesis.uses_typeOf (synthesis : Synthesis) (declarations : List Declaration)
    (schema : Schema) : synthesis.Uses declarations (synthesis.typeOf schema) :=
  (synthesis.isBuilt_typeOf schema).imp (fun _ hname => .inl hname) fun _ hnote => hnote

theorem Synthesis.Uses.mono (h : synthesis.Uses front type) (hsubset : front ⊆ back) :
    synthesis.Uses back type := by
  apply h.imp
  · intro name hname
    rcases hname with hname | hname
    · exact .inl hname
    · obtain ⟨declaration, hdeclaration, rfl⟩ := List.mem_map.mp hname
      exact .inr (List.mem_map.mpr ⟨declaration, hsubset hdeclaration, rfl⟩)
  · exact fun _ hnote => hnote

theorem Settles.declares {schema : Schema} (hbase : IsName base)
    (h : Settles synthesis base schema before type after declarations) :
    Declares synthesis before declarations after ∧ synthesis.Uses declarations type := by
  cases h with
  | reference _ => exact ⟨.nil, synthesis.uses_typeOf [] schema⟩
  | declared _ hname =>
    refine ⟨⟨⟨[base], by simpa using hbase, Allocator.allocateAll_single hname⟩, ?_⟩, ?_⟩
    · intro declaration hdeclaration
      obtain rfl := List.mem_singleton.mp hdeclaration
      exact synthesis.isBuilt_typeOf schema
    · exact .named (.inr (by simp))

theorem SettlesBody.declares {bound : BoundOperation} {body : BodyParameter} (hbase : IsName base)
    (h : SettlesBody synthesis base bound before body after declarations) :
    Declares synthesis before declarations after ∧
      ∀ type ∈ body.types, synthesis.Uses declarations type := by
  have hsuffix : IsName "Request" := Naming.isName_of_decide (by decide)
  cases h with
  | none _ => exact ⟨.nil, by simp [BodyParameter.types]⟩
  | untyped _ _ => exact ⟨.nil, by simp [BodyParameter.types]⟩
  | typed _ _ hsettles =>
    obtain ⟨hdeclares, huses⟩ := hsettles.declares (hbase.append hsuffix)
    exact ⟨hdeclares, by simpa [BodyParameter.types] using huses⟩

theorem SettlesReturn.declares {operation : Operation} (hbase : IsName base)
    (h : SettlesReturn synthesis base operation before type after declarations) :
    Declares synthesis before declarations after ∧ synthesis.Uses declarations type := by
  have hsuffix : IsName "Response" := Naming.isName_of_decide (by decide)
  cases h with
  | void _ => exact ⟨.nil, .keyword .void⟩
  | typed _ hsettles => exact hsettles.declares (hbase.append hsuffix)

end

section

variable {synthesis : Synthesis} {scope next : ArtifactScope}

theorem Builds.declares {bound : BoundOperation} {signature : Signature}
    (h : Builds synthesis bound scope signature next) :
    ∃ declarations, next.declarations = scope.declarations ++ declarations ∧
      Declares synthesis scope.typeNames declarations next.typeNames ∧
      ∀ type ∈ signature.types, synthesis.Uses declarations type := by
  cases h with
  | @mk _ _ _ _ _ _ requested responded name body returns _ hbody hreturns =>
    obtain ⟨hrequested, hparameter⟩ := hbody.declares (Naming.isName_typeName name)
    obtain ⟨hresponded, hresult⟩ := hreturns.declares (Naming.isName_typeName name)
    refine ⟨requested ++ responded, rfl, hrequested.append hresponded, ?_⟩
    intro type htype
    rcases List.mem_append.mp htype with htype | htype
    · exact (hparameter type htype).mono (List.subset_append_left _ _)
    · obtain rfl := List.mem_singleton.mp htype
      exact hresult.mono (List.subset_append_right _ _)

theorem BuildsAll.declares {bounds : List BoundOperation} {signatures : List Signature}
    (h : BuildsAll synthesis scope bounds signatures next) :
    ∃ declarations, next.declarations = scope.declarations ++ declarations ∧
      Declares synthesis scope.typeNames declarations next.typeNames ∧
      ∀ signature ∈ signatures, ∀ type ∈ signature.types, synthesis.Uses declarations type := by
  induction h with
  | nil scope => exact ⟨[], by simp, .nil, by simp⟩
  | cons hfirst _ ih =>
    obtain ⟨front, hfront, hdeclares, huses⟩ := hfirst.declares
    obtain ⟨back, hback, hdeclares', huses'⟩ := ih
    refine ⟨front ++ back, by rw [hback, hfront, List.append_assoc],
      hdeclares.append hdeclares', ?_⟩
    intro signature hsignature type htype
    rcases List.mem_cons.mp hsignature with rfl | hsignature
    · exact (huses type htype).mono (List.subset_append_left _ _)
    · exact (huses' signature hsignature type htype).mono (List.subset_append_right _ _)

theorem BuildsAll.methodNames {bounds : List BoundOperation} {signatures : List Signature}
    (h : BuildsAll synthesis scope bounds signatures next) :
    scope.methodNames.allocateAll (bounds.map (·.operation.name)) =
      .ok (signatures.map (·.name), next.methodNames) := by
  induction h with
  | nil scope => rfl
  | cons hfirst _ ih =>
    cases hfirst with
    | mk hname _ _ => exact Allocator.allocateAll_append (Allocator.allocateAll_single hname) ih

theorem BuildsAll.bounds_eq {bounds : List BoundOperation} {signatures : List Signature}
    (h : BuildsAll synthesis scope bounds signatures next) :
    signatures.map (·.bound) = bounds := by
  induction h with
  | nil scope => rfl
  | cons hfirst _ ih =>
    cases hfirst with
    | mk _ _ _ => rw [List.map_cons, ih]

end

end TypedClient
