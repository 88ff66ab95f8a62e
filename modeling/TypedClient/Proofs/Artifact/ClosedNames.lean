import TypedClient.Proofs.Artifact.Assembly
import TypedClient.Proofs.Client.Declared

namespace TypedClient

open Naming (Allocator IsName)

structure TypesClosed (document : Document) (names : Naming.RegistryNames)
    (declarations : List Declaration) : Prop where
  declares : List.Forall₂
    (fun component declaration => names.get? component.1 = some declaration.name ∧
      declaration.type = Synthesis.typeOf ⟨document, names, .global⟩ component.2)
    document.schemas declarations
  nodup : (declarations.map (·.name)).Nodup
  closed : ∀ declaration ∈ declarations, ∀ name ∈ declaration.type.names,
    name ∈ declarations.map (·.name)

def GroupClient.types (client : GroupClient) : List TypeExpr :=
  client.declarations.map (·.type) ++ client.signatures.flatMap (·.types)

structure GroupClosed (components : List Declaration) (client : GroupClient) : Prop where
  closed : ∀ type ∈ client.types, ∀ name ∈ type.names,
    (∃ component ∈ components, name = "Types." ++ component.name) ∨
      ('.' ∉ name.toList ∧ (client.declarations.map (·.name)).count name = 1)
  nodup : (client.declarations.map (·.name)).Nodup
  imports : "RequestFn" ∉ client.declarations.map (·.name) ∧
    "Types" ∉ client.declarations.map (·.name)
  callables : (client.signatures.map (·.name)).Nodup

namespace Artifact

section

variable {document : Document} {names : Naming.RegistryNames} {scope : String} {strict : Bool}

theorem componentDeclarations_names (hkeys : document.schemas.keys.Nodup)
    (hnames : Naming.nameRegistry document.schemas.keys scope strict = .ok names) :
    (componentDeclarations document names).map (·.name) = names.map (·.2) := by
  obtain ⟨hregistry, -, -⟩ := Naming.nameRegistry_ok hnames
  have hdeclared : ((componentDeclarations document names).map (·.name)).map some =
      document.schemas.keys.map names.get? := by
    have hdeclares := componentDeclarations_forall₂ hregistry
    unfold Mapping.keys
    generalize componentDeclarations document names = declarations at hdeclares
    generalize document.schemas = components at hdeclares
    induction hdeclares with
    | nil => rfl
    | cons hfirst _ ih =>
      rw [List.map_cons, List.map_cons, List.map_cons, List.map_cons, ih, hfirst.1]
  have hgiven : names.keys.map names.get? = (names.map (·.2)).map some := by
    unfold Mapping.keys
    rw [List.map_map, List.map_map]
    apply List.map_congr_left
    intro entry hentry
    exact Mapping.get?_of_mem (hregistry ▸ hkeys) hentry
  rw [← hregistry, hgiven] at hdeclared
  exact List.map_injective_iff.mpr (fun _ _ h => Option.some.inj h) hdeclared

theorem typesClosed (hkeys : document.schemas.keys.Nodup)
    (hnames : Naming.nameRegistry document.schemas.keys scope strict = .ok names) :
    TypesClosed document names (componentDeclarations document names) := by
  obtain ⟨hregistry, hnodup, -⟩ := Naming.nameRegistry_ok hnames
  have hdeclared := componentDeclarations_names hkeys hnames
  constructor
  · exact componentDeclarations_forall₂ hregistry
  · exact hdeclared ▸ hnodup
  · intro declaration hdeclaration name hname
    obtain ⟨⟨key, schema⟩, -, hsome⟩ := List.mem_filterMap.mp hdeclaration
    obtain ⟨_, -, rfl⟩ := Option.map_eq_some_iff.mp hsome
    obtain ⟨key', declared, hentry, hqualify⟩ := (Synthesis.isBuilt_typeOf _ _).names name hname
    rw [hdeclared, hqualify]
    exact List.mem_map.mpr ⟨(key', declared), hentry, rfl⟩

end

theorem imports_taken (scope : String) (strict : Bool) :
    requestType ∈ (ArtifactScope.empty scope strict).typeNames.taken ∧
      typesNamespace ∈ (ArtifactScope.empty scope strict).typeNames.taken := by
  unfold ArtifactScope.empty
  rw [Allocator.mem_taken_reserve, Allocator.mem_taken_reserve, Allocator.mem_taken_reserve,
    Allocator.mem_taken_reserve]
  exact ⟨.inr (.inl rfl), .inl rfl⟩

theorem dot_not_mem_of_isName {name : String} (h : IsName name) : '.' ∉ name.toList := by
  intro hmem
  exact absurd (h.chars '.' hmem) (by decide)

theorem groupClosed {run : Run} {client : GroupClient} {components : List Declaration}
    (hcomponents : components.map (·.name) = run.names.map (·.2))
    (h : groupContent run client.group client.file =
      .ok (client.signatures, client.declarations)) : GroupClosed components client := by
  obtain ⟨final, hbuilds, hdeclarations⟩ := groupContent_ok h
  obtain ⟨declarations, hnew, hdeclares, huses⟩ := hbuilds.declares
  obtain rfl : declarations = client.declarations := hnew.symm.trans hdeclarations
  obtain ⟨bases, -, hnames⟩ := hdeclares.named
  obtain ⟨-, hnodup, hfresh⟩ := Allocator.allocateAll_ok hnames
  obtain ⟨hrequest, htypes⟩ := imports_taken client.file run.options.strictNames
  obtain ⟨-, hcallables, -⟩ := Allocator.allocateAll_ok hbuilds.methodNames
  have hdistinct : (client.declarations.map (·.name)).Nodup := hnodup.of_map
  constructor
  · intro type htype name hname
    have hbuilt : Synthesis.Uses ⟨run.document, run.names, .local⟩ client.declarations type := by
      rcases List.mem_append.mp htype with htype | htype
      · obtain ⟨declaration, hdeclaration, rfl⟩ := List.mem_map.mp htype
        exact hdeclares.uses declaration hdeclaration
      · obtain ⟨signature, hsignature, htype⟩ := List.mem_flatMap.mp htype
        exact huses signature hsignature type htype
    rcases hbuilt.names name hname with ⟨key, declared, hentry, rfl⟩ | hlocal
    · left
      have hmem : declared ∈ components.map (·.name) :=
        hcomponents ▸ List.mem_map.mpr ⟨(key, declared), hentry, rfl⟩
      obtain ⟨component, hcomponent, rfl⟩ := List.mem_map.mp hmem
      exact ⟨component, hcomponent, rfl⟩
    · right
      exact ⟨dot_not_mem_of_isName (hdeclares.isName name hlocal), List.count_eq_one_of_mem hdistinct hlocal⟩
  · exact hdistinct
  · exact ⟨fun hmem => hfresh _ hmem hrequest, fun hmem => hfresh _ hmem htypes⟩
  · exact hcallables.of_map

/-- Names are closed in the artifacts of every document. Its component keys are distinct when it is
read, by `Document.nodup_keys_ofText`. -/
theorem closed_of_transform {document : Document} {options : Options} {artifacts : Artifacts}
    (hkeys : document.schemas.keys.Nodup)
    (h : transform document options .builtin = .ok artifacts) :
    ∃ names clients,
      Naming.nameRegistry document.schemas.keys (options.artifactName options.typesModule)
        options.strictNames = .ok names ∧
      HasClients (builtinRun document names options) clients ∧
      artifacts = assembled (builtinRun document names options) clients ∧
      TypesClosed document names (componentDeclarations document names) ∧
      ∀ client ∈ clients, GroupClosed (componentDeclarations document names) client := by
  obtain ⟨-, names, clients, hnames, hclients, hartifacts⟩ := transform_ok h
  refine ⟨names, clients, hnames, hclients, hartifacts, typesClosed hkeys hnames, ?_⟩
  intro client hclient
  exact groupClosed (componentDeclarations_names hkeys hnames) (hclients.content client hclient)

theorem closed_of_transform_collisions :
    let refer : String → Json := fun pointer => .object [("$ref", .text pointer)]
    let answer : Json := .object [("200", .object [("content", .object [("application/json",
      .object [("schema", .object [("oneOf", .array [refer "#/components/schemas/a b",
        refer "#/components/schemas/loop/properties/next", refer "#/none"])])])])])]
    let raw : Json := .object [
      ("paths", .object [("/x", .object [
        ("get", .object [("operationId", .text "list pets"), ("responses", answer)]),
        ("put", .object [("operationId", .text "listPets"), ("responses", answer)])])]),
      ("components", .object [("schemas", .object [
        ("a-b", refer "#/components/schemas/a b"), ("a b", refer "#/components/schemas/a-b"),
        ("loop", .object [("properties", .object [
          ("next", refer "#/components/schemas/loop/properties/next")])])])])]
    ∃ document artifacts names clients, Document.ofJson raw = .ok document ∧
      transform document {} .builtin = .ok artifacts ∧
      artifacts = assembled (builtinRun document names {}) clients ∧
      TypesClosed document names (componentDeclarations document names) ∧
      ∀ client ∈ clients, GroupClosed (componentDeclarations document names) client := by
  intro refer answer raw
  have hsome : ((Document.ofJson raw).toOption.bind fun document =>
      (transform document {} .builtin).toOption).isSome = true := by decide +kernel
  have hall : ((Document.ofJson raw).toOption.all fun document =>
      decide document.schemas.keys.Nodup) = true := by decide +kernel
  obtain ⟨document, hdocument⟩ : ∃ document, Document.ofJson raw = .ok document := ⟨_, rfl⟩
  rw [hdocument] at hsome hall
  have hkeys : document.schemas.keys.Nodup := of_decide_eq_true hall
  obtain ⟨artifacts, hartifacts⟩ := Outcome.exists_ok hsome
  obtain ⟨names, clients, -, -, hassembled, htypes, hclients⟩ := closed_of_transform hkeys hartifacts
  exact ⟨document, artifacts, names, clients, hdocument, hartifacts, hassembled, htypes, hclients⟩

end Artifact

end TypedClient
