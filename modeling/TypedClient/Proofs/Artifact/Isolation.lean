import TypedClient.Proofs.Naming.Strictness
import TypedClient.Proofs.Document.Resolution
import TypedClient.Proofs.TypeExpr.Expansion
import TypedClient.Proofs.Artifact.Assembly

/-!
Component types do not look at each other. A type whose references all name components is written
from its own schema and the keys of the registry, whatever else the document holds.
-/

namespace TypedClient

namespace Naming

namespace Allocator

def asScope (allocator : Allocator) (scope : String) (strict : Bool) : Allocator :=
  { allocator with scope, strict }

variable {allocator next next' : Allocator} {base name name' scope : String} {strict : Bool}
  {bases names names' : List String}

theorem allocate_asScope (h : allocator.allocate base = .ok (name, next))
    (h' : (allocator.asScope scope strict).allocate base = .ok (name', next')) :
    name = name' ∧ next' = next.asScope scope strict := by
  have htaken : (allocator.asScope scope strict).isTaken base = allocator.isTaken base := rfl
  rw [allocate] at h h'
  rw [htaken] at h'
  split at h
  next hbase =>
    rw [if_pos hbase] at h'
    split at h
    · cases h
    split at h'
    · cases h'
    cases h
    cases h'
    exact ⟨rfl, rfl⟩
  next hbase =>
    rw [if_neg hbase] at h'
    cases h
    cases h'
    exact ⟨rfl, rfl⟩

theorem allocateAll_asScope (h : allocator.allocateAll bases = .ok (names, next))
    (h' : (allocator.asScope scope strict).allocateAll bases = .ok (names', next')) :
    names = names' := by
  induction bases generalizing allocator names names' with
  | nil =>
    cases h
    cases h'
    rfl
  | cons base bases ih =>
    obtain ⟨name, rest, middle, rfl, hname, hrest⟩ := allocateAll_cons_ok h
    obtain ⟨name', rest', middle', rfl, hname', hrest'⟩ := allocateAll_cons_ok h'
    obtain ⟨rfl, rfl⟩ := allocate_asScope hname hname'
    rw [ih hrest hrest']

end Allocator

theorem nameRegistry_unique {keys : List String} {scope scope' : String} {strict strict' : Bool}
    {names names' : RegistryNames} (h : nameRegistry keys scope strict = .ok names)
    (h' : nameRegistry keys scope' strict' = .ok names') : names = names' := by
  obtain ⟨⟨declared, next⟩, hall, hreturn⟩ := Outcome.bind_ok h
  obtain ⟨⟨declared', next'⟩, hall', hreturn'⟩ := Outcome.bind_ok h'
  cases hreturn
  cases hreturn'
  have hall'' : ((Allocator.empty scope strict).asScope scope' strict').allocateAll
      (keys.map registryBase) = .ok (declared', next') := hall'
  rw [Allocator.allocateAll_asScope hall hall'']

end Naming

namespace Schema

theorem typeWith_congr {types types' : String → TypeExpr} (schema : Schema)
    (h : ∀ pointer ∈ schema.pointers, types pointer = types' pointer) :
    schema.typeWith types = schema.typeWith types' := by
  induction schema using Schema.induction_children with
  | step schema ih =>
    cases hreference : schema.isReference with
    | true =>
      cases schema with
      | reference pointer => exact h pointer (by simp [pointers])
      | _ => cases hreference
    | false =>
      rw [typeWith_eq_shape, typeWith_eq_shape]
      apply shape_congr hreference
      intro child hchild
      exact ih child hchild fun pointer hpointer =>
        h pointer (mem_pointers_iff.mpr (.inr ⟨child, hchild, hpointer⟩))

def RefersToComponents (schema : Schema) : Prop :=
  ∀ pointer ∈ schema.pointers, ∃ token,
    pointer.toList = "#/components/schemas/".toList ++ token ∧ '/' ∉ token

theorem RefersToComponents.registryKey {schema : Schema} (h : schema.RefersToComponents)
    {pointer : String} (hpointer : pointer ∈ schema.pointers) :
    ∃ key, registryKey? pointer = some key := by
  obtain ⟨token, htext, htoken⟩ := h pointer hpointer
  exact ⟨String.ofList (Json.readToken token),
    registryKey?_eq_some_iff.mpr ⟨token, htext, htoken, String.toList_ofList⟩⟩

end Schema

namespace Synthesis

theorem referenceType_component (synthesis : Synthesis) {pointer key : String}
    (h : registryKey? pointer = some key) (fuel : Nat) (chain : List String) :
    synthesis.referenceType (fuel + 1) chain pointer = synthesis.registryType pointer key := by
  rw [referenceType, h]

theorem typeOf_isolated (document document' : Document) (names : Naming.RegistryNames)
    (mode : TypeMode) {schema : Schema} (h : schema.RefersToComponents) :
    typeOf ⟨document, names, mode⟩ schema = typeOf ⟨document', names, mode⟩ schema := by
  apply Schema.typeWith_congr
  intro pointer hpointer
  obtain ⟨key, hkey⟩ := h.registryKey hpointer
  rw [referenceType_component _ hkey, referenceType_component _ hkey]
  rfl

end Synthesis

namespace Artifact

theorem exists_declaration {document : Document} {names : Naming.RegistryNames} {i : Nat}
    {key : String} {schema : Schema} (hnames : names.keys = document.schemas.keys)
    (h : document.schemas[i]? = some (key, schema)) :
    ∃ name, names.get? key = some name ∧ (componentDeclarations document names)[i]? =
      some ⟨name, Synthesis.typeOf ⟨document, names, .global⟩ schema⟩ := by
  have hall := componentDeclarations_forall₂ hnames
  obtain ⟨hi, hentry⟩ := List.getElem?_eq_some_iff.mp h
  have hi' : i < (componentDeclarations document names).length := hall.length_eq ▸ hi
  have hdeclared := hall.get hi hi'
  rw [List.get_eq_getElem, List.get_eq_getElem, hentry] at hdeclared
  obtain ⟨hname, htype⟩ := hdeclared
  exact ⟨_, hname, List.getElem?_eq_some_iff.mpr ⟨hi', by rw [← htype]⟩⟩

/-- Two documents with the same registry keys: where both have the same schema at a key, and all its
references name components, the types file of the one declares at this place what that of the other
declares there. -/
theorem declarations_isolated {document document' : Document} {scope scope' : String}
    {strict strict' : Bool} {names names' : Naming.RegistryNames}
    (hkeys : document.schemas.keys = document'.schemas.keys)
    (hnames : Naming.nameRegistry document.schemas.keys scope strict = .ok names)
    (hnames' : Naming.nameRegistry document'.schemas.keys scope' strict' = .ok names')
    (banner banner' : String) :
    emitTypes document names .builtin banner =
        .ok (typesText banner ((componentDeclarations document names).map (·.text))) ∧
      emitTypes document' names' .builtin banner' =
        .ok (typesText banner' ((componentDeclarations document' names').map (·.text))) ∧
      ∀ (i : Nat) (key : String) (schema : Schema), document.schemas[i]? = some (key, schema) →
        document'.schemas[i]? = some (key, schema) → schema.RefersToComponents →
        ∃ declaration, names.get? key = some declaration.name ∧
          (componentDeclarations document names)[i]? = some declaration ∧
          (componentDeclarations document' names')[i]? = some declaration := by
  rw [← hkeys] at hnames'
  obtain rfl := Naming.nameRegistry_unique hnames hnames'
  obtain ⟨hown, -, -⟩ := Naming.nameRegistry_ok hnames
  refine ⟨emitTypes_builtin document names banner, emitTypes_builtin document' names banner', ?_⟩
  intro i key schema hschema hschema' hrefers
  obtain ⟨name, hname, hdeclared⟩ := exists_declaration hown hschema
  obtain ⟨name', hname', hdeclared'⟩ := exists_declaration (hown.trans hkeys) hschema'
  obtain rfl := Option.some.inj (hname.symm.trans hname')
  rw [Synthesis.typeOf_isolated document' document names .global hrefers] at hdeclared'
  exact ⟨_, hname, hdeclared, hdeclared'⟩

theorem declarations_isolated_neighbours :
    let page : Json := .object [("properties", .object [
      ("items", .object [("type", .text "array"),
        ("items", .object [("$ref", .text "#/components/schemas/a b")])])])]
    let raw : Mapping Json → Json → Json := fun paths neighbour => .object [
      ("paths", .object paths),
      ("components", .object [("schemas", .object [("a-b", page), ("a b", neighbour)])])]
    let schema : Schema :=
      .object [("items", .array (.reference "#/components/schemas/a b"))] []
    let document : Document :=
      ⟨raw [] (.object [("type", .text "string")]), none, none, [],
        [("a-b", schema), ("a b", .primitive .string)]⟩
    let document' : Document :=
      ⟨raw [("/x", .object [])] (.object [("$ref", .text "#/none")]), none, none, [("/x", [])],
        [("a-b", schema), ("a b", .reference "#/none")]⟩
    let names : Naming.RegistryNames := [("a-b", "AB"), ("a b", "AB2")]
    Document.ofJson document.raw = .ok document ∧ Document.ofJson document'.raw = .ok document' ∧
      Naming.nameRegistry document.schemas.keys "types.ts" false = .ok names ∧
      ∃ declaration, declaration.name = "AB" ∧
        (componentDeclarations document names)[0]? = some declaration ∧
        (componentDeclarations document' names)[0]? = some declaration := by
  intro page raw schema document document' names
  have hnames : Naming.nameRegistry document.schemas.keys "types.ts" false = .ok names := by
    have hok : (Naming.nameRegistry ["a-b", "a b"] "types.ts" false).toOption = some names := by
      decide +kernel
    exact Outcome.ok_of_toOption hok
  have hrefers : schema.RefersToComponents := by
    intro pointer hpointer
    obtain rfl : pointer = "#/components/schemas/a b" := List.mem_singleton.mp hpointer
    exact ⟨"a b".toList, by decide, by decide⟩
  obtain ⟨-, -, hsame⟩ :=
    @declarations_isolated document document' _ _ _ _ _ _ rfl hnames hnames "" ""
  obtain ⟨declaration, hname, hdeclared, hdeclared'⟩ := hsame 0 "a-b" schema rfl rfl hrefers
  exact ⟨rfl, rfl, hnames, declaration, (Option.some.inj hname).symm, hdeclared, hdeclared'⟩

end Artifact

end TypedClient
