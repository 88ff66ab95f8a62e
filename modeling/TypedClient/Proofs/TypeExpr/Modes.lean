import TypedClient.Proofs.TypeExpr.Expansion

namespace TypedClient

namespace TypeExpr

mutual

def mapNames (f : String → String) : TypeExpr → TypeExpr
  | .keyword word => .keyword word
  | .named name => .named (f name)
  | .object properties => .object (mapNamesOfProperties f properties)
  | .array item => .array (mapNames f item)
  | .union members => .union (mapNamesOfAll f members)
  | .any note => .any note

def mapNamesOfAll (f : String → String) : List TypeExpr → List TypeExpr
  | [] => []
  | member :: rest => mapNames f member :: mapNamesOfAll f rest

def mapNamesOfProperties (f : String → String) :
    List (Property TypeExpr) → List (Property TypeExpr)
  | [] => []
  | ⟨name, optional, type⟩ :: rest =>
    ⟨name, optional, mapNames f type⟩ :: mapNamesOfProperties f rest

end

theorem mapNamesOfAll_map {α : Type} (f : String → String) (types : α → TypeExpr) (items : List α) :
    mapNamesOfAll f (items.map types) = items.map fun item => (types item).mapNames f := by
  induction items with
  | nil => rfl
  | cons item rest ih => rw [List.map_cons, mapNamesOfAll, ih, List.map_cons]

theorem mapNamesOfProperties_map {α : Type} (f : String → String)
    (property : α → Property TypeExpr) (items : List α) :
    mapNamesOfProperties f (items.map property) = items.map fun item =>
      ⟨(property item).name, (property item).optional, (property item).type.mapNames f⟩ := by
  induction items with
  | nil => rfl
  | cons item rest ih => rw [List.map_cons, mapNamesOfProperties, ih, List.map_cons]

end TypeExpr

theorem Schema.mapNames_shape (f : String → String) (types : Schema → TypeExpr) (schema : Schema) :
    (schema.shape types).mapNames f = schema.shape fun child => (types child).mapNames f := by
  cases schema with
  | reference pointer => rfl
  | object properties required =>
    cases properties with
    | nil => rfl
    | cons property rest =>
      exact congrArg TypeExpr.object (TypeExpr.mapNamesOfProperties_map f _ (property :: rest))
  | array item => rfl
  | primitive kind => cases kind <;> rfl
  | union alternatives =>
    cases alternatives with
    | nil => rfl
    | cons first others =>
      cases others with
      | nil => rfl
      | cons second rest =>
        exact congrArg TypeExpr.union (TypeExpr.mapNamesOfAll_map f types (first :: second :: rest))

namespace Synthesis

variable {document : Document} {names : Naming.RegistryNames} {mode mode' : TypeMode}
  {f : String → String}

theorem mapNames_registryType (hf : ∀ name, f (mode.qualify name) = mode'.qualify name)
    (pointer key : String) :
    (registryType ⟨document, names, mode⟩ pointer key).mapNames f =
      registryType ⟨document, names, mode'⟩ pointer key := by
  unfold registryType
  cases names.get? key with
  | none => rfl
  | some name => exact congrArg TypeExpr.named (hf name)

theorem Expands.inMode (hf : ∀ name, f (mode.qualify name) = mode'.qualify name)
    {state : Expansion} {type : TypeExpr} (h : Expands ⟨document, names, mode⟩ state type) :
    Expands ⟨document, names, mode'⟩ state (type.mapNames f) := by
  induction h with
  | registry hkey =>
    rw [mapNames_registryType hf]
    exact .registry hkey
  | circular hinlined hmem => exact .circular hinlined hmem
  | unresolved hinlined hnew hnone => exact .unresolved hinlined hnew hnone
  | target hinlined hnew htarget _ ih => exact .target hinlined hnew htarget ih
  | shape hreference _ ih =>
    rw [Schema.mapNames_shape]
    exact .shape hreference ih

/-- A type for an artifact that imports the component types is the type among them, with the
namespace before every name. -/
theorem typeOf_local (document : Document) (names : Naming.RegistryNames) (schema : Schema) :
    typeOf ⟨document, names, .local⟩ schema =
      (typeOf ⟨document, names, .global⟩ schema).mapNames fun name => "Types." ++ name := by
  have hqualify : ∀ name, "Types." ++ TypeMode.global.qualify name = TypeMode.local.qualify name :=
    fun _ => rfl
  have hglobal := expands_typeOf ⟨document, names, .global⟩ schema
  have hlocal := expands_typeOf ⟨document, names, .local⟩ schema
  exact hlocal.unique (hglobal.inMode hqualify)

end Synthesis

end TypedClient
