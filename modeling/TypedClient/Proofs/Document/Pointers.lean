import TypedClient.Proofs.Outcome
import TypedClient.TypeExpr.Synthesis

/-!
Where the pointers of a schema come from. A schema that a document is read into refers to nothing
but strings that stand as references in the raw value.
-/

namespace TypedClient

namespace Json

theorem references_of_mem_items {item : Json} {items : List Json} (h : item ∈ items) :
    item.references ⊆ referencesOfItems items := by
  induction items with
  | nil => cases h
  | cons first rest ih =>
    rw [referencesOfItems]
    rcases List.mem_cons.mp h with rfl | h
    · exact List.subset_append_left _ _
    · exact List.Subset.trans (ih h) (List.subset_append_right _ _)

theorem references_of_mem_members {key : String} {value : Json} {members : Mapping Json}
    (h : (key, value) ∈ members) : value.references ⊆ referencesOfMembers members := by
  induction members with
  | nil => cases h
  | cons first rest ih =>
    obtain ⟨firstKey, firstValue⟩ := first
    rw [referencesOfMembers]
    rcases List.mem_cons.mp h with he | h
    · cases he
      exact List.Subset.trans (List.subset_append_right _ _) (List.subset_append_left _ _)
    · exact List.Subset.trans (ih h) (List.subset_append_right _ _)

theorem mem_references_of_ref {members : Mapping Json} {pointer : String}
    (h : members.get? "$ref" = some (.text pointer)) : pointer ∈ referencesOfMembers members := by
  have hmem := Mapping.mem_of_get? h
  clear h
  induction members with
  | nil => cases hmem
  | cons first rest ih =>
    obtain ⟨key, value⟩ := first
    rw [referencesOfMembers, List.mem_append, List.mem_append]
    rcases List.mem_cons.mp hmem with he | hmem
    · cases he
      exact .inl (.inl (by simp [text?]))
    · exact .inr (ih hmem)

theorem references_child {value below : Json} {segment : String}
    (h : child? segment value = some below) : below.references ⊆ value.references := by
  cases value with
  | array items =>
    obtain ⟨index, -, hitem⟩ := Option.bind_eq_some_iff.mp h
    rw [references]
    exact references_of_mem_items (List.mem_of_getElem? hitem)
  | object members =>
    rw [references.eq_1]
    exact references_of_mem_members (Mapping.mem_of_get? h)
  | _ => cases h

theorem references_descend {value below : Json} {segments : List String}
    (h : value.descend? segments = some below) : below.references ⊆ value.references := by
  induction segments generalizing value with
  | nil =>
    cases h
    exact List.Subset.refl _
  | cons segment segments ih =>
    rw [descend?, List.foldlM_cons] at h
    obtain ⟨next, hnext, hrest⟩ := Option.bind_eq_some_iff.mp h
    exact List.Subset.trans (ih hrest) (references_child hnext)

end Json

namespace Schema

def children : Schema → List Schema
  | .reference _ => []
  | .object properties _ => properties.map (·.2)
  | .array item => [item]
  | .primitive _ => []
  | .union alternatives => alternatives

theorem mem_pointersOfAll {schemas : List Schema} {pointer : String} :
    pointer ∈ pointersOfAll schemas ↔ ∃ schema ∈ schemas, pointer ∈ schema.pointers := by
  induction schemas with
  | nil => simp [pointersOfAll]
  | cons schema rest ih => simp [pointersOfAll, ih]

theorem mem_pointersOfProperties {properties : List (String × Schema)} {pointer : String} :
    pointer ∈ pointersOfProperties properties ↔
      ∃ property ∈ properties, pointer ∈ property.2.pointers := by
  induction properties with
  | nil => simp [pointersOfProperties]
  | cons property rest ih => simp [pointersOfProperties, ih]

theorem mem_pointers_iff {schema : Schema} {pointer : String} :
    pointer ∈ schema.pointers ↔
      schema = .reference pointer ∨ ∃ child ∈ schema.children, pointer ∈ child.pointers := by
  cases schema with
  | reference other => simp [pointers, children, eq_comm]
  | object properties required =>
    rw [pointers, mem_pointersOfProperties]
    constructor
    · rintro ⟨property, hproperty, hmem⟩
      exact .inr ⟨property.2, List.mem_map.mpr ⟨property, hproperty, rfl⟩, hmem⟩
    · rintro (he | ⟨child, hchild, hmem⟩)
      · cases he
      · obtain ⟨property, hproperty, rfl⟩ := List.mem_map.mp hchild
        exact ⟨property, hproperty, hmem⟩
  | array item => simp [pointers, children]
  | primitive kind => simp [pointers, children]
  | union alternatives => simp [pointers, children, mem_pointersOfAll]

mutual

def size : Schema → Nat
  | .reference _ => 1
  | .object properties _ => sizeOfProperties properties + 1
  | .array item => size item + 1
  | .primitive _ => 1
  | .union alternatives => sizeOfAll alternatives + 1

def sizeOfAll : List Schema → Nat
  | [] => 0
  | schema :: rest => size schema + sizeOfAll rest

def sizeOfProperties : List (String × Schema) → Nat
  | [] => 0
  | (_, schema) :: rest => size schema + sizeOfProperties rest

end

theorem size_le_sizeOfAll {schema : Schema} {schemas : List Schema} (h : schema ∈ schemas) :
    schema.size ≤ sizeOfAll schemas := by
  induction schemas with
  | nil => cases h
  | cons first rest ih =>
    rw [sizeOfAll]
    rcases List.mem_cons.mp h with rfl | h
    · exact Nat.le_add_right _ _
    · exact Nat.le_trans (ih h) (Nat.le_add_left _ _)

theorem size_le_sizeOfProperties {property : String × Schema} {properties : List (String × Schema)}
    (h : property ∈ properties) : property.2.size ≤ sizeOfProperties properties := by
  induction properties with
  | nil => cases h
  | cons first rest ih =>
    rw [sizeOfProperties]
    rcases List.mem_cons.mp h with rfl | h
    · exact Nat.le_add_right _ _
    · exact Nat.le_trans (ih h) (Nat.le_add_left _ _)

theorem size_child {schema child : Schema} (h : child ∈ schema.children) :
    child.size < schema.size := by
  cases schema with
  | reference pointer => cases h
  | object properties required =>
    obtain ⟨property, hproperty, rfl⟩ := List.mem_map.mp h
    rw [size]
    exact Nat.lt_succ_of_le (size_le_sizeOfProperties hproperty)
  | array item =>
    obtain rfl := List.mem_singleton.mp h
    exact Nat.lt_succ_self _
  | primitive kind => cases h
  | union alternatives =>
    rw [size]
    exact Nat.lt_succ_of_le (size_le_sizeOfAll h)

theorem induction_children {motive : Schema → Prop}
    (step : ∀ schema, (∀ child ∈ schema.children, motive child) → motive schema) (schema : Schema) :
    motive schema :=
  step schema fun child _ => induction_children step child
termination_by schema.size
decreasing_by exact size_child ‹_›

structure Parts.RefersTo (parts : Parts) (references : List String) : Prop where
  schema : parts.schema.pointers ⊆ references
  alternatives : ∀ schemas ∈ parts.alternatives, pointersOfAll schemas ⊆ references
  properties : ∀ properties ∈ parts.properties, pointersOfProperties properties ⊆ references

theorem Parts.RefersTo.mono {parts : Parts} {references more : List String}
    (h : parts.RefersTo references) (hsubset : references ⊆ more) : parts.RefersTo more := by
  constructor
  · exact List.Subset.trans h.schema hsubset
  · exact fun schemas hschemas => List.Subset.trans (h.alternatives schemas hschemas) hsubset
  · exact fun properties hproperties => List.Subset.trans (h.properties properties hproperties) hsubset

section

variable {references : List String} {members : Mapping Json} {parts : Mapping Parts}

theorem pointers_ofObject (hparts : ∀ entry ∈ parts, entry.2.RefersTo references) :
    (ofObject members parts).pointers ⊆ references := by
  unfold ofObject
  rw [pointers]
  cases hget : parts.get? "properties" with
  | none => exact List.nil_subset _
  | some part =>
    cases hproperties : part.properties with
    | none => simp [hproperties, pointersOfProperties]
    | some properties =>
      have := (hparts _ (Mapping.mem_of_get? hget)).properties properties hproperties
      simpa [hproperties] using this

theorem pointers_ofType (hparts : ∀ entry ∈ parts, entry.2.RefersTo references) (kind : String) :
    (ofType members parts kind).pointers ⊆ references := by
  unfold ofType
  split
  · exact pointers_ofObject hparts
  · rw [pointers]
    cases hget : parts.get? "items" with
    | none => exact List.nil_subset _
    | some part => exact (hparts _ (Mapping.mem_of_get? hget)).schema
  all_goals exact List.nil_subset _

theorem pointers_alternatives (hparts : ∀ entry ∈ parts, entry.2.RefersTo references) {key : String}
    {schemas : List Schema} (h : (parts.get? key).bind (·.alternatives) = some schemas) :
    pointersOfAll schemas ⊆ references := by
  obtain ⟨part, hget, halternatives⟩ := Option.bind_eq_some_iff.mp h
  exact (hparts _ (Mapping.mem_of_get? hget)).alternatives schemas halternatives

theorem pointers_ofMembers (hparts : ∀ entry ∈ parts, entry.2.RefersTo references)
    (href : ∀ pointer, members.get? "$ref" = some (.text pointer) → pointer ∈ references) :
    (ofMembers members parts).pointers ⊆ references := by
  unfold ofMembers
  dsimp only
  split
  next pointer hpointer =>
    obtain ⟨value, hget, htext⟩ := Option.bind_eq_some_iff.mp hpointer
    cases value with
    | text pointer =>
      cases htext
      exact List.cons_subset.mpr ⟨href _ hget, List.nil_subset _⟩
    | _ => cases htext
  split
  next schemas hschemas => exact pointers_alternatives hparts hschemas
  split
  next schemas hschemas => exact pointers_alternatives hparts hschemas
  split
  next schema hsingle =>
    obtain ⟨schemas, hschemas, hschema⟩ := Option.bind_eq_some_iff.mp hsingle
    have hall := pointers_alternatives hparts hschemas
    unfold single? at hschema
    split at hschema
    · cases hschema
      simpa [pointersOfAll] using hall
    · cases hschema
  split
  next kind _ => exact pointers_ofType hparts kind
  next kinds _ =>
    intro pointer hpointer
    obtain ⟨schema, hschema, hmem⟩ := mem_pointersOfAll.mp hpointer
    obtain ⟨kind, -, rfl⟩ := List.mem_map.mp hschema
    exact pointers_ofType hparts kind hmem
  next =>
    split
    · exact pointers_ofObject hparts
    · exact List.nil_subset _

end

mutual

theorem refersTo_partsOf : (value : Json) → (partsOf value).RefersTo value.references
  | .object members => by
    have hparts := refersTo_partsOfMembers members
    rw [Json.references, partsOf]
    constructor
    · exact pointers_ofMembers hparts fun _ => Json.mem_references_of_ref
    · intro schemas hschemas
      cases hschemas
    · intro properties hproperties
      cases hproperties
      intro pointer hpointer
      obtain ⟨property, hproperty, hmem⟩ := mem_pointersOfProperties.mp hpointer
      obtain ⟨entry, hentry, rfl⟩ := List.mem_map.mp hproperty
      exact (hparts entry hentry).schema hmem
  | .array items => by
    rw [Json.references, partsOf]
    constructor
    · exact List.nil_subset _
    · intro schemas hschemas
      cases hschemas
      exact pointers_partsOfItems items
    · intro properties hproperties
      cases hproperties
  | .null => ⟨List.nil_subset _, by simp [partsOf], by simp [partsOf]⟩
  | .bool _ => ⟨List.nil_subset _, by simp [partsOf], by simp [partsOf]⟩
  | .number _ => ⟨List.nil_subset _, by simp [partsOf], by simp [partsOf]⟩
  | .text _ => ⟨List.nil_subset _, by simp [partsOf], by simp [partsOf]⟩

theorem pointers_partsOfItems : (items : List Json) →
    pointersOfAll (partsOfItems items) ⊆ referencesOfItems items
  | [] => List.nil_subset _
  | item :: rest => by
    rw [partsOfItems, pointersOfAll, referencesOfItems]
    apply List.append_subset.mpr
    constructor
    · exact List.Subset.trans (refersTo_partsOf item).schema (List.subset_append_left _ _)
    · exact List.Subset.trans (pointers_partsOfItems rest) (List.subset_append_right _ _)

theorem refersTo_partsOfMembers : (members : List (String × Json)) →
    ∀ entry ∈ partsOfMembers members, entry.2.RefersTo (referencesOfMembers members)
  | [] => by simp [partsOfMembers]
  | (name, value) :: rest => by
    rw [partsOfMembers, referencesOfMembers]
    intro entry hentry
    rcases List.mem_cons.mp hentry with rfl | hentry
    · exact (refersTo_partsOf value).mono
        (List.Subset.trans (List.subset_append_right _ _) (List.subset_append_left _ _))
    · exact (refersTo_partsOfMembers rest entry hentry).mono (List.subset_append_right _ _)

end

end Schema

theorem Document.pointers_resolve {document : Document} {reference : String} {target : Schema}
    (h : document.resolve? reference = some target) :
    target.pointers ⊆ document.raw.references := by
  obtain ⟨value, hlookup, rfl⟩ := Option.map_eq_some_iff.mp h
  obtain ⟨pointer, -, hpointer⟩ := Option.bind_eq_some_iff.mp hlookup
  obtain ⟨segments, -, hdescend⟩ := Option.bind_eq_some_iff.mp hpointer
  exact List.Subset.trans (Schema.refersTo_partsOf value).schema (Json.references_descend hdescend)

end TypedClient
