import TypedClient.Proofs.Document.Resolution

namespace TypedClient

open Schema (ofMembers ofObject ofType partsOf partsOfItems partsOfMembers single?)

theorem Mapping.has_eq {α : Type} (mapping : Mapping α) (key : String) :
    mapping.has key = (mapping.get? key).isSome := by
  induction mapping with
  | nil => rfl
  | cons entry rest ih =>
    obtain ⟨k, value⟩ := entry
    rw [has, List.any_cons, ← has, ih, get?]
    by_cases h : k = key
    · simp [h]
    · simp [h]

namespace Json

/-- What one layer of a raw schema says. Each type of a list of types is an alternative. -/
inductive Layer where
  | reference (pointer : String)
  | alternatives (values : List Json)
  | conjunction (value : Json)
  | object (entries : Mapping Json) (required : List String)
  | array (item : Json)
  | plain (kind : Primitive)

def propertyEntries (members : Mapping Json) : Mapping Json :=
  ((members.get? "properties").bind members?).getD []

def requiredNames (members : Mapping Json) : List String :=
  (((members.get? "required").bind items?).getD []).filterMap text?

def layerOfObject (members : Mapping Json) : Layer :=
  .object (propertyEntries members) (requiredNames members)

def layerOfType (members : Mapping Json) : String → Layer
  | "object" => layerOfObject members
  | "array" => .array ((members.get? "items").getD .null)
  | "string" => .plain .string
  | "number" => .plain .number
  | "integer" => .plain .integer
  | "boolean" => .plain .boolean
  | kind => .plain (.other (some kind))

def withType (members : Mapping Json) (kind : String) : Json :=
  .object (members.insert "type" (.text kind))

def layerOfTyped (members : Mapping Json) : Layer :=
  match members.get? "type" with
  | some (.text kind) => layerOfType members kind
  | some (.array kinds) => .alternatives ((kinds.filterMap text?).map (withType members))
  | _ => if members.has "properties" then layerOfObject members else .plain (.other none)

def layerOfMembers (members : Mapping Json) : Layer :=
  match (members.get? "$ref").bind text? with
  | some pointer => .reference pointer
  | none =>
  match (members.get? "oneOf").bind items? with
  | some values => .alternatives values
  | none =>
  match (members.get? "anyOf").bind items? with
  | some values => .alternatives values
  | none =>
  match (members.get? "allOf").bind items? with
  | some [value] => .conjunction value
  | _ => layerOfTyped members

structure IsTyped (members : Mapping Json) : Prop where
  reference : (members.get? "$ref").bind text? = none
  oneOf : (members.get? "oneOf").bind items? = none
  anyOf : (members.get? "anyOf").bind items? = none
  allOf (value : Json) : (members.get? "allOf").bind items? ≠ some [value]

def layer : Json → Layer
  | .object members => layerOfMembers members
  | _ => .plain (.other none)

def Layer.schema : Layer → Schema
  | .reference pointer => .reference pointer
  | .alternatives values => .union (values.map Schema.ofJson)
  | .conjunction value => Schema.ofJson value
  | .object entries required =>
    .object (entries.map fun (name, value) => (name, Schema.ofJson value)) (distinct required)
  | .array item => .array (Schema.ofJson item)
  | .plain kind => .primitive kind

variable {members : Mapping Json}

theorem layerOfMembers_of_isTyped (h : IsTyped members) :
    layerOfMembers members = layerOfTyped members := by
  unfold layerOfMembers
  rw [h.reference, h.oneOf, h.anyOf]
  dsimp only
  split
  next value hallOf => exact absurd hallOf (h.allOf value)
  next => rfl

theorem IsTyped.insert (h : IsTyped members) {key : String}
    (hkey : key ∉ ["$ref", "oneOf", "anyOf", "allOf"]) (value : Json) :
    IsTyped (members.insert key value) := by
  simp only [List.mem_cons, List.not_mem_nil, or_false, not_or] at hkey
  obtain ⟨hreference, honeOf, hanyOf, hallOf⟩ := hkey
  constructor
  · rw [Mapping.get?_insert_of_ne members (Ne.symm hreference)]
    exact h.reference
  · rw [Mapping.get?_insert_of_ne members (Ne.symm honeOf)]
    exact h.oneOf
  · rw [Mapping.get?_insert_of_ne members (Ne.symm hanyOf)]
    exact h.anyOf
  · rw [Mapping.get?_insert_of_ne members (Ne.symm hallOf)]
    exact h.allOf

theorem layerOfType_insert_type (members : Mapping Json) (value : Json) (kind : String) :
    layerOfType (members.insert "type" value) kind = layerOfType members kind := by
  have hother {key : String} (hkey : key ≠ "type") :
      (members.insert "type" value).get? key = members.get? key :=
    Mapping.get?_insert_of_ne members hkey value
  unfold layerOfType layerOfObject propertyEntries requiredNames
  rw [hother (by decide), hother (by decide), hother (by decide)]

end Json

namespace Schema

variable {members : Mapping Json}

theorem partsOfItems_eq_map (items : List Json) : partsOfItems items = items.map ofJson := by
  induction items with
  | nil => rfl
  | cons item rest ih =>
    rw [partsOfItems, ih, List.map_cons]
    rfl

theorem partsOfMembers_eq_map (members : Mapping Json) :
    partsOfMembers members = members.map fun (name, value) => (name, partsOf value) := by
  induction members with
  | nil => rfl
  | cons entry rest ih =>
    obtain ⟨name, value⟩ := entry
    rw [partsOfMembers, ih, List.map_cons]

theorem get?_partsOfMembers (members : Mapping Json) (key : String) :
    Mapping.get? (partsOfMembers members) key = (members.get? key).map partsOf := by
  rw [partsOfMembers_eq_map, Mapping.get?_map]

theorem alternatives_partsOf (value : Json) :
    (partsOf value).alternatives = value.items?.map (·.map ofJson) := by
  cases value with
  | array items => exact congrArg some (partsOfItems_eq_map items)
  | _ => rfl

theorem properties_partsOf (value : Json) : (partsOf value).properties =
    value.members?.map (·.map fun (name, value) => (name, ofJson value)) := by
  cases value with
  | object members =>
    rw [partsOf, partsOfMembers_eq_map]
    simp only [List.map_map]
    rfl
  | _ => rfl

theorem alternatives_partsOfMembers (members : Mapping Json) (key : String) :
    (Mapping.get? (partsOfMembers members) key).bind (·.alternatives) =
      ((members.get? key).bind Json.items?).map (·.map ofJson) := by
  rw [get?_partsOfMembers, Option.bind_map, Option.map_bind]
  exact congrArg _ (funext alternatives_partsOf)

theorem ofObject_eq (members : Mapping Json) :
    ofObject members (partsOfMembers members) = (Json.layerOfObject members).schema := by
  have hproperties : (Mapping.get? (partsOfMembers members) "properties").bind
      (·.properties) = ((members.get? "properties").bind Json.members?).map
        (·.map fun (name, value) => (name, ofJson value)) := by
    rw [get?_partsOfMembers, Option.bind_map, Option.map_bind]
    exact congrArg _ (funext properties_partsOf)
  rw [ofObject, hproperties, Json.layerOfObject, Json.Layer.schema, Json.propertyEntries]
  cases (members.get? "properties").bind Json.members? <;> rfl

theorem ofType_eq (members : Mapping Json) (kind : String) :
    ofType members (partsOfMembers members) kind = (Json.layerOfType members kind).schema := by
  have hitems : ((Mapping.get? (partsOfMembers members) "items").map (·.schema)).getD
      untyped = ofJson ((members.get? "items").getD .null) := by
    rw [get?_partsOfMembers]
    cases members.get? "items" <;> rfl
  unfold ofType Json.layerOfType
  split
  · exact ofObject_eq members
  · exact congrArg Schema.array hitems
  case h_7 => simp_all [Json.Layer.schema]
  all_goals rfl

def ofTyped (members : Mapping Json) : Schema :=
  match members.get? "type" with
  | some (.text kind) => ofType members (partsOfMembers members) kind
  | some (.array kinds) =>
    .union ((kinds.filterMap Json.text?).map (ofType members (partsOfMembers members)))
  | _ => if members.has "properties" then ofObject members (partsOfMembers members) else untyped

theorem ofMembers_of_isTyped (h : Json.IsTyped members) :
    ofMembers members (partsOfMembers members) = ofTyped members := by
  obtain ⟨hreference, honeOf, hanyOf, hallOf⟩ := h
  have hsingle : (((members.get? "allOf").bind Json.items?).map (·.map ofJson)).bind single? =
      none := by
    cases hitems : (members.get? "allOf").bind Json.items? with
    | none => rfl
    | some values =>
      match values with
      | [] => rfl
      | [value] => exact absurd hitems (hallOf value)
      | _ :: _ :: _ => rfl
  unfold ofMembers
  dsimp only
  rw [alternatives_partsOfMembers, alternatives_partsOfMembers, alternatives_partsOfMembers,
    hreference, honeOf, hanyOf, hsingle]
  rfl

theorem ofJson_withType (h : Json.IsTyped members) (kind : String) :
    ofJson (Json.withType members kind) = ofType members (partsOfMembers members) kind := by
  have hkind : ofTyped (members.insert "type" (.text kind)) =
      ofType (members.insert "type" (.text kind))
        (partsOfMembers (members.insert "type" (.text kind))) kind := by
    rw [ofTyped, Mapping.get?_insert_self]
  calc ofJson (Json.withType members kind)
      = ofTyped (members.insert "type" (.text kind)) :=
        ofMembers_of_isTyped (h.insert (by decide) (.text kind))
    _ = (Json.layerOfType members kind).schema := by
        rw [hkind, ofType_eq, Json.layerOfType_insert_type]
    _ = ofType members (partsOfMembers members) kind := (ofType_eq members kind).symm

theorem ofTyped_eq (h : Json.IsTyped members) :
    ofTyped members = (Json.layerOfTyped members).schema := by
  unfold ofTyped Json.layerOfTyped
  split
  next kind _ => exact ofType_eq members kind
  next kinds _ =>
    rw [Json.Layer.schema, List.map_map]
    apply congrArg Schema.union
    apply List.map_congr_left
    intro kind _
    exact (ofJson_withType h kind).symm
  next =>
    split
    · exact ofObject_eq members
    · rfl

theorem ofMembers_eq (members : Mapping Json) :
    ofMembers members (partsOfMembers members) = (Json.layerOfMembers members).schema := by
  cases hreference : (members.get? "$ref").bind Json.text? with
  | some pointer => simp only [ofMembers, Json.layerOfMembers, hreference, Json.Layer.schema]
  | none =>
  cases honeOf : (members.get? "oneOf").bind Json.items? with
  | some values =>
    simp only [ofMembers, Json.layerOfMembers, hreference, alternatives_partsOfMembers, honeOf,
      Option.map_some, Json.Layer.schema]
  | none =>
  cases hanyOf : (members.get? "anyOf").bind Json.items? with
  | some values =>
    simp only [ofMembers, Json.layerOfMembers, hreference, alternatives_partsOfMembers, honeOf,
      hanyOf, Option.map_some, Option.map_none, Json.Layer.schema]
  | none =>
  by_cases hallOf : ∃ value, (members.get? "allOf").bind Json.items? = some [value]
  · obtain ⟨value, hallOf⟩ := hallOf
    simp only [ofMembers, Json.layerOfMembers, hreference, alternatives_partsOfMembers, honeOf,
      hanyOf, hallOf, Option.map_some, Option.map_none, Json.Layer.schema]
    rfl
  · have htyped : Json.IsTyped members :=
      ⟨hreference, honeOf, hanyOf, fun value h => hallOf ⟨value, h⟩⟩
    rw [ofMembers_of_isTyped htyped, Json.layerOfMembers_of_isTyped htyped, ofTyped_eq htyped]

theorem ofJson_eq_layer (value : Json) : ofJson value = value.layer.schema := by
  cases value with
  | object members => exact ofMembers_eq members
  | _ => rfl

end Schema

namespace Json

variable {members : Mapping Json} {value inner core : Json} {entries : Mapping Json}
  {required : List String}

theorem isTyped_of_layerOfMembers (h : layerOfMembers members = .object entries required) :
    IsTyped members := by
  unfold layerOfMembers at h
  split at h
  · cases h
  next hreference =>
  split at h
  · cases h
  next honeOf =>
  split at h
  · cases h
  next hanyOf =>
  split at h
  · cases h
  next hallOf => exact ⟨hreference, honeOf, hanyOf, hallOf⟩

def declaresObject (members : Mapping Json) : Bool :=
  match members.get? "type" with
  | some (.text kind) => kind == "object"
  | some (.array _) => false
  | _ => members.has "properties"

theorem layerOfTyped_eq_object_iff : layerOfTyped members = .object entries required ↔
    declaresObject members = true ∧ layerOfObject members = .object entries required := by
  unfold layerOfTyped declaresObject
  split
  next kind _ =>
    rw [beq_iff_eq]
    constructor
    · intro h
      have hkind : kind = "object" := by
        unfold layerOfType at h
        split at h
        · rfl
        all_goals cases h
      subst hkind
      exact ⟨rfl, h⟩
    · rintro ⟨rfl, h⟩
      exact h
  next kinds _ => simp
  next =>
    split
    next hproperties => simp [hproperties]
    next hproperties => simp [hproperties]

theorem layerOfMembers_eq_object_iff : layerOfMembers members = .object entries required ↔
    IsTyped members ∧ declaresObject members = true ∧
      propertyEntries members = entries ∧ requiredNames members = required := by
  rw [← Layer.object.injEq, ← layerOfObject, ← layerOfTyped_eq_object_iff]
  constructor
  · intro h
    have htyped := isTyped_of_layerOfMembers h
    exact ⟨htyped, layerOfMembers_of_isTyped htyped ▸ h⟩
  · rintro ⟨htyped, h⟩
    rw [layerOfMembers_of_isTyped htyped, h]

theorem layerOfMembers_insert_required (h : layerOfMembers members = .object entries required)
    (items : List Json) : layerOfMembers (members.insert "required" (.array items)) =
      .object entries (items.filterMap text?) := by
  have hother {key : String} (hkey : key ≠ "required") :
      (members.insert "required" (.array items)).get? key = members.get? key :=
    Mapping.get?_insert_of_ne members hkey _
  obtain ⟨htyped, hobject, hentries, -⟩ := layerOfMembers_eq_object_iff.mp h
  refine layerOfMembers_eq_object_iff.mpr ⟨htyped.insert (by decide) _, ?_, ?_, ?_⟩
  · unfold declaresObject at hobject ⊢
    rw [hother (by decide), Mapping.has_eq, hother (by decide), ← Mapping.has_eq]
    exact hobject
  · unfold propertyEntries at hentries ⊢
    rw [hother (by decide)]
    exact hentries
  · rw [requiredNames, Mapping.get?_insert_self]
    rfl

/-- A value, or what it is a conjunction of with nothing else, at any depth. -/
inductive Conjoins : Json → Json → Prop
  | self (value : Json) : Conjoins value value
  | within {value inner core : Json} : value.layer = .conjunction inner → Conjoins inner core →
      Conjoins value core

theorem Conjoins.ofJson_eq (h : Conjoins value core) :
    Schema.ofJson value = Schema.ofJson core := by
  induction h with
  | self value => rfl
  | within hlayer _ ih => rw [Schema.ofJson_eq_layer, hlayer, Layer.schema, ih]

theorem layerOfTyped_ne_conjunction : layerOfTyped members ≠ .conjunction inner := by
  unfold layerOfTyped
  split
  next kind _ =>
    unfold layerOfType
    split <;> exact fun h => by cases h
  next => exact fun h => by cases h
  next =>
    split <;> exact fun h => by cases h

theorem allOf_of_conjunction (h : layerOfMembers members = .conjunction inner) :
    (members.get? "allOf").bind items? = some [inner] := by
  unfold layerOfMembers at h
  split at h
  · cases h
  split at h
  · cases h
  split at h
  · cases h
  split at h
  next value hallOf =>
    cases h
    exact hallOf
  next => exact absurd h layerOfTyped_ne_conjunction

theorem sizeOf_conjunction (h : value.layer = .conjunction inner) :
    sizeOf inner < sizeOf value := by
  cases value with
  | object members =>
    obtain ⟨below, hbelow, hitems⟩ := Option.bind_eq_some_iff.mp (allOf_of_conjunction h)
    cases below with
    | array items =>
      cases hitems
      have hsize := List.sizeOf_lt_of_mem (Mapping.mem_of_get? hbelow)
      simp only [Prod.mk.sizeOf_spec, array.sizeOf_spec, object.sizeOf_spec,
        List.cons.sizeOf_spec] at hsize ⊢
      omega
    | _ => cases hitems
  | _ => cases h

theorem exists_core (value : Json) :
    ∃ core, Conjoins value core ∧ ∀ inner, core.layer ≠ .conjunction inner := by
  by_cases h : ∃ inner, value.layer = .conjunction inner
  · obtain ⟨inner, hlayer⟩ := h
    obtain ⟨core, hconjoins, hcore⟩ := exists_core inner
    exact ⟨core, .within hlayer hconjoins, hcore⟩
  · exact ⟨value, .self value, fun inner hlayer => h ⟨inner, hlayer⟩⟩
termination_by sizeOf value
decreasing_by exact sizeOf_conjunction ‹_›

theorem exists_layer (value : Json) :
    ∃ core, Conjoins value core ∧ (∀ inner, core.layer ≠ .conjunction inner) ∧
      Schema.ofJson value = core.layer.schema := by
  obtain ⟨core, hconjoins, hcore⟩ := exists_core value
  exact ⟨core, hconjoins, hcore, hconjoins.ofJson_eq.trans (Schema.ofJson_eq_layer core)⟩

end Json

end TypedClient
