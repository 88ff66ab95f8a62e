import TypedClient.Proofs.Json.Pointer
import TypedClient.Proofs.Naming.Registry
import TypedClient.TypeExpr.Synthesis

namespace TypedClient

open Json (pointerSegments? readToken)

namespace Mapping

variable {α β : Type}

theorem get?_map (f : α → β) (mapping : Mapping α) (key : String) :
    get? (mapping.map fun (name, value) => (name, f value)) key = (mapping.get? key).map f := by
  induction mapping with
  | nil => rfl
  | cons entry rest ih =>
    obtain ⟨name, value⟩ := entry
    simp only [List.map_cons, get?]
    split
    · rfl
    · exact ih

theorem isSome_get?_iff {mapping : Mapping α} {key : String} :
    (mapping.get? key).isSome = true ↔ key ∈ mapping.keys := by
  rw [Option.isSome_iff_exists]
  constructor
  · rintro ⟨value, hvalue⟩
    exact List.mem_map.mpr ⟨_, mem_of_get? hvalue, rfl⟩
  · exact get?_of_mem_keys

end Mapping

theorem Json.descend?_concat (value : Json) (segments : List String) (segment : String) :
    value.descend? (segments ++ [segment]) = (value.descend? segments).bind (child? segment) := by
  rw [descend?, List.foldlM_append]
  simp only [List.foldlM_cons, List.foldlM_nil, bind_pure]
  rfl

namespace Reference

theorem pointer?_eq_some_iff {reference : String} {pointer : List Char} :
    pointer? reference = some pointer ↔ reference.toList = '#' :: pointer := by
  unfold pointer?
  constructor
  · intro h
    split at h
    next hreference =>
      cases h
      exact hreference
    · cases h
  · intro h
    rw [h]
    rfl

theorem lookup?_eq_some_iff {root target : Json} {reference : String} :
    lookup? root reference = some target ↔
      ∃ pointer, reference.toList = '#' :: pointer ∧ root.Leads pointer target := by
  simp only [lookup?, Option.bind_eq_some_iff, pointer?_eq_some_iff, Json.pointer?_eq_some_iff]

end Reference

theorem registryKey?_eq_some_iff_segments {reference key : String} :
    registryKey? reference = some key ↔ ∃ pointer, reference.toList = '#' :: pointer ∧
      pointerSegments? pointer = some ["components", "schemas", key] := by
  constructor
  · intro h
    obtain ⟨parsed, hparsed, hkey⟩ := Option.bind_eq_some_iff.mp h
    obtain ⟨pointer, hpointer, hrest⟩ := Option.bind_eq_some_iff.mp hparsed
    obtain ⟨segments, hsegments, hreturn⟩ := Option.bind_eq_some_iff.mp hrest
    cases hreturn
    unfold Reference.componentKey? at hkey
    dsimp only at hkey
    split at hkey
    · cases hkey
      exact ⟨pointer, Reference.pointer?_eq_some_iff.mp hpointer, hsegments⟩
    · cases hkey
  · rintro ⟨pointer, hpointer, hsegments⟩
    have hparsed : Reference.parse? reference =
        some ⟨reference, ["components", "schemas", key]⟩ := by
      rw [Reference.parse?, Reference.pointer?_eq_some_iff.mpr hpointer]
      simp [hsegments]
    rw [registryKey?, hparsed]
    rfl

theorem registryKey?_eq_some_iff {reference key : String} :
    registryKey? reference = some key ↔ ∃ token,
      reference.toList = "#/components/schemas/".toList ++ token ∧ '/' ∉ token ∧
        key.toList = readToken token := by
  rw [registryKey?_eq_some_iff_segments]
  constructor
  · rintro ⟨pointer, hreference, hsegments⟩
    obtain ⟨first, rest, rfl, -, hfirst, hsegments⟩ :=
      Json.pointerSegments?_eq_some_cons_iff.mp hsegments
    obtain ⟨second, rest', rfl, -, hsecond, hsegments⟩ :=
      Json.pointerSegments?_eq_some_cons_iff.mp hsegments
    obtain ⟨token, last, rfl, htoken, hkey, hlast⟩ :=
      Json.pointerSegments?_eq_some_cons_iff.mp hsegments
    obtain rfl := Json.pointerSegments?_eq_some_nil_iff.mp hlast
    obtain rfl := Json.readToken_eq_self hfirst.symm (by decide) (by decide)
    obtain rfl := Json.readToken_eq_self hsecond.symm (by decide) (by decide)
    refine ⟨token, ?_, htoken, hkey⟩
    rw [hreference, List.append_nil]
    rfl
  · rintro ⟨token, hreference, htoken, hkey⟩
    refine ⟨'/' :: ("components".toList ++ '/' :: ("schemas".toList ++ '/' :: token)),
      hreference, ?_⟩
    have hlast : pointerSegments? ('/' :: token) = some [key] :=
      Json.pointerSegments?_eq_some_cons_iff.mpr
        ⟨token, [], by rw [List.append_nil], htoken, hkey, rfl⟩
    have hschemas : pointerSegments? ('/' :: ("schemas".toList ++ '/' :: token)) =
        some ["schemas", key] :=
      Json.pointerSegments?_eq_some_cons_iff.mpr
        ⟨"schemas".toList, '/' :: token, rfl, by decide, by decide, hlast⟩
    exact Json.pointerSegments?_eq_some_cons_iff.mpr
      ⟨"components".toList, _, rfl, by decide, by decide, hschemas⟩

namespace Document

variable {raw : Json} {document : Document} {reference key : String}

theorem ofJson_parts (h : ofJson raw = .ok document) : document.raw = raw ∧
    document.schemas = (((raw.descend? ["components", "schemas"]).bind Json.members?).getD []).map
      fun (key, schema) => (key, Schema.ofJson schema) := by
  unfold ofJson at h
  split at h
  · cases h
  · split at h
    · cases h
    · cases h
      exact ⟨rfl, rfl⟩

theorem resolve?_eq_some_iff {schema : Schema} : document.resolve? reference = some schema ↔
    ∃ pointer target, reference.toList = '#' :: pointer ∧ document.raw.Leads pointer target ∧
      schema = Schema.ofJson target := by
  simp only [resolve?, Option.map_eq_some_iff, Reference.lookup?_eq_some_iff]
  constructor
  · rintro ⟨target, ⟨pointer, hpointer, hleads⟩, rfl⟩
    exact ⟨pointer, target, hpointer, hleads, rfl⟩
  · rintro ⟨pointer, target, hpointer, hleads, rfl⟩
    exact ⟨target, ⟨pointer, hpointer, hleads⟩, rfl⟩

theorem resolve?_of_registryKey (h : registryKey? reference = some key) :
    document.resolve? reference =
      ((document.raw.descend? ["components", "schemas"]).bind (Json.child? key)).map
        Schema.ofJson := by
  obtain ⟨pointer, hreference, hsegments⟩ := registryKey?_eq_some_iff_segments.mp h
  have hlookup : Reference.lookup? document.raw reference =
      document.raw.descend? (["components", "schemas"] ++ [key]) := by
    rw [Reference.lookup?, Reference.pointer?_eq_some_iff.mpr hreference, Option.bind_some,
      Json.pointer?, hsegments]
    rfl
  rw [resolve?, hlookup, Json.descend?_concat]

theorem resolve?_eq_get? (hread : ofJson raw = .ok document)
    (harray : ∀ items, raw.pointer? "/components/schemas".toList ≠ some (.array items))
    (h : registryKey? reference = some key) :
    document.resolve? reference = document.schemas.get? key := by
  have hpointer : raw.pointer? "/components/schemas".toList =
      raw.descend? ["components", "schemas"] := rfl
  obtain ⟨hraw, hschemas⟩ := ofJson_parts hread
  rw [hpointer] at harray
  rw [resolve?_of_registryKey h, hraw, hschemas, Mapping.get?_map]
  cases hvalue : raw.descend? ["components", "schemas"] with
  | none => rfl
  | some value =>
    cases value with
    | array items => exact absurd hvalue (harray items)
    | object members => rfl
    | _ => rfl

end Document

namespace Synthesis

variable {synthesis : Synthesis} {reference key : String}

theorem typeOf_component (h : registryKey? reference = some key) :
    synthesis.typeOf (.reference reference) = synthesis.registryType reference key := by
  rw [typeOf, Schema.typeWith, referenceType, h]

theorem typeOf_missing (h : registryKey? reference = none)
    (hmissing : synthesis.document.resolve? reference = none) :
    synthesis.typeOf (.reference reference) = unresolved reference := by
  rw [typeOf, Schema.typeWith, referenceType, h, hmissing]
  rfl

/-- A reference to a component leads to the schema of that component and to nothing else, and its
type is the declared name; a reference that leads nowhere has the permissive type. -/
theorem references_agree {raw : Json} {document : Document}
    (hread : Document.ofJson raw = .ok document)
    (harray : ∀ items, raw.pointer? "/components/schemas".toList ≠ some (.array items))
    {scope : String} {strict : Bool} {names : Naming.RegistryNames}
    (hnames : Naming.nameRegistry document.schemas.keys scope strict = .ok names)
    (reference : String) :
    (∀ schema, document.resolve? reference = some schema ↔ ∃ pointer target,
      reference.toList = '#' :: pointer ∧ raw.Leads pointer target ∧
        schema = Schema.ofJson target) ∧
    (∀ key, registryKey? reference = some key ↔ ∃ token,
      reference.toList = "#/components/schemas/".toList ++ token ∧ '/' ∉ token ∧
        key.toList = readToken token) ∧
    (∀ key, registryKey? reference = some key →
      document.resolve? reference = document.schemas.get? key ∧
      ((names.get? key).isSome = true ↔ (document.resolve? reference).isSome = true)) ∧
    ∀ mode,
      (document.resolve? reference = none →
        typeOf ⟨document, names, mode⟩ (.reference reference) =
          .any (some (Text.comment ("unresolved reference: " ++ reference)))) ∧
      ∀ key schema, registryKey? reference = some key →
        document.resolve? reference = some schema → ∃ name, names.get? key = some name ∧
          typeOf ⟨document, names, mode⟩ (.reference reference) = .named (mode.qualify name) := by
  obtain ⟨hraw, -⟩ := Document.ofJson_parts hread
  obtain ⟨hkeys, -, -⟩ := Naming.nameRegistry_ok hnames
  have hregistry : ∀ key, registryKey? reference = some key →
      document.resolve? reference = document.schemas.get? key :=
    fun key hkey => Document.resolve?_eq_get? hread harray hkey
  have hnamed : ∀ key, registryKey? reference = some key →
      ((names.get? key).isSome = true ↔ (document.resolve? reference).isSome = true) := by
    intro key hkey
    rw [hregistry key hkey, Mapping.isSome_get?_iff, Mapping.isSome_get?_iff, hkeys]
  refine ⟨fun schema => hraw ▸ Document.resolve?_eq_some_iff, fun key => registryKey?_eq_some_iff,
    fun key hkey => ⟨hregistry key hkey, hnamed key hkey⟩, fun mode => ⟨?_, ?_⟩⟩
  · intro hmissing
    cases hkey : registryKey? reference with
    | none => exact typeOf_missing hkey hmissing
    | some key =>
      have hnone : names.get? key = none := by
        rw [← Option.not_isSome_iff_eq_none, hnamed key hkey, hmissing]
        simp
      rw [typeOf_component hkey, registryType, hnone]
      rfl
  · intro key schema hkey hschema
    have hsome : (names.get? key).isSome = true := (hnamed key hkey).mpr (by rw [hschema]; rfl)
    obtain ⟨name, hname⟩ := Option.isSome_iff_exists.mp hsome
    refine ⟨name, hname, ?_⟩
    rw [typeOf_component hkey, registryType, hname]

theorem references_agree_escaped :
    let raw : Json := .object [("components", .object [("schemas", .object [
      ("~1/0", .object [("type", .text "string")])])])]
    let reference := "#/components/schemas/~01~10"
    ∃ document names, Document.ofJson raw = .ok document ∧
      Naming.nameRegistry document.schemas.keys "types.ts" true = .ok names ∧
      document.resolve? reference = document.schemas.get? "~1/0" ∧
      typeOf ⟨document, names, .local⟩ (.reference reference) = .named "Types._10" := by
  intro raw reference
  let document : Document := ⟨raw, none, none, [], [("~1/0", .primitive .string)]⟩
  have hread : Document.ofJson raw = .ok document := rfl
  have harray : ∀ items, raw.pointer? "/components/schemas".toList ≠ some (.array items) := by
    intro items h
    cases h
  have hnames : Naming.nameRegistry document.schemas.keys "types.ts" true =
      .ok [("~1/0", "_10")] := Outcome.ok_of_toOption (by decide +kernel)
  have hkey : registryKey? reference = some "~1/0" := by decide
  obtain ⟨-, -, hsame, hmodes⟩ := references_agree hread harray hnames reference
  have hfound : document.resolve? reference = some (.primitive .string) :=
    (hsame "~1/0" hkey).1.trans rfl
  obtain ⟨name, hname, htype⟩ := (hmodes .local).2 "~1/0" (.primitive .string) hkey hfound
  obtain rfl := Option.some.inj hname
  exact ⟨document, _, hread, hnames, (hsame "~1/0" hkey).1, htype⟩

end Synthesis

end TypedClient
