import Mathlib.Data.List.Induction
import Mathlib.Data.List.Nodup
import TypedClient.Document.Source
import TypedClient.Proofs.Outcome

namespace TypedClient

namespace Mapping

variable {α : Type}

theorem nodup_keys_insert {mapping : Mapping α} (h : mapping.keys.Nodup) (key : String) (value : α) :
    (mapping.insert key value).keys.Nodup := by
  rw [keys_insert]
  split
  case isTrue => exact h
  case isFalse hnew =>
    apply h.append (List.nodup_singleton key)
    intro other hother hmem
    exact hnew (List.mem_singleton.mp hmem ▸ hother)

theorem mem_of_mem_insert {mapping : Mapping α} {key : String} {value : α} {entry : String × α}
    (h : entry ∈ mapping.insert key value) : entry ∈ mapping ∨ entry = (key, value) := by
  induction mapping with
  | nil => exact .inr (List.mem_singleton.mp h)
  | cons first rest ih =>
    obtain ⟨k, v⟩ := first
    rw [insert] at h
    split at h
    next hk =>
      subst hk
      rcases List.mem_cons.mp h with he | hmem
      · exact .inr he
      · exact .inl (List.mem_cons_of_mem _ hmem)
    next =>
      rcases List.mem_cons.mp h with he | hmem
      · exact .inl (List.mem_cons.mpr (.inl he))
      · exact (ih hmem).imp_left (List.mem_cons_of_mem _)

theorem ofEntries_ok (entries : List (String × α)) :
    (ofEntries entries).keys.Nodup ∧ ∀ entry ∈ ofEntries entries, entry ∈ entries := by
  unfold ofEntries
  induction entries using List.reverseRecOn with
  | nil => simp [keys]
  | append_singleton entries last ih =>
    obtain ⟨hkeys, hentries⟩ := ih
    rw [List.foldl_append, List.foldl_cons, List.foldl_nil]
    refine ⟨nodup_keys_insert hkeys _ _, ?_⟩
    intro entry hentry
    rcases mem_of_mem_insert hentry with hentry | rfl
    · exact List.mem_append_left _ (hentries entry hentry)
    · exact List.mem_append_right _ (List.mem_singleton.mpr rfl)

end Mapping

namespace Json

inductive HasDistinctKeys : Json → Prop where
  | null : HasDistinctKeys .null
  | bool (value : Bool) : HasDistinctKeys (.bool value)
  | number (value : Number) : HasDistinctKeys (.number value)
  | text (value : String) : HasDistinctKeys (.text value)
  | array {items : List Json} (hitems : ∀ item ∈ items, HasDistinctKeys item) :
      HasDistinctKeys (.array items)
  | object {members : Mapping Json} (hkeys : members.keys.Nodup)
      (hmembers : ∀ member ∈ members, HasDistinctKeys member.2) : HasDistinctKeys (.object members)

theorem hasDistinctKeys_ofEntries {entries : List (String × Json)}
    (h : ∀ entry ∈ entries, HasDistinctKeys entry.2) :
    HasDistinctKeys (.object (Mapping.ofEntries entries)) := by
  obtain ⟨hkeys, hentries⟩ := Mapping.ofEntries_ok entries
  exact .object hkeys fun member hmember => h member (hentries member hmember)

mutual

theorem hasDistinctKeys_merged : (value : Json) → HasDistinctKeys (merged value)
  | .null => .null
  | .bool value => .bool value
  | .number value => .number value
  | .text value => .text value
  | .array items => .array (hasDistinctKeys_mergedItems items)
  | .object members => hasDistinctKeys_ofEntries (hasDistinctKeys_mergedMembers members)

theorem hasDistinctKeys_mergedItems : (items : List Json) →
    ∀ item ∈ mergedItems items, HasDistinctKeys item
  | [] => by simp [mergedItems]
  | item :: rest => by
    rw [mergedItems]
    intro other hother
    rcases List.mem_cons.mp hother with rfl | hother
    · exact hasDistinctKeys_merged item
    · exact hasDistinctKeys_mergedItems rest other hother

theorem hasDistinctKeys_mergedMembers : (members : List (String × Json)) →
    ∀ member ∈ mergedMembers members, HasDistinctKeys member.2
  | [] => by simp [mergedMembers]
  | (key, value) :: rest => by
    rw [mergedMembers]
    intro other hother
    rcases List.mem_cons.mp hother with rfl | hother
    · exact hasDistinctKeys_merged value
    · exact hasDistinctKeys_mergedMembers rest other hother

end

theorem HasDistinctKeys.child {value below : Json} (h : value.HasDistinctKeys) {segment : String}
    (hchild : child? segment value = some below) : below.HasDistinctKeys := by
  cases h with
  | array hitems =>
    obtain ⟨index, -, hitem⟩ := Option.bind_eq_some_iff.mp hchild
    exact hitems below (List.mem_of_getElem? hitem)
  | object hkeys hmembers => exact hmembers _ (Mapping.mem_of_get? hchild)
  | _ => cases hchild

theorem HasDistinctKeys.descend {value below : Json} (h : value.HasDistinctKeys)
    {segments : List String} (hbelow : value.descend? segments = some below) :
    below.HasDistinctKeys := by
  induction segments generalizing value with
  | nil =>
    cases hbelow
    exact h
  | cons segment segments ih =>
    rw [descend?, List.foldlM_cons] at hbelow
    obtain ⟨next, hnext, hrest⟩ := Option.bind_eq_some_iff.mp hbelow
    exact ih (h.child hnext) hrest

end Json

namespace Yaml

open Json (HasDistinctKeys)

theorem hasDistinctKeys_of_wordValue? {number : Int} {value : Json}
    (h : wordValue? number = some value) : value.HasDistinctKeys := by
  unfold wordValue? at h
  split at h
  · cases h
    exact .number _
  · cases h

theorem hasDistinctKeys_of_float? {text : List Char} {value : Json}
    (h : float? text = some value) : value.HasDistinctKeys := by
  unfold float? at h
  split at h
  · cases h
    exact .null
  · obtain ⟨double, -, rfl⟩ := Option.map_eq_some_iff.mp h
    exact .number _

theorem hasDistinctKeys_of_plainValue? {text : String} {value : Json}
    (h : plainValue? text = some value) : value.HasDistinctKeys := by
  unfold plainValue? at h
  split at h
  · cases h
    exact .null
  · split at h
    · cases h
      exact .bool _
    · split at h
      · exact hasDistinctKeys_of_wordValue? h
      · split at h
        · cases h
          exact .text _
        · cases hfloat : float? text.toList with
          | none =>
            rw [hfloat] at h
            cases h
            exact .text _
          | some number =>
            rw [hfloat] at h
            cases h
            exact hasDistinctKeys_of_float? hfloat

theorem hasDistinctKeys_of_scalarValue? {tag : Option String} {isPlain : Bool} {text : String}
    {value : Json} (h : scalarValue? tag isPlain text = some value) : value.HasDistinctKeys := by
  unfold scalarValue? at h
  split at h
  · split at h
    · exact hasDistinctKeys_of_plainValue? h
    · cases h
      exact .text _
  · split at h
    · cases h
      exact .null
    · cases h
  · obtain ⟨bool, -, rfl⟩ := Option.map_eq_some_iff.mp h
    exact .bool _
  · obtain ⟨number, -, hnumber⟩ := Option.bind_eq_some_iff.mp h
    exact hasDistinctKeys_of_wordValue? hnumber
  · exact hasDistinctKeys_of_float? h
  · split at h
    · cases h
    · cases h
      exact .text _

mutual

theorem hasDistinctKeys_of_value? : (tree : Tree) → {value : Json} →
    tree.value? = some value → value.HasDistinctKeys
  | .scalar _ _ _, _, h => hasDistinctKeys_of_scalarValue? h
  | .sequence _ items, _, h => by
    obtain ⟨-, -, h⟩ := Option.bind_eq_some_iff.mp h
    obtain ⟨values, hvalues, h⟩ := Option.bind_eq_some_iff.mp h
    cases h
    exact .array (hasDistinctKeys_of_itemValues? items hvalues)
  | .mapping _ entries, _, h => by
    obtain ⟨-, -, h⟩ := Option.bind_eq_some_iff.mp h
    obtain ⟨members, hmembers, h⟩ := Option.bind_eq_some_iff.mp h
    cases h
    exact Json.hasDistinctKeys_ofEntries (hasDistinctKeys_of_entryValues? entries hmembers)

theorem hasDistinctKeys_of_itemValues? : (items : List Tree) → {values : List Json} →
    itemValues? items = some values → ∀ value ∈ values, value.HasDistinctKeys
  | [], _, h => by
    cases h
    simp
  | item :: rest, _, h => by
    rw [itemValues?] at h
    obtain ⟨first, hfirst, h⟩ := Option.bind_eq_some_iff.mp h
    obtain ⟨values, hvalues, h⟩ := Option.bind_eq_some_iff.mp h
    cases h
    intro value hvalue
    rcases List.mem_cons.mp hvalue with rfl | hvalue
    · exact hasDistinctKeys_of_value? item hfirst
    · exact hasDistinctKeys_of_itemValues? rest hvalues value hvalue

theorem hasDistinctKeys_of_entryValues? : (entries : List (Tree × Tree)) →
    {members : List (String × Json)} → entryValues? entries = some members →
      ∀ member ∈ members, member.2.HasDistinctKeys
  | [], _, h => by
    cases h
    simp
  | (key, tree) :: rest, _, h => by
    rw [entryValues?] at h
    obtain ⟨name, -, h⟩ := Option.bind_eq_some_iff.mp h
    obtain ⟨first, hfirst, h⟩ := Option.bind_eq_some_iff.mp h
    obtain ⟨members, hmembers, h⟩ := Option.bind_eq_some_iff.mp h
    cases h
    intro member hmember
    rcases List.mem_cons.mp hmember with rfl | hmember
    · exact hasDistinctKeys_of_value? tree hfirst
    · exact hasDistinctKeys_of_entryValues? rest hmembers member hmember

end

end Yaml

theorem hasDistinctKeys_of_sourceValue {text : String} {value : Json}
    (h : sourceValue text = .ok value) : value.HasDistinctKeys := by
  unfold sourceValue at h
  split at h
  next hparsed =>
    cases h
    obtain ⟨written, -, rfl⟩ := Option.map_eq_some_iff.mp hparsed
    exact Json.hasDistinctKeys_merged written
  next =>
    split at h
    next hparsed =>
      obtain ⟨tree, -, hvalue⟩ := Option.bind_eq_some_iff.mp hparsed
      unfold requireMapping at h
      split at h
      · cases h
        exact Yaml.hasDistinctKeys_of_value? tree hvalue
      · cases h
    next => cases h

namespace Document

theorem schemas_keys_ofJson {raw : Json} {document : Document} (h : ofJson raw = .ok document) :
    document.schemas.keys =
      (((raw.descend? ["components", "schemas"]).bind Json.members?).getD []).map (·.1) := by
  unfold ofJson at h
  split at h
  · cases h
  · split at h
    · cases h
    · cases h
      simp [Mapping.keys]

theorem nodup_keys_ofJson {raw : Json} {document : Document} (hraw : raw.HasDistinctKeys)
    (h : ofJson raw = .ok document) : document.schemas.keys.Nodup := by
  rw [schemas_keys_ofJson h]
  cases hschemas : raw.descend? ["components", "schemas"] with
  | none => exact List.nodup_nil
  | some schemas =>
    have hbelow := hraw.descend hschemas
    cases hbelow with
    | object hkeys _ => exact hkeys
    | _ => exact List.nodup_nil

theorem nodup_keys_ofText {text : String} {document : Document}
    (h : ofText text = .ok document) : document.schemas.keys.Nodup := by
  obtain ⟨raw, hraw, h⟩ := Outcome.bind_ok h
  have hkeys := hasDistinctKeys_of_sourceValue (Outcome.mapError_ok hraw)
  exact nodup_keys_ofJson hkeys (Outcome.mapError_ok h)

end Document

end TypedClient
