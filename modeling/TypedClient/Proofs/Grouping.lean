import TypedClient.Document.Basic
import TypedClient.Proofs.Distinct

/-!
Grouping of operations from the raw value to the tag groups: each tag has one group, groups stand
in order of first appearance, and a group holds the operations of its tag as a subsequence of the
document.
-/

namespace TypedClient

def Method.key : Method → String
  | .get => "get"
  | .put => "put"
  | .post => "post"
  | .delete => "delete"
  | .options => "options"
  | .head => "head"
  | .patch => "patch"
  | .trace => "trace"

theorem Method.ofKey?_eq_find? (key : String) :
    Method.ofKey? key = Method.all.find? (·.key = key) := by
  unfold Method.ofKey?
  split
  case h_9 => simp_all [Method.all, Method.key, eq_comm]
  all_goals rfl

structure RawOperation where
  path : String
  method : Method
  members : Mapping Json

namespace RawOperation

def declaredTags (operation : RawOperation) : List String :=
  match operation.members.get? "tags" with
  | some (.array items) => (items.filterMap Json.text?).map Text.trim
  | _ => []

def tags (fallback : String) (operation : RawOperation) : List String :=
  match (operation.declaredTags.filter (· ≠ "")).eraseDups with
  | [] => [fallback]
  | tag :: rest => tag :: rest

def bound (raw : Json) (operation : RawOperation) : BoundOperation :=
  ⟨operation.path, operation.method, Document.operationOf raw operation.members⟩

def ofItem (path : String) (item : Mapping Json) : List RawOperation :=
  item.filterMap fun (key, value) =>
    match Method.all.find? (·.key = key), value with
    | some method, .object members => some ⟨path, method, members⟩
    | _, _ => none

end RawOperation

namespace Json

def itemTarget? (raw item : Json) : Option Json :=
  match item.member? "$ref" with
  | some (.text reference) => Reference.lookup? raw reference
  | _ => some item

def rawOperations (raw : Json) : List RawOperation :=
  match raw.member? "paths" with
  | some (.object paths) => paths.flatMap fun (path, item) =>
      match raw.itemTarget? item with
      | some (.object members) => RawOperation.ofItem path members
      | _ => []
  | _ => []

end Json

namespace Document

theorem follow?_eq (raw item : Json) : follow? raw item = raw.itemTarget? item := by
  unfold follow? Json.itemTarget?
  cases item.member? "$ref" with
  | none => rfl
  | some value => cases value <;> rfl

theorem effectiveTags_operationOf (raw : Json) (fallback : String) (operation : RawOperation) :
    effectiveTags fallback (operation.bound raw).operation = operation.tags fallback := by
  have hdeclared : (operationOf raw operation.members).tags.map Text.trim =
      operation.declaredTags := by
    unfold RawOperation.declaredTags operationOf
    cases operation.members.get? "tags" with
    | none => rfl
    | some value => cases value <;> rfl
  have hblank : (fun tag : String => !tag.isEmpty) = fun tag => decide (tag ≠ "") := by
    funext tag
    by_cases h : tag = "" <;> simp [h]
  unfold effectiveTags RawOperation.tags RawOperation.bound
  simp only [hdeclared, distinct_eq_eraseDups, hblank]
  cases (operation.declaredTags.filter fun tag => decide (tag ≠ "")).eraseDups <;> rfl

theorem nodup_effectiveTags (fallback : String) (operation : Operation) :
    (effectiveTags fallback operation).Nodup := by
  unfold effectiveTags
  simp only [distinct_eq_eraseDups]
  split
  · simp
  · exact nodup_eraseDups _

theorem pathItemOf_bound (raw : Json) (path : String) (members : Mapping Json) :
    (pathItemOf raw members).map (fun (method, operation) => (⟨path, method, operation⟩ :
      BoundOperation)) = (RawOperation.ofItem path members).map (·.bound raw) := by
  unfold pathItemOf RawOperation.ofItem
  rw [List.map_filterMap, List.map_filterMap]
  congr 1
  funext ⟨key, value⟩
  simp only [Method.ofKey?_eq_find?]
  cases Method.all.find? (·.key = key) with
  | none => rfl
  | some method => cases value <;> rfl

theorem paths_bound (raw : Json) (paths : Mapping Json) :
    (paths.filterMap fun (path, item) => do
        let members ← (follow? raw item).bind Json.members?
        return (path, pathItemOf raw members)).flatMap (fun (path, item) =>
      item.map fun (method, operation) => (⟨path, method, operation⟩ : BoundOperation)) =
      (paths.flatMap fun (path, item) =>
        match raw.itemTarget? item with
        | some (.object members) => RawOperation.ofItem path members
        | _ => []).map (·.bound raw) := by
  simp only [follow?_eq, List.map_flatMap]
  induction paths with
  | nil => rfl
  | cons entry rest ih =>
    obtain ⟨path, item⟩ := entry
    rw [List.flatMap_cons, ← ih, List.filterMap_cons]
    cases raw.itemTarget? item with
    | none => rfl
    | some target =>
      cases target with
      | object members =>
        rw [← pathItemOf_bound]
        rfl
      | _ => rfl

theorem operations_ofJson {raw : Json} {document : Document} (h : ofJson raw = .ok document) :
    document.operations = raw.rawOperations.map (·.bound raw) := by
  unfold ofJson at h
  cases raw with
  | object members =>
    simp only [Json.members?] at h
    split at h
    · cases h
    · cases h
      unfold operations Json.rawOperations
      simp only [Json.member?, Json.members?, Option.bind_some]
      cases Mapping.get? members "paths" with
      | none => rfl
      | some paths =>
        cases paths with
        | object paths => exact paths_bound (.object members) paths
        | _ => rfl
  | _ => cases h

theorem fileUnder_map (bound : BoundOperation) (tag : String) (operations : String → List BoundOperation)
    (tags : List String) (htags : tags.Nodup) (hnew : tag ∉ tags → operations tag = []) :
    fileUnder bound (tags.map fun t => ⟨t, operations t⟩) tag =
      (if tag ∈ tags then tags else tags ++ [tag]).map fun t =>
        ⟨t, if t = tag then operations t ++ [bound] else operations t⟩ := by
  induction tags with
  | nil => simp [fileUnder, hnew]
  | cons t tags ih =>
    obtain ⟨ht, htags⟩ := List.nodup_cons.mp htags
    rw [List.map_cons, fileUnder]
    by_cases h : t = tag
    · subst h
      have hrest : ∀ s ∈ tags, s ≠ t := fun s hs he => ht (he ▸ hs)
      simp only [List.mem_cons_self, ↓reduceIte, List.map_cons, List.cons.injEq, true_and]
      apply List.map_congr_left
      intro s hs
      rw [if_neg (hrest s hs)]
    · have hrest := ih htags (fun hmem => hnew (by simp [hmem, Ne.symm h]))
      rw [if_neg h, hrest]
      by_cases hmem : tag ∈ tags <;> simp [hmem, h, Ne.symm h]

def groupsOf (fallback : String) (operations : List BoundOperation) : List TagGroup :=
  (operations.flatMap fun bound => effectiveTags fallback bound.operation).eraseDups.map fun tag =>
    ⟨tag, operations.filter fun bound => tag ∈ effectiveTags fallback bound.operation⟩

theorem fileUnder_tags (fallback : String) (operations : List BoundOperation)
    (bound : BoundOperation) (tags : List String) (htags : tags.Nodup) :
    tags.foldl (fileUnder bound) (groupsOf fallback operations) =
      ((operations.flatMap fun bound => effectiveTags fallback bound.operation) ++ tags).eraseDups.map
        fun tag => ⟨tag, operations.filter (fun bound =>
          tag ∈ effectiveTags fallback bound.operation) ++ if tag ∈ tags then [bound] else []⟩ := by
  induction tags using List.reverseRecOn with
  | nil => simp [groupsOf]
  | append_singleton tags tag ih =>
    obtain ⟨htags, -, hlast⟩ := List.nodup_append.mp htags
    have hnew : tag ∉ tags := fun hmem => hlast tag hmem tag (by simp) rfl
    rw [List.foldl_append, ih htags, List.foldl_cons, List.foldl_nil, fileUnder_map]
    · rw [← List.append_assoc, eraseDups_concat]
      simp only [List.mem_eraseDups]
      apply List.map_congr_left
      intro t _
      by_cases ht : t = tag
      · subst ht
        simp [hnew]
      · simp [ht]
    · exact nodup_eraseDups _
    · intro hmem
      rw [List.mem_eraseDups, List.mem_append, List.mem_flatMap] at hmem
      have hnone : ¬∃ bound ∈ operations, tag ∈ effectiveTags fallback bound.operation :=
        fun hsome => hmem (.inl hsome)
      rw [if_neg hnew, List.append_nil, List.filter_eq_nil_iff]
      intro other hother
      simpa using fun hother' => hnone ⟨other, hother, hother'⟩

theorem tagGroups_eq_groupsOf (document : Document) (fallback : String) :
    document.tagGroups fallback = groupsOf fallback document.operations := by
  unfold tagGroups
  induction document.operations using List.reverseRecOn with
  | nil => rfl
  | append_singleton operations bound ih =>
    rw [List.foldl_append, ih, List.foldl_cons, List.foldl_nil,
      fileUnder_tags fallback operations bound _ (nodup_effectiveTags fallback bound.operation)]
    simp only [groupsOf, List.flatMap_append, List.flatMap_cons, List.flatMap_nil, List.append_nil,
      List.filter_append]
    apply List.map_congr_left
    intro tag _
    by_cases h : tag ∈ effectiveTags fallback bound.operation <;> simp [h]

theorem tagGroups_ofJson {raw : Json} {document : Document} (h : ofJson raw = .ok document)
    (fallback : String) :
    document.tagGroups fallback =
        (raw.rawOperations.flatMap (·.tags fallback)).eraseDups.map (fun tag =>
          ⟨tag, (raw.rawOperations.filter (tag ∈ ·.tags fallback)).map (·.bound raw)⟩) ∧
      ((document.tagGroups fallback).map (·.tag)).Nodup ∧
      ∀ group ∈ document.tagGroups fallback, group.operations ≠ [] := by
  have hgroups : document.tagGroups fallback =
      (raw.rawOperations.flatMap (·.tags fallback)).eraseDups.map (fun tag =>
        ⟨tag, (raw.rawOperations.filter (tag ∈ ·.tags fallback)).map (·.bound raw)⟩) := by
    rw [tagGroups_eq_groupsOf, operations_ofJson h, groupsOf]
    simp only [List.flatMap_map, List.filter_map, Function.comp_def, effectiveTags_operationOf]
  refine ⟨hgroups, ?_, ?_⟩
  · rw [hgroups, List.map_map]
    simpa [Function.comp_def] using nodup_eraseDups (raw.rawOperations.flatMap (·.tags fallback))
  · intro group hgroup
    rw [hgroups] at hgroup
    obtain ⟨tag, htag, rfl⟩ := List.mem_map.mp hgroup
    obtain ⟨operation, hoperation, hmem⟩ := List.mem_flatMap.mp (List.mem_eraseDups.mp htag)
    have hfound : operation ∈ raw.rawOperations.filter (tag ∈ ·.tags fallback) := by
      simp [hoperation, hmem]
    simp only [ne_eq, List.map_eq_nil_iff]
    exact List.ne_nil_of_mem hfound

theorem tagGroups_ofJson_declared_fallback :
    let raw : Json := .object [
      ("paths", .object [
        ("/a", .object [
          ("get", .object [("tags", .array [.text " pets ", .text "", .text "pets", .null])]),
          ("GET", .object []),
          ("post", .object [])]),
        ("/b", .object [("$ref", .text "#/items/b")]),
        ("/c", .object [("$ref", .text "#/items/c")]),
        ("/d", .null)]),
      ("items", .object [("b", .object [("put", .object [("tags", .array [.text "default"])])])])]
    ∃ document, ofJson raw = .ok document ∧
      (document.tagGroups "default").map (fun group =>
        (group.tag, group.operations.map (·.label))) =
          [("pets", ["GET /a"]), ("default", ["POST /a", "PUT /b"])] ∧
      ∀ group ∈ document.tagGroups "default", group.operations ≠ [] := by
  intro raw
  have h : ∃ document, ofJson raw = .ok document := ⟨_, rfl⟩
  obtain ⟨document, h⟩ := h
  obtain ⟨hgroups, -, hne⟩ := tagGroups_ofJson h "default"
  refine ⟨document, h, ?_, hne⟩
  rw [hgroups]
  decide +kernel

end Document

end TypedClient
