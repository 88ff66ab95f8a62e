import TypedClient.Proofs.Artifact.Assembly
import TypedClient.Proofs.Naming.Registry
import TypedClient.Proofs.TypeExpr.CycleGuard
import TypedClient.Proofs.TypeExpr.Mentions

/-!
Cycles among the declarations of the component types, and the cycles of the document that they come
from. An alias is circular where a component leads back to itself and nothing structural lies
between.
-/

namespace TypedClient

open Relation (ReflTransGen TransGen)

def DeclarationLeads (deep : Bool) (declarations : List Declaration) (name next : String) : Prop :=
  ∃ declaration ∈ declarations, declaration.name = name ∧ declaration.type.Mentions deep next

def DeclarationEncloses (declarations : List Declaration) (name next : String) : Prop :=
  ∃ declaration ∈ declarations, declaration.name = name ∧ declaration.type.Encloses next

def Document.EntryLeads (document : Document) (deep : Bool) (key next : String) : Prop :=
  ∃ schema, (key, schema) ∈ document.schemas ∧ document.Leads deep [] schema next

theorem DeclarationLeads.shallow_or_encloses {declarations : List Declaration} {name next : String}
    (h : DeclarationLeads true declarations name next) :
    DeclarationLeads false declarations name next ∨ DeclarationEncloses declarations name next := by
  obtain ⟨declaration, hmem, hname, hmentions⟩ := h
  rcases hmentions.shallow_or_encloses with hshallow | hencloses
  · exact .inl ⟨declaration, hmem, hname, hshallow⟩
  · exact .inr ⟨declaration, hmem, hname, hencloses⟩

/-- A path of mentions keeps to aliases or enters a property or an array item somewhere. -/
theorem aliases_or_encloses {declarations : List Declaration} {name next : String}
    (h : TransGen (DeclarationLeads true declarations) name next) :
    TransGen (DeclarationLeads false declarations) name next ∨
      ∃ outer inner, ReflTransGen (DeclarationLeads true declarations) name outer ∧
        DeclarationEncloses declarations outer inner ∧
        ReflTransGen (DeclarationLeads true declarations) inner next := by
  induction h with
  | single hleads =>
    rcases hleads.shallow_or_encloses with hshallow | hencloses
    · exact .inl (.single hshallow)
    · exact .inr ⟨_, _, .refl, hencloses, .refl⟩
  | tail hpath hleads ih =>
    rcases ih with haliases | ⟨outer, inner, hbefore, hencloses, hafter⟩
    · rcases hleads.shallow_or_encloses with hshallow | hencloses
      · exact .inl (haliases.tail hshallow)
      · exact .inr ⟨_, _, hpath.to_reflTransGen, hencloses, .refl⟩
    · exact .inr ⟨outer, inner, hbefore, hencloses, hafter.tail hleads⟩

namespace Naming

theorem key_unique {keys : List String} {scope : String} {strict : Bool} {names : RegistryNames}
    (h : nameRegistry keys scope strict = .ok names) {key other name : String}
    (hkey : names.get? key = some name) (hother : names.get? other = some name) : key = other := by
  obtain ⟨-, hnodup, -⟩ := nameRegistry_ok h
  have he := List.inj_on_of_nodup_map hnodup (Mapping.mem_of_get? hkey)
    (Mapping.mem_of_get? hother) rfl
  exact congrArg Prod.fst he

end Naming

namespace Artifact

variable {document : Document} {names : Naming.RegistryNames} {scope : String} {strict : Bool}
  {deep : Bool}

theorem mem_componentDeclarations {declaration : Declaration} :
    declaration ∈ componentDeclarations document names ↔ ∃ key schema,
      (key, schema) ∈ document.schemas ∧ names.get? key = some declaration.name ∧
        declaration.type = Synthesis.typeOf ⟨document, names, .global⟩ schema := by
  unfold componentDeclarations
  rw [List.mem_filterMap]
  constructor
  · rintro ⟨⟨key, schema⟩, hmem, hdeclared⟩
    obtain ⟨name, hname, rfl⟩ := Option.map_eq_some_iff.mp hdeclared
    exact ⟨key, schema, hmem, hname, rfl⟩
  · rintro ⟨key, schema, hmem, hname, htype⟩
    refine ⟨(key, schema), hmem, Option.map_eq_some_iff.mpr ⟨_, hname, ?_⟩⟩
    rw [← htype]

theorem exists_declared
    (hnames : Naming.nameRegistry document.schemas.keys scope strict = .ok names) {key : String}
    {schema : Schema} (hschema : (key, schema) ∈ document.schemas) :
    ∃ name, names.get? key = some name := by
  have hentries : names.keys = document.schemas.keys := (Naming.nameRegistry_ok hnames).1
  exact Mapping.get?_of_mem_keys (hentries ▸ List.mem_map.mpr ⟨(key, schema), hschema, rfl⟩)

theorem declarationLeads_iff
    (hnames : Naming.nameRegistry document.schemas.keys scope strict = .ok names)
    {key name : String} (hkey : names.get? key = some name) {declared : String} :
    DeclarationLeads deep (componentDeclarations document names) name declared ↔
      ∃ next, document.EntryLeads deep key next ∧ names.get? next = some declared := by
  constructor
  · rintro ⟨declaration, hmem, rfl, hmentions⟩
    obtain ⟨own, schema, hschema, hown, htype⟩ := mem_componentDeclarations.mp hmem
    obtain rfl := Naming.key_unique hnames hown hkey
    rw [htype, (Synthesis.expands_typeOf _ _).mentions_iff] at hmentions
    obtain ⟨next, other, hleads, hnext, rfl⟩ := hmentions
    exact ⟨next, ⟨schema, hschema, hleads⟩, hnext⟩
  · rintro ⟨next, ⟨schema, hschema, hleads⟩, hnext⟩
    refine ⟨⟨name, Synthesis.typeOf ⟨document, names, .global⟩ schema⟩,
      mem_componentDeclarations.mpr ⟨key, schema, hschema, hkey, rfl⟩, rfl, ?_⟩
    rw [(Synthesis.expands_typeOf _ _).mentions_iff]
    exact ⟨next, declared, hleads, hnext, rfl⟩

theorem transGen_declarationLeads_iff
    (hnames : Naming.nameRegistry document.schemas.keys scope strict = .ok names)
    {key name : String} (hkey : names.get? key = some name) {declared : String} :
    TransGen (DeclarationLeads deep (componentDeclarations document names)) name declared ↔
      ∃ next, TransGen (document.EntryLeads deep) key next ∧ names.get? next = some declared := by
  constructor
  · intro h
    induction h with
    | single hleads =>
      obtain ⟨next, hentry, hnext⟩ := (declarationLeads_iff hnames hkey).mp hleads
      exact ⟨next, .single hentry, hnext⟩
    | tail _ hleads ih =>
      obtain ⟨middle, hpath, hmiddle⟩ := ih
      obtain ⟨next, hentry, hnext⟩ := (declarationLeads_iff hnames hmiddle).mp hleads
      exact ⟨next, hpath.tail hentry, hnext⟩
  · rintro ⟨next, hpath, hnext⟩
    induction hpath generalizing declared with
    | single hentry => exact .single ((declarationLeads_iff hnames hkey).mpr ⟨_, hentry, hnext⟩)
    | @tail middle next _ hentry ih =>
      -- A component that leads on is an entry, so it has a declared name.
      have ⟨schema, hschema, _⟩ := hentry
      obtain ⟨other, hother⟩ := exists_declared hnames hschema
      exact (ih hother).tail ((declarationLeads_iff hnames hother).mpr ⟨next, hentry, hnext⟩)

theorem exists_circularNote (document : Document) (names : Naming.RegistryNames) {schema : Schema}
    (h : document.HasCycleBelow schema) : ∃ pointer,
      circularNote pointer ∈ (Synthesis.typeOf ⟨document, names, .global⟩ schema).notes := by
  let synthesis : Synthesis := ⟨document, names, .global⟩
  obtain ⟨pointer, hcut⟩ : ∃ pointer, synthesis.CutsAt ⟨[], schema⟩ pointer :=
    Synthesis.exists_cutsAt (Synthesis.acc_of_within (Synthesis.within_start schema)) h
  exact ⟨pointer, ((Synthesis.expands_typeOf synthesis schema).circularNote_mem_iff pointer).mpr
    ⟨pointer, hcut, rfl⟩⟩

/-- An alias leads back to its own name exactly when its component leads back to itself through
component references, alternatives and expanded references alone. Any other cycle among the
declarations enters a property or an array item, and a cycle of expanded references is broken by a
note. -/
theorem alias_cycles {document : Document} {options : Options} {artifacts : Artifacts}
    (h : transform document options .builtin = .ok artifacts) :
    ∃ names declarations rest,
      Naming.nameRegistry document.schemas.keys (options.artifactName options.typesModule)
        options.strictNames = .ok names ∧
      declarations = componentDeclarations document names ∧
      artifacts = (options.artifactName options.typesModule,
        typesText (banner document) (declarations.map (·.text))) :: rest ∧
      (∀ deep key name, names.get? key = some name →
        (TransGen (DeclarationLeads deep declarations) name name ↔
          TransGen (document.EntryLeads deep) key key)) ∧
      (∀ key, TransGen (document.EntryLeads true) key key →
        ∃ name, names.get? key = some name ∧
          (TransGen (DeclarationLeads false declarations) name name ∨
            ∃ outer inner, ReflTransGen (DeclarationLeads true declarations) name outer ∧
              DeclarationEncloses declarations outer inner ∧
              ReflTransGen (DeclarationLeads true declarations) inner name)) ∧
      (∀ key schema, (key, schema) ∈ document.schemas → document.HasCycleBelow schema →
        ∃ declaration ∈ declarations, names.get? key = some declaration.name ∧
          ∃ pointer, circularNote pointer ∈ declaration.type.notes) := by
  obtain ⟨-, names, clients, hnames, -, rfl⟩ := transform_ok h
  have hcycles : ∀ deep key name, names.get? key = some name →
      (TransGen (DeclarationLeads deep (componentDeclarations document names)) name name ↔
        TransGen (document.EntryLeads deep) key key) := by
    intro deep key name hkey
    rw [transGen_declarationLeads_iff hnames hkey]
    constructor
    · rintro ⟨next, hpath, hnext⟩
      obtain rfl := Naming.key_unique hnames hkey hnext
      exact hpath
    · exact fun hpath => ⟨key, hpath, hkey⟩
  refine ⟨names, _, _, hnames, rfl, rfl, hcycles, ?_, ?_⟩
  · intro key hcycle
    obtain ⟨_, ⟨schema, hschema, -⟩, -⟩ := TransGen.head'_iff.mp hcycle
    obtain ⟨name, hname⟩ := exists_declared hnames hschema
    exact ⟨name, hname, aliases_or_encloses ((hcycles true key name hname).mpr hcycle)⟩
  · intro key schema hschema hcycle
    obtain ⟨name, hname⟩ := exists_declared hnames hschema
    have hmem : (⟨name, Synthesis.typeOf ⟨document, names, .global⟩ schema⟩ : Declaration) ∈
        componentDeclarations document names :=
      mem_componentDeclarations.mpr ⟨key, schema, hschema, hname, rfl⟩
    exact ⟨_, hmem, hname, exists_circularNote document names hcycle⟩

theorem alias_cycles_mutual :
    let refer : String → Json := fun pointer => .object [("$ref", .text pointer)]
    let string : Json := .object [("type", .text "string")]
    let raw : Json := .object [("x", refer "#/x"), ("components", .object [("schemas", .object [
      ("A", .object [("oneOf", .array [refer "#/components/schemas/B", string])]),
      ("B", refer "#/components/schemas/A"),
      ("N", .object [("properties", .object [("next", refer "#/components/schemas/N")])]),
      ("D", refer "#/x")])])]
    let node : Schema := .object [("next", .reference "#/components/schemas/N")] []
    let document : Document := ⟨raw, none, none, [], [
      ("A", .union [.reference "#/components/schemas/B", .primitive .string]),
      ("B", .reference "#/components/schemas/A"), ("N", node), ("D", .reference "#/x")]⟩
    let names := [("A", "A"), ("B", "B"), ("N", "N"), ("D", "D")]
    let declarations := componentDeclarations document names
    Document.ofJson raw = .ok document ∧
    (∃ artifacts, transform document {} .builtin = .ok artifacts) ∧
    Naming.nameRegistry document.schemas.keys "types.ts" false = .ok names ∧
    TransGen (DeclarationLeads false declarations) "A" "A" ∧
    ¬ TransGen (DeclarationLeads false declarations) "N" "N" ∧
    (∃ outer inner, ReflTransGen (DeclarationLeads true declarations) "N" outer ∧
      DeclarationEncloses declarations outer inner ∧
      ReflTransGen (DeclarationLeads true declarations) inner "N") ∧
    ∃ declaration ∈ declarations, declaration.name = "D" ∧
      ∃ pointer, circularNote pointer ∈ declaration.type.notes := by
  intro refer string raw node document names declarations
  have hread : Document.ofJson raw = .ok document := rfl
  have hsome : (transform document {} .builtin).toOption.isSome = true := by decide +kernel
  have hregistry : (Naming.nameRegistry document.schemas.keys "types.ts" false).toOption =
      some names := by decide +kernel
  have hregistry := Outcome.ok_of_toOption hregistry
  obtain ⟨artifacts, hartifacts⟩ := Outcome.exists_ok hsome
  obtain ⟨_, _, _, hnames, rfl, -, hcycles, hentries, hnotes⟩ := alias_cycles hartifacts
  obtain rfl := Except.ok.inj (hregistry.symm.trans hnames)
  have haliases : TransGen (document.EntryLeads false) "A" "A" := by
    have hforth : document.EntryLeads false "A" "B" :=
      ⟨_, .head _, .inner (.head _) (.component (by decide))⟩
    have hback : document.EntryLeads false "B" "A" := ⟨_, .tail _ (.head _), .component (by decide)⟩
    exact .head hforth (.single hback)
  have hnested : TransGen (document.EntryLeads true) "N" "N" := by
    refine .single ⟨node, .tail _ (.tail _ (.head _)), ?_⟩
    exact .inner (.head _) (.component (by decide))
  have hnone : ¬ TransGen (document.EntryLeads false) "N" "N" := by
    intro hcycle
    obtain ⟨_, ⟨schema, hschema, hleads⟩, -⟩ := TransGen.head'_iff.mp hcycle
    have he : schema = node := by simpa [document] using hschema
    rw [he, Document.leads_shape rfl] at hleads
    obtain ⟨_, hchild, -⟩ := hleads
    cases hchild
  have hcut : document.HasCycleBelow (.reference "#/x") := by
    have hinlined : registryKey? "#/x" = none := by decide
    have hleads : document.LeadsTo "#/x" "#/x" := ⟨hinlined, .reference "#/x", rfl, .head _⟩
    exact ⟨"#/x", .head _, hinlined, "#/x", .refl, .single hleads⟩
  have hnot : ¬ TransGen (DeclarationLeads false declarations) "N" "N" :=
    fun h => hnone ((hcycles false "N" "N" rfl).mp h)
  refine ⟨hread, ⟨artifacts, hartifacts⟩, hregistry, (hcycles false "A" "A" rfl).mpr haliases,
    hnot, ?_, ?_⟩
  · obtain ⟨name, hname, hor⟩ := hentries "N" hnested
    obtain rfl : "N" = name := Option.some.inj hname
    exact hor.resolve_left hnot
  · obtain ⟨declaration, hmem, hname, hnote⟩ := hnotes "D" _ (by simp [document]) hcut
    exact ⟨declaration, hmem, (Option.some.inj hname).symm, hnote⟩

theorem alias_of_itself :
    let raw : Json := .object [("components", .object [("schemas", .object [
      ("A", .object [("$ref", .text "#/components/schemas/A")])])])]
    let document : Document := ⟨raw, none, none, [], [("A", .reference "#/components/schemas/A")]⟩
    let declarations := componentDeclarations document [("A", "A")]
    Document.ofJson raw = .ok document ∧ (transform document {} .builtin).toOption.isSome = true ∧
      Naming.nameRegistry document.schemas.keys "types.ts" false = .ok [("A", "A")] ∧
      declarations.map (·.text) = ["export type A = A;"] ∧
      TransGen (DeclarationLeads false declarations) "A" "A" := by
  intro raw document declarations
  refine ⟨rfl, by decide +kernel, by cbv, by cbv, .single ?_⟩
  exact ⟨⟨"A", .named "A"⟩, List.mem_singleton.mpr rfl, rfl, .named "A"⟩

end Artifact

end TypedClient
