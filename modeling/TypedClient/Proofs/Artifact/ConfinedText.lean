import TypedClient.Proofs.Artifact.Assembly
import TypedClient.Proofs.Script.ArtifactText

namespace TypedClient

open Naming (IsName)
open Script (Lexeme Reads IsPlain)
open Synthesis (IsNote)
open TypeExpr (IsReadable)

namespace Synthesis

def declaredLexemes (synthesis : Synthesis) (schema : Schema) : List Lexeme :=
  if schema.isReference then [] else (synthesis.typeOf schema).lexemes

def usedLexemes (synthesis : Synthesis) (schema : Schema) : List Lexeme :=
  if schema.isReference then (synthesis.typeOf schema).lexemes else []

def declarationLexemes (synthesis : Synthesis) (bound : BoundOperation) : List Lexeme :=
  bound.requestSchema?.toList.flatMap synthesis.declaredLexemes ++
    bound.operation.successSchema?.toList.flatMap synthesis.declaredLexemes

/-- The block above a callable, the type of its parameter, the type of its result twice, and the
path and method of its request. -/
def callableLexemes (synthesis : Synthesis) (bound : BoundOperation) : List Lexeme :=
  let returns := bound.operation.successSchema?.toList.flatMap synthesis.usedLexemes
  docLexemes bound.operation ++ bound.requestSchema?.toList.flatMap synthesis.usedLexemes ++
    returns ++ returns ++
    [.stringLiteral (Text.quoted bound.path), quote bound.method.token]

end Synthesis

section

variable {synthesis : Synthesis} {before after : Naming.Allocator} {base : String}
  {declarations : List Declaration} {type : TypeExpr}

theorem Settles.lexemes {schema : Schema}
    (h : Settles synthesis base schema before type after declarations) :
    declarations.flatMap (·.type.lexemes) = synthesis.declaredLexemes schema ∧
      type.lexemes = synthesis.usedLexemes schema := by
  unfold Synthesis.declaredLexemes Synthesis.usedLexemes
  cases h with
  | reference hreference => simp [hreference]
  | declared hreference _ => simp [hreference, TypeExpr.lexemes]

theorem SettlesBody.lexemes {bound : BoundOperation} {body : BodyParameter}
    (h : SettlesBody synthesis base bound before body after declarations) :
    declarations.flatMap (·.type.lexemes) =
        bound.requestSchema?.toList.flatMap synthesis.declaredLexemes ∧
      body.types.flatMap TypeExpr.lexemes =
        bound.requestSchema?.toList.flatMap synthesis.usedLexemes := by
  unfold BoundOperation.requestSchema?
  cases h with
  | none hcarries => simp [hcarries, BodyParameter.types]
  | untyped hcarries hschema => simp [hcarries, hschema, BodyParameter.types]
  | typed hcarries hschema hsettles =>
    obtain ⟨hdeclared, hused⟩ := hsettles.lexemes
    simp [hcarries, hschema, hdeclared, hused, BodyParameter.types]

theorem SettlesReturn.lexemes {operation : Operation}
    (h : SettlesReturn synthesis base operation before type after declarations) :
    declarations.flatMap (·.type.lexemes) =
        operation.successSchema?.toList.flatMap synthesis.declaredLexemes ∧
      type.lexemes = operation.successSchema?.toList.flatMap synthesis.usedLexemes := by
  cases h with
  | void hschema => simp [hschema, TypeExpr.lexemes]
  | typed hschema hsettles =>
    obtain ⟨hdeclared, hused⟩ := hsettles.lexemes
    simp [hschema, hdeclared, hused]

end

section

variable {synthesis : Synthesis} {scope next : ArtifactScope}

theorem Builds.lexemes {bound : BoundOperation} {signature : Signature}
    (h : Builds synthesis bound scope signature next) :
    next.declarations.flatMap (·.type.lexemes) =
        scope.declarations.flatMap (·.type.lexemes) ++ synthesis.declarationLexemes bound ∧
      signature.lexemes = synthesis.callableLexemes bound := by
  cases h with
  | mk _ hbody hreturns =>
    obtain ⟨hrequested, hparameter⟩ := hbody.lexemes
    obtain ⟨hresponded, hresult⟩ := hreturns.lexemes
    constructor
    · rw [List.flatMap_append, List.flatMap_append, hrequested, hresponded]
      rfl
    · unfold Signature.lexemes
      rw [hparameter, hresult]
      rfl

theorem BuildsAll.lexemes {bounds : List BoundOperation} {signatures : List Signature}
    (h : BuildsAll synthesis scope bounds signatures next) :
    next.declarations.flatMap (·.type.lexemes) =
        scope.declarations.flatMap (·.type.lexemes) ++ bounds.flatMap synthesis.declarationLexemes ∧
      signatures.flatMap (·.lexemes) = bounds.flatMap synthesis.callableLexemes := by
  induction h with
  | nil scope => simp
  | cons hfirst _ ih =>
    obtain ⟨hdeclared, hcallable⟩ := hfirst.lexemes
    obtain ⟨hrest, hcallables⟩ := ih
    constructor
    · rw [hrest, hdeclared, List.append_assoc, List.flatMap_cons]
    · rw [List.flatMap_cons, List.flatMap_cons, hcallable, hcallables]

end

section

variable {synthesis : Synthesis} {keys : List String} {scope : String} {strict : Bool}

theorem isPlain_qualify (mode : TypeMode) {declared : String} (h : IsName declared) :
    IsPlain (mode.qualify declared).toList := by
  have hdeclared := TypeExpr.isPlain_of_isName h
  cases mode with
  | global => exact hdeclared
  | «local» =>
    have hnamespace : IsPlain "Types.".toList := Script.isPlain_of_decide (by decide)
    intro c hc
    rw [TypeMode.qualify, String.toList_append, List.mem_append] at hc
    rcases hc with hc | hc
    · exact hnamespace c hc
    · exact hdeclared c hc

theorem Synthesis.Uses.isReadable {declarations : List Declaration} {type : TypeExpr}
    (hnames : Naming.nameRegistry keys scope strict = .ok synthesis.names)
    (hdeclared : ∀ name ∈ declarations.map (·.name), IsName name)
    (h : synthesis.Uses declarations type) : IsReadable type := by
  apply h.imp
  · rintro name (⟨key, declared, hentry, rfl⟩ | hname)
    · exact isPlain_qualify _ (Naming.declared_of_nameRegistry hnames hentry).1
    · exact TypeExpr.isPlain_of_isName (hdeclared name hname)
  · rintro note ⟨text, rfl⟩
    exact Text.closes_comment text

end

namespace Artifact

variable {document : Document} {names : Naming.RegistryNames} {options : Options}

def typesLexemes (document : Document) (names : Naming.RegistryNames) : List Lexeme :=
  bannerLexemes document ++
    document.schemas.flatMap fun (_, schema) =>
      (Synthesis.typeOf ⟨document, names, .global⟩ schema).lexemes

def groupLexemes (document : Document) (names : Naming.RegistryNames) (options : Options)
    (group : TagGroup) : List Lexeme :=
  let synthesis : Synthesis := ⟨document, names, .local⟩
  bannerLexemes document ++ (importLexemes options ++
    (group.operations.flatMap synthesis.declarationLexemes ++
      group.operations.flatMap synthesis.callableLexemes))

def artifactLexemes (document : Document) (names : Naming.RegistryNames) (options : Options) :
    List (List Lexeme) :=
  typesLexemes document names ::
    ((if options.emitRequestContract then [bannerLexemes document ++ contractLexemes] else []) ++
      (document.tagGroups options.fallbackTag).map (groupLexemes document names options))

theorem componentDeclarations_lexemes (h : names.keys = document.schemas.keys) :
    (componentDeclarations document names).flatMap (·.type.lexemes) =
      document.schemas.flatMap fun (_, schema) =>
        (Synthesis.typeOf ⟨document, names, .global⟩ schema).lexemes := by
  have hdeclares := componentDeclarations_forall₂ h
  generalize componentDeclarations document names = declarations at hdeclares
  generalize document.schemas = components at hdeclares
  induction hdeclares with
  | nil => rfl
  | cons hfirst _ ih => rw [List.flatMap_cons, List.flatMap_cons, ih, hfirst.2]

theorem reads_types (hnames : Naming.nameRegistry document.schemas.keys
      (options.artifactName options.typesModule) options.strictNames = .ok names) :
    Reads (typesText (banner document) ((componentDeclarations document names).map (·.text)))
      (typesLexemes document names) := by
  unfold typesLexemes
  rw [← componentDeclarations_lexemes (Naming.nameRegistry_ok hnames).1]
  have hcomponent : ∀ declaration ∈ componentDeclarations document names,
      IsName declaration.name ∧ IsReadable declaration.type := by
    intro declaration hdeclaration
    obtain ⟨⟨key, schema⟩, -, hsome⟩ := List.mem_filterMap.mp hdeclaration
    obtain ⟨name, hname, rfl⟩ := Option.map_eq_some_iff.mp hsome
    refine ⟨(Naming.declared_of_nameRegistry hnames (Mapping.mem_of_get? hname)).1, ?_⟩
    have huses := Synthesis.uses_typeOf ⟨document, names, .global⟩ [] schema
    exact huses.isReadable hnames (by simp)
  exact reads_typesText document (fun declaration hmem => (hcomponent declaration hmem).1)
    fun declaration hmem => (hcomponent declaration hmem).2

theorem reads_client (hrequest : IsSpecifier options.requestModule)
    (htypes : IsSpecifier options.typesModule)
    (hnames : Naming.nameRegistry document.schemas.keys
      (options.artifactName options.typesModule) options.strictNames = .ok names)
    {client : GroupClient}
    (h : groupContent (builtinRun document names options) client.group client.file =
      .ok (client.signatures, client.declarations)) :
    Reads (clientText (builtinRun document names options) client)
      (groupLexemes document names options client.group) := by
  obtain ⟨final, hbuilds, hdeclarations⟩ := groupContent_ok h
  obtain ⟨declarations, hnew, hdeclares, huses⟩ := hbuilds.declares
  obtain rfl : declarations = client.declarations := hnew.symm.trans hdeclarations
  obtain ⟨hdeclared, hcallables⟩ := hbuilds.lexemes
  obtain ⟨hnumbers, -, -⟩ := Naming.Allocator.allocateAll_ok hbuilds.methodNames
  have hmethods : ∀ name ∈ client.signatures.map (·.name), IsName name := by
    apply Naming.isName_of_allocated _ hnumbers
    intro base hbase
    obtain ⟨bound, -, rfl⟩ := List.mem_map.mp hbase
    exact Naming.isName_operationName _ _
  have hfactory : IsName (factoryName client.group.tag) :=
    ((Naming.isName_of_decide (by decide)).append (Naming.isName_typeName _)).append
      (Naming.isName_of_decide (by decide))
  have htexts := reads_declarations
    (fun declaration hmem => hdeclares.isName _ (List.mem_map.mpr ⟨declaration, hmem, rfl⟩))
    fun declaration hmem => (hdeclares.uses declaration hmem).isReadable hnames hdeclares.isName
  have hcalls : ∀ signature ∈ client.signatures,
      Reads (callableText signature.callable) signature.lexemes :=
    fun signature hmem => reads_callableText
      (hmethods _ (List.mem_map.mpr ⟨signature, hmem, rfl⟩))
      fun type htype => (huses signature hmem type htype).isReadable hnames hdeclares.isName
  have hall := reads_groupText document hrequest htypes hfactory htexts hcalls
  rw [hdeclarations] at hdeclared
  rw [hdeclared, hcallables] at hall
  exact hall

theorem lexemes_contractArtifacts (document : Document) (names : Naming.RegistryNames)
    (options : Options) :
    (contractArtifacts (builtinRun document names options)).map
        (fun artifact => Script.lexemes? artifact.2) =
      (if options.emitRequestContract then [bannerLexemes document ++ contractLexemes]
        else []).map some := by
  unfold contractArtifacts builtinRun
  dsimp only
  split
  · rw [List.map_singleton, List.map_singleton, (reads_requestText document).lexemes?_eq]
  · rfl

theorem lexemes_clients (hrequest : IsSpecifier options.requestModule)
    (htypes : IsSpecifier options.typesModule)
    (hnames : Naming.nameRegistry document.schemas.keys
      (options.artifactName options.typesModule) options.strictNames = .ok names)
    {clients : List GroupClient} (h : HasClients (builtinRun document names options) clients) :
    clients.map (fun client =>
        Script.lexemes? (clientText (builtinRun document names options) client)) =
      ((document.tagGroups options.fallbackTag).map
        (groupLexemes document names options)).map some := by
  have hgroups : clients.map (·.group) = document.tagGroups options.fallbackTag := h.groups
  rw [← hgroups, List.map_map, List.map_map]
  apply List.map_congr_left
  intro client hclient
  exact (reads_client hrequest htypes hnames (h.content client hclient)).lexemes?_eq

/-- Every artifact ends outside comments and strings, and those in it are the ones that were
written. -/
theorem lexemes_of_transform {artifacts : Artifacts} (hrequest : IsSpecifier options.requestModule)
    (htypes : IsSpecifier options.typesModule)
    (h : transform document options .builtin = .ok artifacts) :
    ∃ names,
      Naming.nameRegistry document.schemas.keys (options.artifactName options.typesModule)
        options.strictNames = .ok names ∧
      artifacts.map (fun artifact => Script.lexemes? artifact.2) =
        (artifactLexemes document names options).map some := by
  obtain ⟨-, names, clients, hnames, hclients, rfl⟩ := transform_ok h
  refine ⟨names, hnames, ?_⟩
  have hcomponents : Script.lexemes? (typesText (builtinRun document names options).banner
      ((componentDeclarations (builtinRun document names options).document
        (builtinRun document names options).names).map (·.text))) =
          some (typesLexemes document names) := (reads_types hnames).lexemes?_eq
  have hcontract := lexemes_contractArtifacts document names options
  have hgroups := lexemes_clients hrequest htypes hnames hclients
  unfold assembled artifactLexemes
  rw [List.map_cons, List.map_cons, List.map_append, List.map_append, ← hcontract, ← hgroups,
    ← hcomponents, List.map_map]
  simp only [Function.comp_def]

theorem lexemes_of_transform_marks :
    let noted : Json := .object [("$ref", .text "#/none*/\"")]
    let raw : Json := .object [
      ("info", .object [("title", .text "*/ \" //\n"), ("version", .text "/* 1")]),
      ("paths", .object [("/a\"*/\n", .object [("post", .object [
        ("summary", .text "ends */ here"),
        ("requestBody", .object [("content", .object [("text/plain", .object [("schema", noted)])])]),
        ("responses", .object [("200", .object [("content", .object [
          ("text/plain", .object [("schema", .object [("properties", .object [("*/\"", noted)])])])])])])])])]),
      ("components", .object [("schemas", .object [("\"*/", noted)])])]
    ∃ document artifacts names, Document.ofJson raw = .ok document ∧
      transform document {} .builtin = .ok artifacts ∧
      artifacts.map (fun artifact => Script.lexemes? artifact.2) =
        (artifactLexemes document names {}).map some := by
  intro noted raw
  have hsome : ((Document.ofJson raw).toOption.bind fun document =>
      (transform document {} .builtin).toOption).isSome = true := by decide +kernel
  obtain ⟨document, hdocument⟩ : ∃ document, Document.ofJson raw = .ok document := ⟨_, rfl⟩
  rw [hdocument] at hsome
  obtain ⟨artifacts, hartifacts⟩ := Outcome.exists_ok hsome
  have hrequest : IsSpecifier "request" := Script.safe_of_decide (by decide)
  have htypes : IsSpecifier "types" := Script.safe_of_decide (by decide)
  obtain ⟨names, -, hlexemes⟩ := lexemes_of_transform hrequest htypes hartifacts
  exact ⟨document, artifacts, names, hdocument, hartifacts, hlexemes⟩

end Artifact

end TypedClient
