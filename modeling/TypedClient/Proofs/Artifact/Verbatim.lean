import TypedClient.Proofs.Client.Strictness
import TypedClient.Proofs.Artifact.Assembly

/-!
Strict clients are put together from their operations. What a strict client holds for an operation
depends on nothing else in its group, so an operation with many tags is the same in each of them.
-/

namespace TypedClient

open Naming (Allocator)

def Synthesis.ownType (synthesis : Synthesis) (base : String) (schema : Schema) : TypeExpr :=
  if schema.isReference then synthesis.typeOf schema else .named base

def Synthesis.ownDeclarations (synthesis : Synthesis) (base : String) (schema : Schema) :
    List Declaration :=
  if schema.isReference then [] else [⟨base, synthesis.typeOf schema⟩]

namespace BoundOperation

def requestBase (bound : BoundOperation) : String :=
  Naming.typeName bound.operation.name ++ "Request"

def responseBase (bound : BoundOperation) : String :=
  Naming.typeName bound.operation.name ++ "Response"

def ownBody (synthesis : Synthesis) (bound : BoundOperation) : BodyParameter :=
  if bound.method.carriesBody then
    match bound.operation.requestSchema? with
    | some schema => .typed (synthesis.ownType bound.requestBase schema)
    | none => .untyped
  else .none

def ownReturns (synthesis : Synthesis) (bound : BoundOperation) : TypeExpr :=
  match bound.operation.successSchema? with
  | some schema => synthesis.ownType bound.responseBase schema
  | none => .keyword .void

def ownSignature (synthesis : Synthesis) (bound : BoundOperation) : Signature where
  bound := bound
  name := bound.operation.name
  body := bound.ownBody synthesis
  returns := bound.ownReturns synthesis

def ownDeclarations (synthesis : Synthesis) (bound : BoundOperation) : List Declaration :=
  bound.requestSchema?.toList.flatMap (synthesis.ownDeclarations bound.requestBase) ++
    bound.operation.successSchema?.toList.flatMap (synthesis.ownDeclarations bound.responseBase)

end BoundOperation

structure ArtifactScope.IsStrict (scope : ArtifactScope) : Prop where
  methodNames : scope.methodNames.strict = true
  typeNames : scope.typeNames.strict = true

section

variable {synthesis : Synthesis} {names next : Allocator} {base : String} {type : TypeExpr}
  {declarations : List Declaration} {bound : BoundOperation}

theorem Settles.own {schema : Schema} (hstrict : names.strict = true)
    (h : Settles synthesis base schema names type next declarations) :
    type = synthesis.ownType base schema ∧
      declarations = synthesis.ownDeclarations base schema ∧ next.strict = true := by
  unfold Synthesis.ownType Synthesis.ownDeclarations
  cases h with
  | reference hreference =>
    rw [if_pos hreference, if_pos hreference]
    exact ⟨rfl, rfl, hstrict⟩
  | declared hreference hname =>
    obtain ⟨rfl, hnext⟩ := Allocator.allocate_strict hstrict hname
    rw [if_neg (by simp [hreference]), if_neg (by simp [hreference])]
    exact ⟨rfl, rfl, hnext⟩

theorem SettlesBody.own {body : BodyParameter} (hstrict : names.strict = true)
    (h : SettlesBody synthesis (Naming.typeName bound.operation.name) bound names body next
      declarations) :
    body = bound.ownBody synthesis ∧
      declarations =
        bound.requestSchema?.toList.flatMap (synthesis.ownDeclarations bound.requestBase) ∧
      next.strict = true := by
  unfold BoundOperation.ownBody BoundOperation.requestSchema?
  cases h with
  | none hcarries => simp [hcarries, hstrict]
  | untyped hcarries hschema => simp [hcarries, hschema, hstrict]
  | typed hcarries hschema hsettles =>
    obtain ⟨rfl, rfl, hnext⟩ := hsettles.own hstrict
    simp [hcarries, hschema, hnext, BoundOperation.requestBase]

theorem SettlesReturn.own (hstrict : names.strict = true)
    (h : SettlesReturn synthesis (Naming.typeName bound.operation.name) bound.operation names type
      next declarations) :
    type = bound.ownReturns synthesis ∧
      declarations = bound.operation.successSchema?.toList.flatMap
        (synthesis.ownDeclarations bound.responseBase) ∧
      next.strict = true := by
  unfold BoundOperation.ownReturns
  cases h with
  | void hschema => simp [hschema, hstrict]
  | typed hschema hsettles =>
    obtain ⟨rfl, rfl, hnext⟩ := hsettles.own hstrict
    simp [hschema, hnext, BoundOperation.responseBase]

end

section

variable {synthesis : Synthesis} {scope next : ArtifactScope} {bound : BoundOperation}
  {signature : Signature} {bounds before after : List BoundOperation} {signatures : List Signature}

theorem Builds.own (hstrict : scope.IsStrict) (h : Builds synthesis bound scope signature next) :
    signature = bound.ownSignature synthesis ∧
      next.declarations = scope.declarations ++ bound.ownDeclarations synthesis ∧
      next.IsStrict := by
  obtain ⟨hmethods, htypes⟩ := hstrict
  cases h with
  | mk hname hbody hreturns =>
    obtain ⟨rfl, hmethods'⟩ := Allocator.allocate_strict hmethods hname
    obtain ⟨rfl, rfl, hmiddle⟩ := hbody.own htypes
    obtain ⟨rfl, rfl, htypes'⟩ := hreturns.own hmiddle
    exact ⟨rfl, rfl, hmethods', htypes'⟩

theorem BuildsAll.own (hstrict : scope.IsStrict)
    (h : BuildsAll synthesis scope bounds signatures next) :
    signatures = bounds.map (·.ownSignature synthesis) ∧
      next.declarations = scope.declarations ++ bounds.flatMap (·.ownDeclarations synthesis) ∧
      next.IsStrict := by
  induction h with
  | nil scope => simp [hstrict]
  | cons hfirst _ ih =>
    obtain ⟨rfl, hown, hmiddle⟩ := hfirst.own hstrict
    obtain ⟨rfl, howns, hnext⟩ := ih hmiddle
    refine ⟨rfl, ?_, hnext⟩
    rw [howns, hown, List.flatMap_cons, List.append_assoc]

theorem BuildsAll.split (h : BuildsAll synthesis scope (before ++ bound :: after) signatures next) :
    ∃ front signature back start stop, signatures = front ++ signature :: back ∧
      BuildsAll synthesis scope before front start ∧ Builds synthesis bound start signature stop ∧
      BuildsAll synthesis stop after back next := by
  induction before generalizing scope signatures with
  | nil =>
    cases h with
    | cons hfirst hrest => exact ⟨[], _, _, _, _, rfl, .nil scope, hfirst, hrest⟩
  | cons first before ih =>
    cases h with
    | cons hfirst hrest =>
      obtain ⟨front, signature, back, start, stop, rfl, hfront, hown, hback⟩ := ih hrest
      exact ⟨_ :: front, signature, back, start, stop, rfl, .cons hfirst hfront, hown, hback⟩

end

structure Generated where
  callable : Callable
  declarations : List Declaration

def Run.synthesis (run : Run) : Synthesis := ⟨run.document, run.names, .local⟩

/-- A client holds this for an operation: the builder comes to the operation with the names that the
operations before it have taken, writes its callable and adds its declarations. -/
inductive GroupClient.Generates (run : Run) (client : GroupClient) (bound : BoundOperation) :
    Generated → Prop
  | mk {before after : List BoundOperation} {front back : List Signature} {signature : Signature}
      {start stop final : ArtifactScope} {declarations : List Declaration} :
      client.group.operations = before ++ bound :: after →
      client.signatures = front ++ signature :: back →
      BuildsAll run.synthesis (.empty client.file run.options.strictNames) before front start →
      Builds run.synthesis bound start signature stop →
      stop.declarations = start.declarations ++ declarations →
      BuildsAll run.synthesis stop after back final →
      client.declarations = final.declarations →
      Generates run client bound ⟨signature.callable, declarations⟩

def BoundOperation.ownGenerated (synthesis : Synthesis) (bound : BoundOperation) : Generated where
  callable := (bound.ownSignature synthesis).callable
  declarations := bound.ownDeclarations synthesis

namespace Artifact

variable {run : Run} {client : GroupClient} {bound : BoundOperation}

theorem empty_isStrict (file : String) : (ArtifactScope.empty file true).IsStrict := ⟨rfl, rfl⟩

theorem generates_iff (hstrict : run.options.strictNames = true)
    (hcontent : groupContent run client.group client.file =
      .ok (client.signatures, client.declarations))
    (hbound : bound ∈ client.group.operations) (generated : Generated) :
    client.Generates run bound generated ↔ generated = bound.ownGenerated run.synthesis := by
  have hempty : (ArtifactScope.empty client.file run.options.strictNames).IsStrict := by
    rw [hstrict]
    exact empty_isStrict client.file
  constructor
  · rintro ⟨-, -, hbefore, hown, hdeclarations, -, -⟩
    obtain ⟨-, -, hstart⟩ := hbefore.own hempty
    obtain ⟨rfl, hdeclared, -⟩ := hown.own hstart
    rw [List.append_cancel_left (hdeclarations.symm.trans hdeclared)]
    rfl
  · rintro rfl
    obtain ⟨final, hbuilds, hfinal⟩ := groupContent_ok hcontent
    obtain ⟨before, after, hoperations⟩ := List.append_of_mem hbound
    rw [hoperations] at hbuilds
    obtain ⟨front, signature, back, start, stop, hsignatures, hbefore, hown, hafter⟩ :=
      hbuilds.split
    obtain ⟨-, -, hstart⟩ := hbefore.own hempty
    obtain ⟨rfl, hdeclared, -⟩ := hown.own hstart
    exact .mk hoperations hsignatures hbefore hown hdeclared hafter hfinal.symm

/-- In a strict run, clients are made of what their operations give by themselves, and what is
generated for an operation is one and the same in all clients that have it. -/
theorem operations_verbatim {document : Document} {options : Options} {artifacts : Artifacts}
    (hstrict : options.strictNames = true)
    (h : transform document options .builtin = .ok artifacts) :
    ∃ names clients,
      Naming.nameRegistry document.schemas.keys (options.artifactName options.typesModule)
        options.strictNames = .ok names ∧
      HasClients (builtinRun document names options) clients ∧
      artifacts = assembled (builtinRun document names options) clients ∧
      (∀ client ∈ clients,
        client.signatures =
          client.group.operations.map (·.ownSignature ⟨document, names, .local⟩) ∧
        client.declarations =
          client.group.operations.flatMap (·.ownDeclarations ⟨document, names, .local⟩)) ∧
      ∀ bound, ∃ generated, ∀ client ∈ clients, bound ∈ client.group.operations →
        ∀ generated', client.Generates (builtinRun document names options) bound generated' ↔
          generated' = generated := by
  obtain ⟨-, names, clients, hnames, hclients, hartifacts⟩ := transform_ok h
  refine ⟨names, clients, hnames, hclients, hartifacts, ?_, ?_⟩
  · intro client hclient
    obtain ⟨final, hbuilds, hfinal⟩ := groupContent_ok (hclients.content client hclient)
    have hempty : (ArtifactScope.empty client.file options.strictNames).IsStrict := by
      rw [hstrict]
      exact empty_isStrict client.file
    obtain ⟨hsignatures, hdeclarations, -⟩ := hbuilds.own hempty
    exact ⟨hsignatures, hfinal.symm.trans hdeclarations⟩
  · intro bound
    refine ⟨bound.ownGenerated ⟨document, names, .local⟩, ?_⟩
    intro client hclient hbound
    exact generates_iff hstrict (hclients.content client hclient) hbound

theorem operations_verbatim_two_tags :
    let content : Json := .object [("content", .object [("application/json",
      .object [("schema", .object [("type", .text "string")])])])]
    let raw : Json := .object [("paths", .object [
      ("/a", .object [("get", .object [("operationId", .text "list"), ("tags", .array [.text "x"]),
        ("responses", .object [("200", content)])])]),
      ("/b", .object [("post", .object [("operationId", .text "make"),
        ("tags", .array [.text "x", .text "y"]), ("requestBody", content),
        ("responses", .object [("200", content)])])])])]
    let options : Options := { strictNames := true }
    ∃ document artifacts names clients, Document.ofJson raw = .ok document ∧
      transform document options .builtin = .ok artifacts ∧
      artifacts = assembled (builtinRun document names options) clients ∧
      (clients.map fun client => (client.group.tag, client.group.operations.map (·.label))) =
        [("x", ["GET /a", "POST /b"]), ("y", ["POST /b"])] ∧
      ∀ bound, ∃ generated, ∀ client ∈ clients, bound ∈ client.group.operations →
        client.Generates (builtinRun document names options) bound generated := by
  intro content raw options
  have hwritten : ((Document.ofJson raw).toOption.bind fun document =>
      (transform document options .builtin).toOption.map fun _ =>
        (document.tagGroups options.fallbackTag).map fun group =>
          (group.tag, group.operations.map (·.label))) =
      some [("x", ["GET /a", "POST /b"]), ("y", ["POST /b"])] := by decide +kernel
  obtain ⟨document, hread, hrun⟩ := Option.bind_eq_some_iff.mp hwritten
  obtain ⟨artifacts, hartifacts, hgroups⟩ := Option.map_eq_some_iff.mp hrun
  have hartifacts := Outcome.ok_of_toOption hartifacts
  obtain ⟨names, clients, -, hclients, hassembled, -, hgenerated⟩ :=
    operations_verbatim rfl hartifacts
  refine ⟨document, artifacts, names, clients, Outcome.ok_of_toOption hread, hartifacts,
    hassembled, ?_, ?_⟩
  · have hlabels : (document.tagGroups options.fallbackTag).map (fun group =>
        (group.tag, group.operations.map (·.label))) = _ := hgroups
    have hown : clients.map (·.group) = document.tagGroups options.fallbackTag := hclients.groups
    rw [← hown, List.map_map] at hlabels
    exact hlabels
  · intro bound
    obtain ⟨generated, hall⟩ := hgenerated bound
    exact ⟨generated, fun client hclient hbound => (hall client hclient hbound generated).mpr rfl⟩

end Artifact

end TypedClient
