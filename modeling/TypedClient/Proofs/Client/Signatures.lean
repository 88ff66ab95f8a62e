import TypedClient.Artifact.Emit
import TypedClient.Proofs.Naming.Freshness

namespace TypedClient

open Naming (Allocator)

def ArtifactM.Yields {α : Type} (step : ArtifactM α) (scope : ArtifactScope) (result : α)
    (next : ArtifactScope) : Prop :=
  (ExceptT.run step).run scope = (.ok result, next)

namespace ArtifactM

variable {α β : Type} {scope next : ArtifactScope}

theorem Yields.bind {step : ArtifactM α} {rest : α → ArtifactM β} {result : β}
    (h : Yields (step >>= rest) scope result next) :
    ∃ value middle, Yields step scope value middle ∧ Yields (rest value) middle result next := by
  unfold Yields at h
  rw [ExceptT.run_bind, StateT.run_bind] at h
  cases hstep : (ExceptT.run step).run scope with
  | mk outcome middle =>
    rw [hstep] at h
    cases outcome with
    | error clash => cases h
    | ok value => exact ⟨value, middle, hstep, h⟩

theorem Yields.pure {value result : α} (h : Yields (pure value) scope result next) :
    result = value ∧ next = scope := by
  cases h
  exact ⟨rfl, rfl⟩

theorem Yields.get {result : ArtifactScope} (h : Yields get scope result next) :
    result = scope ∧ next = scope := by
  cases h
  exact ⟨rfl, rfl⟩

theorem Yields.modify {f : ArtifactScope → ArtifactScope} {result : PUnit}
    (h : Yields (modify f) scope result next) : next = f scope := by
  cases h
  rfl

theorem Yields.lift {step : Except Naming.NameCollision α} {result : α}
    (h : Yields (liftM step) scope result next) : step = .ok result ∧ next = scope := by
  cases step with
  | error clash => cases h
  | ok value =>
    cases h
    exact ⟨rfl, rfl⟩

theorem Yields.methodName {base name : String} (h : Yields (methodName base) scope name next) :
    ∃ methodNames, scope.methodNames.allocate base = .ok (name, methodNames) ∧
      next = { scope with methodNames } := by
  obtain ⟨_, _, hget, hrest⟩ := h.bind
  obtain ⟨rfl, rfl⟩ := hget.get
  obtain ⟨⟨given, methodNames⟩, _, hlift, hstore⟩ := hrest.bind
  obtain ⟨hname, rfl⟩ := hlift.lift
  obtain ⟨_, _, hmodify, hreturn⟩ := hstore.bind
  obtain rfl := hmodify.modify
  obtain ⟨rfl, rfl⟩ := hreturn.pure
  exact ⟨methodNames, hname, rfl⟩

theorem Yields.declare {base name : String} {type : TypeExpr}
    (h : Yields (declare base type) scope name next) :
    ∃ typeNames, scope.typeNames.allocate base = .ok (name, typeNames) ∧
      next = { scope with typeNames, declarations := scope.declarations ++ [⟨name, type⟩] } := by
  obtain ⟨_, _, hget, hrest⟩ := h.bind
  obtain ⟨rfl, rfl⟩ := hget.get
  obtain ⟨⟨given, typeNames⟩, _, hlift, hstore⟩ := hrest.bind
  obtain ⟨hname, rfl⟩ := hlift.lift
  obtain ⟨_, _, hmodify, hreturn⟩ := hstore.bind
  obtain rfl := hmodify.modify
  obtain ⟨rfl, rfl⟩ := hreturn.pure
  exact ⟨typeNames, hname, rfl⟩

end ArtifactM

def BoundOperation.requestSchema? (bound : BoundOperation) : Option Schema :=
  if bound.method.carriesBody then bound.operation.requestSchema? else none

/-- The type that is written for a schema, the names taken before and after, and what is declared
for it. -/
inductive Settles (synthesis : Synthesis) (base : String) (schema : Schema) :
    Allocator → TypeExpr → Allocator → List Declaration → Prop
  | reference {names : Allocator} : schema.isReference = true →
      Settles synthesis base schema names (synthesis.typeOf schema) names []
  | declared {names next : Allocator} {name : String} : schema.isReference = false →
      names.allocate base = .ok (name, next) →
      Settles synthesis base schema names (.named name) next [⟨name, synthesis.typeOf schema⟩]

inductive SettlesBody (synthesis : Synthesis) (base : String) (bound : BoundOperation) :
    Allocator → BodyParameter → Allocator → List Declaration → Prop
  | none {names : Allocator} : bound.method.carriesBody = false →
      SettlesBody synthesis base bound names .none names []
  | untyped {names : Allocator} : bound.method.carriesBody = true →
      bound.operation.requestSchema? = none → SettlesBody synthesis base bound names .untyped names []
  | typed {names next : Allocator} {schema : Schema} {type : TypeExpr}
      {declarations : List Declaration} : bound.method.carriesBody = true →
      bound.operation.requestSchema? = some schema →
      Settles synthesis (base ++ "Request") schema names type next declarations →
      SettlesBody synthesis base bound names (.typed type) next declarations

inductive SettlesReturn (synthesis : Synthesis) (base : String) (operation : Operation) :
    Allocator → TypeExpr → Allocator → List Declaration → Prop
  | void {names : Allocator} : operation.successSchema? = none →
      SettlesReturn synthesis base operation names (.keyword .void) names []
  | typed {names next : Allocator} {schema : Schema} {type : TypeExpr}
      {declarations : List Declaration} : operation.successSchema? = some schema →
      Settles synthesis (base ++ "Response") schema names type next declarations →
      SettlesReturn synthesis base operation names type next declarations

inductive Builds (synthesis : Synthesis) (bound : BoundOperation) :
    ArtifactScope → Signature → ArtifactScope → Prop
  | mk {methodNames methodNames' typeNames middle typeNames' : Allocator}
      {declarations requested responded : List Declaration} {name : String} {body : BodyParameter}
      {returns : TypeExpr} : methodNames.allocate bound.operation.name = .ok (name, methodNames') →
      SettlesBody synthesis (Naming.typeName name) bound typeNames body middle requested →
      SettlesReturn synthesis (Naming.typeName name) bound.operation middle returns typeNames'
        responded →
      Builds synthesis bound ⟨methodNames, typeNames, declarations⟩ ⟨bound, name, body, returns⟩
        ⟨methodNames', typeNames', declarations ++ (requested ++ responded)⟩

inductive BuildsAll (synthesis : Synthesis) :
    ArtifactScope → List BoundOperation → List Signature → ArtifactScope → Prop
  | nil (scope : ArtifactScope) : BuildsAll synthesis scope [] [] scope
  | cons {scope middle next : ArtifactScope} {bound : BoundOperation} {signature : Signature}
      {bounds : List BoundOperation} {signatures : List Signature} :
      Builds synthesis bound scope signature middle →
      BuildsAll synthesis middle bounds signatures next →
      BuildsAll synthesis scope (bound :: bounds) (signature :: signatures) next

namespace ArtifactM

variable {scope next : ArtifactScope} {synthesis : Synthesis}

theorem Yields.typeFor {base : String} {schema : Schema} {type : TypeExpr}
    (h : Yields (typeFor synthesis base schema) scope type next) :
    ∃ typeNames declarations,
      Settles synthesis base schema scope.typeNames type typeNames declarations ∧
      next = ⟨scope.methodNames, typeNames, scope.declarations ++ declarations⟩ := by
  unfold ArtifactM.typeFor at h
  dsimp only at h
  cases hreference : schema.isReference with
  | true =>
    rw [if_pos hreference] at h
    obtain ⟨rfl, rfl⟩ := h.pure
    exact ⟨_, [], .reference hreference, by simp⟩
  | false =>
    rw [if_neg (by simp [hreference])] at h
    obtain ⟨name, _, hdeclare, hreturn⟩ := h.bind
    obtain ⟨typeNames, hname, rfl⟩ := hdeclare.declare
    obtain ⟨rfl, rfl⟩ := hreturn.pure
    exact ⟨typeNames, _, .declared hreference hname, rfl⟩

theorem Yields.bodyParameter {base : String} {bound : BoundOperation} {body : BodyParameter}
    (h : Yields (bodyParameter synthesis base bound) scope body next) :
    ∃ typeNames declarations,
      SettlesBody synthesis base bound scope.typeNames body typeNames declarations ∧
      next = ⟨scope.methodNames, typeNames, scope.declarations ++ declarations⟩ := by
  unfold ArtifactM.bodyParameter at h
  cases hcarries : bound.method.carriesBody with
  | false =>
    rw [if_neg (by simp [hcarries])] at h
    obtain ⟨rfl, rfl⟩ := h.pure
    exact ⟨_, [], .none hcarries, by simp⟩
  | true =>
    rw [if_pos hcarries] at h
    cases hschema : bound.operation.requestSchema? with
    | none =>
      rw [hschema] at h
      obtain ⟨rfl, rfl⟩ := h.pure
      exact ⟨_, [], .untyped hcarries hschema, by simp⟩
    | some schema =>
      rw [hschema] at h
      obtain ⟨type, _, htype, hreturn⟩ := h.bind
      obtain ⟨typeNames, declarations, hsettles, rfl⟩ := htype.typeFor
      obtain ⟨rfl, rfl⟩ := hreturn.pure
      exact ⟨typeNames, declarations, .typed hcarries hschema hsettles, rfl⟩

theorem Yields.returnType {base : String} {operation : Operation} {returns : TypeExpr}
    (h : Yields (returnType synthesis base operation) scope returns next) :
    ∃ typeNames declarations,
      SettlesReturn synthesis base operation scope.typeNames returns typeNames declarations ∧
      next = ⟨scope.methodNames, typeNames, scope.declarations ++ declarations⟩ := by
  unfold ArtifactM.returnType at h
  cases hschema : operation.successSchema? with
  | none =>
    rw [hschema] at h
    obtain ⟨rfl, rfl⟩ := h.pure
    exact ⟨_, [], .void hschema, by simp⟩
  | some schema =>
    rw [hschema] at h
    obtain ⟨typeNames, declarations, hsettles, rfl⟩ := Yields.typeFor h
    exact ⟨typeNames, declarations, .typed hschema hsettles, rfl⟩

theorem Yields.signature {bound : BoundOperation} {result : Signature}
    (h : Yields (signature synthesis bound) scope result next) :
    Builds synthesis bound scope result next := by
  obtain ⟨name, _, hmethod, hrest⟩ := h.bind
  obtain ⟨methodNames, hname, rfl⟩ := hmethod.methodName
  obtain ⟨body, _, hbody, hrest'⟩ := hrest.bind
  obtain ⟨middle, requested, hrequested, rfl⟩ := hbody.bodyParameter
  obtain ⟨returns, _, hreturns, hreturn⟩ := hrest'.bind
  obtain ⟨typeNames, responded, hresponded, rfl⟩ := hreturns.returnType
  obtain ⟨rfl, rfl⟩ := hreturn.pure
  rw [List.append_assoc]
  exact .mk hname hrequested hresponded

theorem Yields.signatures {bounds : List BoundOperation} {signatures : List Signature}
    (h : Yields (bounds.mapM (ArtifactM.signature synthesis)) scope signatures next) :
    BuildsAll synthesis scope bounds signatures next := by
  induction bounds generalizing scope signatures with
  | nil =>
    rw [List.mapM_nil] at h
    obtain ⟨rfl, rfl⟩ := h.pure
    exact .nil _
  | cons bound bounds ih =>
    rw [List.mapM_cons] at h
    obtain ⟨first, middle, hfirst, hrest⟩ := h.bind
    obtain ⟨rest, _, hsignatures, hreturn⟩ := hrest.bind
    obtain ⟨rfl, rfl⟩ := hreturn.pure
    exact .cons hfirst.signature (ih hsignatures)

end ArtifactM

theorem Artifact.groupContent_ok {run : Run} {group : TagGroup} {scope : String}
    {signatures : List Signature} {declarations : List Declaration}
    (h : groupContent run group scope = .ok (signatures, declarations)) :
    ∃ final, BuildsAll ⟨run.document, run.names, .local⟩
      (ArtifactScope.empty scope run.options.strictNames) group.operations signatures final ∧
      final.declarations = declarations := by
  unfold groupContent at h
  dsimp only at h
  cases hrun : (ExceptT.run (group.operations.mapM (ArtifactM.signature
      ⟨run.document, run.names, .local⟩))).run
        (ArtifactScope.empty scope run.options.strictNames) with
  | mk outcome final =>
    rw [hrun] at h
    cases outcome with
    | error clash => cases h
    | ok result =>
      cases h
      exact ⟨final, ArtifactM.Yields.signatures hrun, rfl⟩

end TypedClient
