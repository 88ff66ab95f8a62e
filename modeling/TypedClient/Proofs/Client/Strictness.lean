import TypedClient.Proofs.Client.Declared
import TypedClient.Proofs.Naming.Strictness

/-!
The names that the artifact of a group asks for, and the artifact under strict naming. As long as
every name is given as it is asked for, strict naming makes no difference; without it there are
names for every group.
-/

namespace TypedClient

open Naming (Allocator)

namespace ArtifactM

variable {α β : Type} {scope middle next : ArtifactScope} {synthesis : Synthesis}

theorem yields_bind {step : ArtifactM α} {rest : α → ArtifactM β} {value : α} {result : β}
    (hstep : Yields step scope value middle) (hrest : Yields (rest value) middle result next) :
    Yields (step >>= rest) scope result next := by
  unfold Yields at hstep ⊢
  rw [ExceptT.run_bind, StateT.run_bind, hstep]
  exact hrest

theorem yields_pure (value : α) (scope : ArtifactScope) : Yields (pure value) scope value scope :=
  rfl

theorem yields_get (scope : ArtifactScope) : Yields get scope scope scope := rfl

theorem yields_lift {step : Except Naming.NameCollision α} {value : α} (h : step = .ok value)
    (scope : ArtifactScope) : Yields (liftM step) scope value scope := by
  subst h
  rfl

theorem yields_methodName {base name : String} {methodNames : Allocator}
    (h : scope.methodNames.allocate base = .ok (name, methodNames)) :
    Yields (methodName base) scope name { scope with methodNames } :=
  yields_bind (yields_get scope) (yields_bind (yields_lift h scope) rfl)

theorem yields_declare {base name : String} {type : TypeExpr} {typeNames : Allocator}
    (h : scope.typeNames.allocate base = .ok (name, typeNames)) :
    Yields (declare base type) scope name
      { scope with typeNames, declarations := scope.declarations ++ [⟨name, type⟩] } :=
  yields_bind (yields_get scope) (yields_bind (yields_lift h scope) rfl)

end ArtifactM

section

variable {synthesis : Synthesis} {base : String} {names next : Allocator} {type : TypeExpr}
  {declarations : List Declaration}

theorem Settles.yields {schema : Schema}
    (h : Settles synthesis base schema names type next declarations) (methodNames : Allocator)
    (before : List Declaration) :
    ArtifactM.Yields (ArtifactM.typeFor synthesis base schema) ⟨methodNames, names, before⟩ type
      ⟨methodNames, next, before ++ declarations⟩ := by
  unfold ArtifactM.typeFor
  cases h with
  | reference hreference =>
    rw [if_pos hreference, List.append_nil]
    exact ArtifactM.yields_pure _ _
  | declared hreference hname =>
    rw [if_neg (by simp [hreference])]
    exact ArtifactM.yields_bind (ArtifactM.yields_declare hname) (ArtifactM.yields_pure _ _)

theorem SettlesBody.yields {bound : BoundOperation} {body : BodyParameter}
    (h : SettlesBody synthesis base bound names body next declarations) (methodNames : Allocator)
    (before : List Declaration) :
    ArtifactM.Yields (ArtifactM.bodyParameter synthesis base bound) ⟨methodNames, names, before⟩ body
      ⟨methodNames, next, before ++ declarations⟩ := by
  unfold ArtifactM.bodyParameter
  cases h with
  | none hcarries =>
    rw [if_neg (by simp [hcarries]), List.append_nil]
    exact ArtifactM.yields_pure _ _
  | untyped hcarries hschema =>
    rw [if_pos hcarries, hschema, List.append_nil]
    exact ArtifactM.yields_pure _ _
  | typed hcarries hschema hsettles =>
    rw [if_pos hcarries, hschema]
    exact ArtifactM.yields_bind (hsettles.yields methodNames before) (ArtifactM.yields_pure _ _)

theorem SettlesReturn.yields {operation : Operation}
    (h : SettlesReturn synthesis base operation names type next declarations)
    (methodNames : Allocator) (before : List Declaration) :
    ArtifactM.Yields (ArtifactM.returnType synthesis base operation) ⟨methodNames, names, before⟩ type
      ⟨methodNames, next, before ++ declarations⟩ := by
  unfold ArtifactM.returnType
  cases h with
  | void hschema =>
    rw [hschema, List.append_nil]
    exact ArtifactM.yields_pure _ _
  | typed hschema hsettles =>
    rw [hschema]
    exact hsettles.yields methodNames before

end

section

variable {synthesis : Synthesis} {scope next : ArtifactScope}

theorem Builds.yields {bound : BoundOperation} {signature : Signature}
    (h : Builds synthesis bound scope signature next) :
    ArtifactM.Yields (ArtifactM.signature synthesis bound) scope signature next := by
  cases h with
  | mk hname hbody hreturns =>
    rw [← List.append_assoc]
    exact ArtifactM.yields_bind (ArtifactM.yields_methodName hname)
      (ArtifactM.yields_bind (hbody.yields _ _)
        (ArtifactM.yields_bind (hreturns.yields _ _) (ArtifactM.yields_pure _ _)))

theorem BuildsAll.yields {bounds : List BoundOperation} {signatures : List Signature}
    (h : BuildsAll synthesis scope bounds signatures next) :
    ArtifactM.Yields (bounds.mapM (ArtifactM.signature synthesis)) scope signatures next := by
  induction h with
  | nil scope =>
    rw [List.mapM_nil]
    exact ArtifactM.yields_pure _ _
  | cons hfirst _ ih =>
    rw [List.mapM_cons]
    exact ArtifactM.yields_bind hfirst.yields
      (ArtifactM.yields_bind ih (ArtifactM.yields_pure _ _))

end

def declaredBases (base : String) : Option Schema → List String
  | some schema => if schema.isReference then [] else [base]
  | none => []

def Signature.typeBases (signature : Signature) : List String :=
  let base := Naming.typeName signature.name
  declaredBases (base ++ "Request") signature.bound.requestSchema? ++
    declaredBases (base ++ "Response") signature.bound.operation.successSchema?

section

variable {synthesis : Synthesis} {base : String} {names next : Allocator} {type : TypeExpr}
  {declarations : List Declaration}

theorem Settles.allocates {schema : Schema}
    (h : Settles synthesis base schema names type next declarations) :
    names.allocateAll (declaredBases base (some schema)) =
      .ok (declarations.map (·.name), next) := by
  cases h with
  | reference hreference =>
    rw [declaredBases, if_pos hreference]
    rfl
  | declared hreference hname =>
    rw [declaredBases, if_neg (by simp [hreference])]
    exact Allocator.allocateAll_single hname

theorem SettlesBody.allocates {bound : BoundOperation} {body : BodyParameter}
    (h : SettlesBody synthesis base bound names body next declarations) :
    names.allocateAll (declaredBases (base ++ "Request") bound.requestSchema?) =
      .ok (declarations.map (·.name), next) := by
  unfold BoundOperation.requestSchema?
  cases h with
  | none hcarries =>
    rw [if_neg (by simp [hcarries])]
    rfl
  | untyped hcarries hschema =>
    rw [if_pos hcarries, hschema]
    rfl
  | typed hcarries hschema hsettles =>
    rw [if_pos hcarries, hschema]
    exact hsettles.allocates

theorem SettlesReturn.allocates {operation : Operation}
    (h : SettlesReturn synthesis base operation names type next declarations) :
    names.allocateAll (declaredBases (base ++ "Response") operation.successSchema?) =
      .ok (declarations.map (·.name), next) := by
  cases h with
  | void hschema =>
    rw [hschema]
    rfl
  | typed hschema hsettles =>
    rw [hschema]
    exact hsettles.allocates

theorem Settles.withStrict {schema : Schema}
    (h : Settles synthesis base schema names type next declarations)
    (hown : declarations.map (·.name) = declaredBases base (some schema)) (strict : Bool) :
    Settles synthesis base schema (names.withStrict strict) type (next.withStrict strict)
      declarations := by
  cases h with
  | reference hreference => exact .reference hreference
  | declared hreference hname =>
    rw [declaredBases, if_neg (by simp [hreference])] at hown
    have hname' := Allocator.allocate_withStrict hname (List.cons.inj hown).1 strict
    exact .declared hreference hname'

theorem SettlesBody.withStrict {bound : BoundOperation} {body : BodyParameter}
    (h : SettlesBody synthesis base bound names body next declarations)
    (hown : declarations.map (·.name) = declaredBases (base ++ "Request") bound.requestSchema?)
    (strict : Bool) :
    SettlesBody synthesis base bound (names.withStrict strict) body (next.withStrict strict)
      declarations := by
  cases h with
  | none hcarries => exact .none hcarries
  | untyped hcarries hschema => exact .untyped hcarries hschema
  | typed hcarries hschema hsettles =>
    rw [BoundOperation.requestSchema?, if_pos hcarries, hschema] at hown
    exact .typed hcarries hschema (hsettles.withStrict hown strict)

theorem SettlesReturn.withStrict {operation : Operation}
    (h : SettlesReturn synthesis base operation names type next declarations)
    (hown : declarations.map (·.name) = declaredBases (base ++ "Response") operation.successSchema?)
    (strict : Bool) :
    SettlesReturn synthesis base operation (names.withStrict strict) type (next.withStrict strict)
      declarations := by
  cases h with
  | void hschema => exact .void hschema
  | typed hschema hsettles =>
    rw [hschema] at hown
    exact .typed hschema (hsettles.withStrict hown strict)

theorem exists_settles (synthesis : Synthesis) (hloose : names.strict = false) (base : String)
    (schema : Schema) :
    ∃ type next declarations, Settles synthesis base schema names type next declarations ∧
      next.strict = false := by
  cases hreference : schema.isReference with
  | true => exact ⟨_, _, _, .reference hreference, hloose⟩
  | false =>
    obtain ⟨name, next, hname, hnext⟩ := Allocator.exists_allocate hloose base
    exact ⟨_, _, _, .declared hreference hname, hnext⟩

theorem exists_settlesBody (synthesis : Synthesis) (hloose : names.strict = false) (base : String)
    (bound : BoundOperation) :
    ∃ body next declarations, SettlesBody synthesis base bound names body next declarations ∧
      next.strict = false := by
  cases hcarries : bound.method.carriesBody with
  | false => exact ⟨_, _, _, .none hcarries, hloose⟩
  | true =>
    cases hschema : bound.operation.requestSchema? with
    | none => exact ⟨_, _, _, .untyped hcarries hschema, hloose⟩
    | some schema =>
      obtain ⟨type, next, declarations, hsettles, hnext⟩ :=
        exists_settles synthesis hloose (base ++ "Request") schema
      exact ⟨_, _, _, .typed hcarries hschema hsettles, hnext⟩

theorem exists_settlesReturn (synthesis : Synthesis) (hloose : names.strict = false) (base : String)
    (operation : Operation) :
    ∃ type next declarations, SettlesReturn synthesis base operation names type next declarations ∧
      next.strict = false := by
  cases hschema : operation.successSchema? with
  | none => exact ⟨_, _, _, .void hschema, hloose⟩
  | some schema =>
    obtain ⟨type, next, declarations, hsettles, hnext⟩ :=
      exists_settles synthesis hloose (base ++ "Response") schema
    exact ⟨_, _, _, .typed hschema hsettles, hnext⟩

end

def ArtifactScope.withStrict (scope : ArtifactScope) (strict : Bool) : ArtifactScope :=
  ⟨scope.methodNames.withStrict strict, scope.typeNames.withStrict strict, scope.declarations⟩

structure ArtifactScope.IsLoose (scope : ArtifactScope) : Prop where
  methodNames : scope.methodNames.strict = false
  typeNames : scope.typeNames.strict = false

section

variable {synthesis : Synthesis} {scope next : ArtifactScope}

theorem Builds.typeNames {bound : BoundOperation} {signature : Signature}
    (h : Builds synthesis bound scope signature next) :
    ∃ declarations, next.declarations = scope.declarations ++ declarations ∧
      scope.typeNames.allocateAll signature.typeBases =
        .ok (declarations.map (·.name), next.typeNames) := by
  cases h with
  | mk _ hbody hreturns =>
    refine ⟨_, rfl, ?_⟩
    rw [List.map_append]
    exact Allocator.allocateAll_append hbody.allocates hreturns.allocates

theorem BuildsAll.typeNames {bounds : List BoundOperation} {signatures : List Signature}
    (h : BuildsAll synthesis scope bounds signatures next) :
    ∃ declarations, next.declarations = scope.declarations ++ declarations ∧
      scope.typeNames.allocateAll (signatures.flatMap (·.typeBases)) =
        .ok (declarations.map (·.name), next.typeNames) := by
  induction h with
  | nil scope => exact ⟨[], by simp, rfl⟩
  | cons hfirst _ ih =>
    obtain ⟨front, hfront, hnames⟩ := hfirst.typeNames
    obtain ⟨back, hback, hnames'⟩ := ih
    refine ⟨front ++ back, by rw [hback, hfront, List.append_assoc], ?_⟩
    rw [List.flatMap_cons, List.map_append]
    exact Allocator.allocateAll_append hnames hnames'

theorem length_of_allocateAll {names next : Allocator} {bases : List String}
    {declarations : List Declaration}
    (h : names.allocateAll bases = .ok (declarations.map (·.name), next)) :
    (declarations.map (·.name)).length = bases.length :=
  (Allocator.allocateAll_ok h).1.length_eq.symm

theorem Builds.withStrict {bound : BoundOperation} {signature : Signature}
    (h : Builds synthesis bound scope signature next) (hname : signature.name = bound.operation.name)
    (htypes : next.declarations.map (·.name) =
      scope.declarations.map (·.name) ++ signature.typeBases) (strict : Bool) :
    Builds synthesis bound (scope.withStrict strict) signature (next.withStrict strict) := by
  cases h with
  | mk hmethod hbody hreturns =>
    rw [List.map_append, List.map_append] at htypes
    obtain ⟨hrequested, hresponded⟩ :=
      List.append_inj (List.append_cancel_left htypes) (length_of_allocateAll hbody.allocates)
    exact .mk (Allocator.allocate_withStrict hmethod hname strict)
      (hbody.withStrict hrequested strict) (hreturns.withStrict hresponded strict)

theorem BuildsAll.withStrict {bounds : List BoundOperation} {signatures : List Signature}
    (h : BuildsAll synthesis scope bounds signatures next)
    (hnames : signatures.map (·.name) = bounds.map (·.operation.name))
    (htypes : next.declarations.map (·.name) =
      scope.declarations.map (·.name) ++ signatures.flatMap (·.typeBases)) (strict : Bool) :
    BuildsAll synthesis (scope.withStrict strict) bounds signatures (next.withStrict strict) := by
  induction h with
  | nil scope => exact .nil _
  | @cons scope middle next bound signature bounds signatures hfirst hrest ih =>
    obtain ⟨hname, hnames⟩ := List.cons.inj hnames
    obtain ⟨front, hfront, hfronts⟩ := hfirst.typeNames
    obtain ⟨back, hback, -⟩ := hrest.typeNames
    -- The names of the first operation are as many as it asks for, so the two lists can be split.
    rw [hback, hfront, List.map_append, List.map_append, List.append_assoc,
      List.flatMap_cons] at htypes
    obtain ⟨hown, howns⟩ :=
      List.append_inj (List.append_cancel_left htypes) (length_of_allocateAll hfronts)
    have hfirst' := hfirst.withStrict hname (by rw [hfront, List.map_append, hown]) strict
    exact .cons hfirst' (ih hnames (by rw [hback, List.map_append, howns]))

theorem exists_builds (synthesis : Synthesis) (hloose : scope.IsLoose) (bound : BoundOperation) :
    ∃ signature next, Builds synthesis bound scope signature next ∧ next.IsLoose := by
  obtain ⟨methodNames, typeNames, declarations⟩ := scope
  obtain ⟨hmethods, htypes⟩ := hloose
  obtain ⟨name, methodNames', hname, hmethods'⟩ :=
    Allocator.exists_allocate hmethods bound.operation.name
  obtain ⟨body, middle, requested, hbody, hmiddle⟩ :=
    exists_settlesBody synthesis htypes (Naming.typeName name) bound
  obtain ⟨returns, typeNames', responded, hreturns, htypes'⟩ :=
    exists_settlesReturn synthesis hmiddle (Naming.typeName name) bound.operation
  exact ⟨_, _, .mk hname hbody hreturns, hmethods', htypes'⟩

theorem exists_buildsAll (synthesis : Synthesis) (hloose : scope.IsLoose)
    (bounds : List BoundOperation) :
    ∃ signatures next, BuildsAll synthesis scope bounds signatures next := by
  induction bounds generalizing scope with
  | nil => exact ⟨_, _, .nil scope⟩
  | cons bound bounds ih =>
    obtain ⟨signature, middle, hfirst, hmiddle⟩ := exists_builds synthesis hloose bound
    obtain ⟨signatures, next, hrest⟩ := ih hmiddle
    exact ⟨_, _, .cons hfirst hrest⟩

end

def Options.withStrict (options : Options) (strict : Bool) : Options :=
  { options with strictNames := strict }

def Run.withStrict (run : Run) (strict : Bool) : Run :=
  { run with options := run.options.withStrict strict }

namespace Artifact

variable {run : Run} {group : TagGroup} {scope : String} {signatures : List Signature}
  {declarations : List Declaration}

theorem groupContent_of_buildsAll {final : ArtifactScope}
    (h : BuildsAll ⟨run.document, run.names, .local⟩
      (ArtifactScope.empty scope run.options.strictNames) group.operations signatures final) :
    groupContent run group scope = .ok (signatures, final.declarations) := by
  have hrun : (ExceptT.run (group.operations.mapM (ArtifactM.signature
      ⟨run.document, run.names, .local⟩))).run
        (ArtifactScope.empty scope run.options.strictNames) = (.ok signatures, final) := h.yields
  unfold groupContent
  dsimp only
  rw [hrun]
  rfl

theorem groupContent_names
    (h : groupContent run group scope = .ok (signatures, declarations)) :
    ∃ methodNames typeNames,
      (ArtifactScope.empty scope run.options.strictNames).methodNames.allocateAll
        (group.operations.map (·.operation.name)) = .ok (signatures.map (·.name), methodNames) ∧
      (ArtifactScope.empty scope run.options.strictNames).typeNames.allocateAll
        (signatures.flatMap (·.typeBases)) = .ok (declarations.map (·.name), typeNames) := by
  obtain ⟨final, hbuilds, rfl⟩ := groupContent_ok h
  obtain ⟨declarations, hdeclarations, htypes⟩ := hbuilds.typeNames
  refine ⟨final.methodNames, final.typeNames, hbuilds.methodNames, ?_⟩
  rw [hdeclarations]
  exact htypes

structure HasOwnNames (group : TagGroup) (signatures : List Signature)
    (declarations : List Declaration) : Prop where
  callables : signatures.map (·.name) = group.operations.map (·.operation.name)
  types : declarations.map (·.name) = signatures.flatMap (·.typeBases)

theorem groupContent_strict (hstrict : run.options.strictNames = true)
    (h : groupContent run group scope = .ok (signatures, declarations)) :
    HasOwnNames group signatures declarations := by
  obtain ⟨methodNames, typeNames, hcallables, htypes⟩ := groupContent_names h
  rw [hstrict] at hcallables htypes
  exact ⟨Allocator.allocateAll_strict rfl hcallables, Allocator.allocateAll_strict rfl htypes⟩

theorem groupContent_withStrict (h : groupContent run group scope = .ok (signatures, declarations))
    (hown : HasOwnNames group signatures declarations) (strict : Bool) :
    groupContent (run.withStrict strict) group scope = .ok (signatures, declarations) := by
  obtain ⟨final, hbuilds, rfl⟩ := groupContent_ok h
  show groupContent _ group scope = .ok (signatures, (final.withStrict strict).declarations)
  exact groupContent_of_buildsAll (hbuilds.withStrict hown.callables hown.types strict)

theorem exists_groupContent (hloose : run.options.strictNames = false) (group : TagGroup)
    (scope : String) : ∃ signatures declarations,
      groupContent run group scope = .ok (signatures, declarations) := by
  have hempty : (ArtifactScope.empty scope run.options.strictNames).IsLoose := by
    rw [hloose]
    exact ⟨rfl, rfl⟩
  obtain ⟨signatures, final, hbuilds⟩ := exists_buildsAll _ hempty group.operations
  exact ⟨_, _, groupContent_of_buildsAll hbuilds⟩

end Artifact

end TypedClient
