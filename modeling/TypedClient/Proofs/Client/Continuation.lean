import TypedClient.Proofs.Client.Strictness

/-!
Names of a group do not depend on the types that are written: two artifacts that begin with the
same operations give them the same names, whatever else the second one holds.
-/

namespace TypedClient

open Naming (Allocator)

def declaredName : Option Schema → TypeExpr → List String
  | some schema, .named name => if schema.isReference then [] else [name]
  | _, _ => []

def BodyParameter.declaredName (schema? : Option Schema) : BodyParameter → List String
  | .typed type => TypedClient.declaredName schema? type
  | _ => []

structure OperationNames where
  bound : BoundOperation
  callable : String
  types : List String

def Signature.names (signature : Signature) : OperationNames where
  bound := signature.bound
  callable := signature.name
  types := signature.body.declaredName signature.bound.requestSchema? ++
    declaredName signature.bound.operation.successSchema? signature.returns

section

variable {synthesis synthesis' : Synthesis} {base : String} {names next next' : Allocator}
  {type type' : TypeExpr} {declarations declarations' : List Declaration}

theorem Settles.declaredName {schema : Schema}
    (h : Settles synthesis base schema names type next declarations) :
    declaredName (some schema) type = declarations.map (·.name) := by
  cases h with
  | reference hreference =>
    unfold TypedClient.declaredName
    split
    next he _ =>
      obtain rfl := Option.some.inj he
      exact if_pos hreference
    next => rfl
  | declared hreference _ => exact if_neg (by simp [hreference])

theorem SettlesBody.declaredName {bound : BoundOperation} {body : BodyParameter}
    (h : SettlesBody synthesis base bound names body next declarations) :
    body.declaredName bound.requestSchema? = declarations.map (·.name) := by
  cases h with
  | none _ => rfl
  | untyped _ _ => rfl
  | typed hcarries hschema hsettles =>
    rw [BoundOperation.requestSchema?, if_pos hcarries, hschema]
    exact hsettles.declaredName

theorem SettlesReturn.declaredName {operation : Operation}
    (h : SettlesReturn synthesis base operation names type next declarations) :
    TypedClient.declaredName operation.successSchema? type = declarations.map (·.name) := by
  cases h with
  | void hschema =>
    rw [hschema]
    rfl
  | typed hschema hsettles =>
    rw [hschema]
    exact hsettles.declaredName

theorem allocated_unique {bases : List String}
    (h : names.allocateAll bases = .ok (declarations.map (·.name), next))
    (h' : names.allocateAll bases = .ok (declarations'.map (·.name), next')) :
    declarations.map (·.name) = declarations'.map (·.name) ∧ next = next' :=
  Prod.mk.inj (Except.ok.inj (h.symm.trans h'))

end

structure ArtifactScope.SameNames (scope scope' : ArtifactScope) : Prop where
  methodNames : scope.methodNames = scope'.methodNames
  typeNames : scope.typeNames = scope'.typeNames

section

variable {synthesis synthesis' : Synthesis} {scope scope' next next' : ArtifactScope}

theorem Builds.sameNames {bound : BoundOperation} {signature signature' : Signature}
    (h : Builds synthesis bound scope signature next)
    (h' : Builds synthesis' bound scope' signature' next') (hscopes : scope.SameNames scope') :
    signature.names = signature'.names ∧ next.SameNames next' := by
  obtain ⟨hmethods, htypes⟩ := hscopes
  cases h with
  | mk hname hbody hreturns =>
    cases h' with
    | mk hname' hbody' hreturns' =>
      dsimp only at hmethods htypes
      subst hmethods htypes
      obtain ⟨rfl, rfl⟩ := Prod.mk.inj (Except.ok.inj (hname.symm.trans hname'))
      obtain ⟨hrequested, rfl⟩ := allocated_unique hbody.allocates hbody'.allocates
      obtain ⟨hresponded, rfl⟩ := allocated_unique hreturns.allocates hreturns'.allocates
      refine ⟨?_, rfl, rfl⟩
      simp only [Signature.names, hbody.declaredName, hbody'.declaredName, hreturns.declaredName,
        hreturns'.declaredName, hrequested, hresponded]

theorem BuildsAll.names_prefix {bounds more : List BoundOperation}
    {signatures signatures' : List Signature}
    (h : BuildsAll synthesis scope bounds signatures next)
    (h' : BuildsAll synthesis' scope' (bounds ++ more) signatures' next')
    (hscopes : scope.SameNames scope') :
    signatures.map (·.names) <+: signatures'.map (·.names) := by
  induction h generalizing scope' signatures' with
  | nil scope => exact List.nil_prefix
  | cons hfirst _ ih =>
    cases h' with
    | cons hfirst' hrest' =>
      obtain ⟨hnames, hmiddle⟩ := hfirst.sameNames hfirst' hscopes
      rw [List.map_cons, List.map_cons, hnames]
      exact (List.prefix_cons_inj _).mpr (ih hrest' hmiddle)

theorem Builds.declaredNames {bound : BoundOperation} {signature : Signature}
    (h : Builds synthesis bound scope signature next) :
    next.declarations.map (·.name) = scope.declarations.map (·.name) ++ signature.names.types := by
  cases h with
  | mk _ hbody hreturns =>
    simp only [Signature.names, hbody.declaredName, hreturns.declaredName, List.map_append]

theorem BuildsAll.declaredNames {bounds : List BoundOperation} {signatures : List Signature}
    (h : BuildsAll synthesis scope bounds signatures next) :
    next.declarations.map (·.name) =
      scope.declarations.map (·.name) ++ signatures.flatMap (·.names.types) := by
  induction h with
  | nil scope => simp
  | cons hfirst _ ih =>
    rw [ih, hfirst.declaredNames, List.flatMap_cons, List.append_assoc]

end

namespace Artifact

variable {run run' : Run} {group group' : TagGroup} {scope : String}
  {signatures signatures' : List Signature} {declarations declarations' : List Declaration}

theorem groupContent_declared (h : groupContent run group scope = .ok (signatures, declarations)) :
    signatures.map (·.bound) = group.operations ∧
      declarations.map (·.name) = signatures.flatMap (·.names.types) := by
  obtain ⟨final, hbuilds, rfl⟩ := groupContent_ok h
  exact ⟨hbuilds.bounds_eq, hbuilds.declaredNames⟩

theorem groupContent_prefix (hstrict : run.options.strictNames = run'.options.strictNames)
    (hoperations : group.operations <+: group'.operations)
    (h : groupContent run group scope = .ok (signatures, declarations))
    (h' : groupContent run' group' scope = .ok (signatures', declarations')) :
    signatures.map (·.names) <+: signatures'.map (·.names) ∧
      declarations.map (·.name) <+: declarations'.map (·.name) := by
  obtain ⟨more, hmore⟩ := hoperations
  obtain ⟨final, hbuilds, -⟩ := groupContent_ok h
  obtain ⟨final', hbuilds', -⟩ := groupContent_ok h'
  rw [← hmore, ← hstrict] at hbuilds'
  have hnames := hbuilds.names_prefix hbuilds' ⟨rfl, rfl⟩
  refine ⟨hnames, ?_⟩
  obtain ⟨added, hadded⟩ := hnames
  have htypes := congrArg (List.flatMap (·.types)) hadded
  rw [List.flatMap_append, List.flatMap_map, List.flatMap_map] at htypes
  rw [(groupContent_declared h).2, (groupContent_declared h').2]
  exact ⟨_, htypes⟩

end Artifact

end TypedClient
