import TypedClient.Proofs.Client.Strictness
import TypedClient.Proofs.Script.Literal

namespace TypedClient

structure CallableEntry where
  callable : Callable
  requested : List Declaration
  responded : List Declaration

def CallableEntry.declarations (entry : CallableEntry) : List Declaration :=
  entry.requested ++ entry.responded

/-- How a schema is written: a reference by what it leads to, and any other schema by the name of
one declaration that holds its type. -/
inductive WrittenAs (synthesis : Synthesis) (schema : Schema) : String → List Declaration → Prop
  | reference : schema.isReference = true →
      WrittenAs synthesis schema (synthesis.typeOf schema).text []
  | declared (name : String) : schema.isReference = false →
      WrittenAs synthesis schema name [⟨name, synthesis.typeOf schema⟩]

def BoundOperation.declaredSchemas (bound : BoundOperation) : List Schema :=
  (bound.requestSchema?.toList ++ bound.operation.successSchema?.toList).filter (!·.isReference)

structure CallableEntry.Matches (synthesis : Synthesis) (bound : BoundOperation)
    (entry : CallableEntry) : Prop where
  path : Script.literalValue? entry.callable.path.toList = some bound.path.toList
  method : entry.callable.method = bound.method.token
  data : entry.callable.data = "data" ↔ bound.method ≠ .get ∧ bound.method ≠ .delete
  parameter : "data".toList <+: entry.callable.params.toList ↔
    bound.method ≠ .get ∧ bound.method ≠ .delete
  untyped : "data?: any".toList <+: entry.callable.params.toList ↔
    (bound.method ≠ .get ∧ bound.method ≠ .delete) ∧ bound.operation.requestSchema? = none
  request : match bound.requestSchema? with
    | some schema => ∃ type, WrittenAs synthesis schema type entry.requested ∧
        entry.callable.params = "data: " ++ type ++ ", signal?: AbortSignal"
    | none => entry.requested = []
  response : match bound.operation.successSchema? with
    | some schema => WrittenAs synthesis schema entry.callable.returns entry.responded
    | none => entry.responded = [] ∧ entry.callable.returns = "void"

theorem Method.carriesBody_iff (method : Method) :
    method.carriesBody = true ↔ method ≠ .get ∧ method ≠ .delete := by
  cases method <;> decide

section

variable {synthesis : Synthesis} {base : String} {names next : Naming.Allocator} {type : TypeExpr}
  {declarations : List Declaration} {bound : BoundOperation}

theorem Settles.writtenAs {schema : Schema}
    (h : Settles synthesis base schema names type next declarations) :
    WrittenAs synthesis schema type.text declarations := by
  cases h with
  | reference hreference => exact .reference hreference
  | declared hreference _ => exact .declared _ hreference

theorem WrittenAs.types {schema : Schema} {text : String}
    (h : WrittenAs synthesis schema text declarations) :
    declarations.map (·.type) = ([schema].filter (!·.isReference)).map synthesis.typeOf := by
  cases h with
  | reference hreference => simp [hreference]
  | declared name hreference => simp [hreference]

def BodyParameter.list (body : BodyParameter) : String :=
  ", ".intercalate (body.params ++ ["signal?: AbortSignal"])

theorem BodyParameter.list_typed (type : TypeExpr) :
    (BodyParameter.typed type).list = "data: " ++ type.text ++ ", signal?: AbortSignal" := by
  simp [list, params, String.append_assoc]

theorem SettlesBody.parameter {body : BodyParameter}
    (h : SettlesBody synthesis base bound names body next declarations) :
    ("data".toList <+: body.list.toList ↔ bound.method.carriesBody = true) ∧
      ("data?: any".toList <+: body.list.toList ↔
        bound.method.carriesBody = true ∧ bound.operation.requestSchema? = .none) := by
  cases h with
  | none hcarries =>
    have hdata : ¬"data".toList <+: BodyParameter.none.list.toList := by decide
    have huntyped : ¬"data?: any".toList <+: BodyParameter.none.list.toList := by decide
    simp only [hdata, huntyped, hcarries, Bool.false_eq_true, false_and, and_self]
  | untyped hcarries hschema =>
    have hdata : "data".toList <+: BodyParameter.untyped.list.toList := by decide
    have huntyped : "data?: any".toList <+: BodyParameter.untyped.list.toList := by decide
    simp only [hdata, huntyped, hcarries, hschema, and_self]
  | @typed _ schema type _ hcarries hschema _ =>
    have hlist : (BodyParameter.typed type).list.toList =
        'd' :: 'a' :: 't' :: 'a' :: ':' :: ' ' :: (type.text ++ ", signal?: AbortSignal").toList := by
      rw [BodyParameter.list_typed, String.append_assoc, String.toList_append]
      rfl
    have hdata : "data".toList <+: (BodyParameter.typed type).list.toList := by
      rw [hlist]
      exact ⟨_, rfl⟩
    have huntyped : ¬"data?: any".toList <+: (BodyParameter.typed type).list.toList := by
      rw [hlist]
      rintro ⟨rest, hrest⟩
      have hfifth := congrArg (·[4]?) hrest
      exact absurd (Option.some.inj hfifth) (by decide)
    simp only [hdata, huntyped, hcarries, hschema, reduceCtorEq, and_false, and_self]

theorem SettlesBody.request {body : BodyParameter}
    (h : SettlesBody synthesis base bound names body next declarations) :
    match bound.requestSchema? with
    | some schema => ∃ type, WrittenAs synthesis schema type declarations ∧
        body.list = "data: " ++ type ++ ", signal?: AbortSignal"
    | .none => declarations = [] := by
  unfold BoundOperation.requestSchema?
  cases h with
  | none hcarries => simp [hcarries]
  | untyped hcarries hschema => simp [hcarries, hschema]
  | typed hcarries hschema hsettles =>
    rw [if_pos hcarries, hschema]
    exact ⟨_, hsettles.writtenAs, BodyParameter.list_typed _⟩

theorem SettlesReturn.response {operation : Operation}
    (h : SettlesReturn synthesis base operation names type next declarations) :
    match operation.successSchema? with
    | some schema => WrittenAs synthesis schema type.text declarations
    | none => declarations = [] ∧ type.text = "void" := by
  cases h with
  | void hschema =>
    rw [hschema]
    exact ⟨rfl, rfl⟩
  | typed hschema hsettles =>
    rw [hschema]
    exact hsettles.writtenAs

end

section

variable {synthesis : Synthesis} {scope next : ArtifactScope} {bound : BoundOperation}

theorem Builds.matches {signature : Signature} (h : Builds synthesis bound scope signature next) :
    ∃ entry : CallableEntry, entry.Matches synthesis bound ∧ entry.callable = signature.callable ∧
      next.declarations = scope.declarations ++ entry.declarations := by
  cases h with
  | @mk _ _ _ _ _ _ requested responded name body returns _ hbody hreturns =>
    let signature : Signature := ⟨bound, name, body, returns⟩
    obtain ⟨hparameter, huntyped⟩ := hbody.parameter
    rw [Method.carriesBody_iff] at hparameter huntyped
    refine ⟨⟨signature.callable, requested, responded⟩, ?_, rfl, rfl⟩
    constructor
    · exact Script.literalValue?_escapeLiteral bound.path
    · rfl
    · rw [← Method.carriesBody_iff]
      show (if bound.method.carriesBody then "data" else "undefined") = "data" ↔ _
      cases bound.method.carriesBody <;> decide
    · exact hparameter
    · exact huntyped
    · exact hbody.request
    · exact hreturns.response

theorem BuildsAll.matches {bounds : List BoundOperation} {signatures : List Signature}
    (h : BuildsAll synthesis scope bounds signatures next) :
    ∃ entries : List CallableEntry,
      List.Forall₂ (fun bound entry => entry.Matches synthesis bound) bounds entries ∧
      entries.map (·.callable) = signatures.map (·.callable) ∧
      next.declarations = scope.declarations ++ entries.flatMap (·.declarations) := by
  induction h with
  | nil scope => exact ⟨[], .nil, rfl, by simp⟩
  | cons hfirst _ ih =>
    obtain ⟨entry, hentry, hcallable, hown⟩ := hfirst.matches
    obtain ⟨entries, hentries, hcallables, hrest⟩ := ih
    refine ⟨entry :: entries, .cons hentry hentries, by simp [hcallable, hcallables], ?_⟩
    rw [hrest, hown, List.flatMap_cons, List.append_assoc]

theorem CallableEntry.Matches.types {entry : CallableEntry} (h : entry.Matches synthesis bound) :
    entry.declarations.map (·.type) = bound.declaredSchemas.map synthesis.typeOf := by
  have hrequest : entry.requested.map (·.type) =
      (bound.requestSchema?.toList.filter (!·.isReference)).map synthesis.typeOf := by
    have hwritten := h.request
    cases hschema : bound.requestSchema? with
    | none =>
      rw [hschema] at hwritten
      simp [hwritten]
    | some schema =>
      rw [hschema] at hwritten
      obtain ⟨type, hwritten, -⟩ := hwritten
      exact hwritten.types
  have hresponse : entry.responded.map (·.type) =
      (bound.operation.successSchema?.toList.filter (!·.isReference)).map synthesis.typeOf := by
    have hwritten := h.response
    cases hschema : bound.operation.successSchema? with
    | none =>
      rw [hschema] at hwritten
      simp [hwritten.1]
    | some schema =>
      rw [hschema] at hwritten
      exact hwritten.types
  rw [declarations, BoundOperation.declaredSchemas, List.filter_append, List.map_append,
    List.map_append, hrequest, hresponse]

end

namespace Artifact

end Artifact

end TypedClient
