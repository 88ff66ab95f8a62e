import TypedClient.TypeExpr.Synthesis

namespace TypedClient

def requestType : String := "RequestFn"

structure Callable where
  name : String
  params : String
  returns : String
  path : String
  method : String
  data : String
  doc : List String

inductive BodyParameter where
  | none
  | untyped
  | typed (type : TypeExpr)

def BodyParameter.params : BodyParameter → List String
  | .none => []
  | .untyped => ["data?: any"]
  | .typed type => ["data: " ++ type.text]

structure Signature where
  bound : BoundOperation
  name : String
  body : BodyParameter
  returns : TypeExpr

def docLines (summary description : Option String) (deprecated : Bool) : List String :=
  let texts := distinct
    (([summary, description].filterMap (·.map Text.comment)).filter (!·.isEmpty))
  let body := texts.intersperse "" ++ if deprecated then ["@deprecated"] else []
  if body.isEmpty then []
  else
    "/**" :: body.map (fun line => if line.isEmpty then " *" else " * " ++ line) ++ [" */"]

def Signature.callable (signature : Signature) : Callable :=
  let bound := signature.bound
  let operation := bound.operation
  { name := signature.name
    params := ", ".intercalate (signature.body.params ++ ["signal?: AbortSignal"])
    returns := signature.returns.text
    path := Text.escapeLiteral bound.path
    method := bound.method.token
    data := if bound.method.carriesBody then "data" else "undefined"
    doc := docLines operation.summary operation.description operation.deprecated }

structure ArtifactScope where
  methodNames : Naming.Allocator
  typeNames : Naming.Allocator
  declarations : List Declaration

namespace ArtifactScope

def empty (scope : String) (strict : Bool) : ArtifactScope where
  methodNames := .empty scope strict
  typeNames := ((Naming.Allocator.empty scope strict).reserve requestType).reserve typesNamespace
  declarations := []

end ArtifactScope

/-- Steps that build an artifact. Names taken before a collision stay taken. -/
abbrev ArtifactM := ExceptT Naming.NameCollision (StateM ArtifactScope)

namespace ArtifactM

def methodName (base : String) : ArtifactM String := do
  let (name, methodNames) ← (← get).methodNames.allocate base
  modify ({ · with methodNames })
  return name

def declare (base : String) (type : TypeExpr) : ArtifactM String := do
  let (name, typeNames) ← (← get).typeNames.allocate base
  modify fun scope => { scope with typeNames, declarations := scope.declarations ++ [⟨name, type⟩] }
  return name

def typeFor (synthesis : Synthesis) (base : String) (schema : Schema) : ArtifactM TypeExpr := do
  let type := synthesis.typeOf schema
  if schema.isReference then return type
  else return .named (← declare base type)

def bodyParameter (synthesis : Synthesis) (base : String) (bound : BoundOperation) :
    ArtifactM BodyParameter := do
  if bound.method.carriesBody then
    match bound.operation.requestSchema? with
    | some schema => return .typed (← typeFor synthesis (base ++ "Request") schema)
    | none => return .untyped
  else return .none

def returnType (synthesis : Synthesis) (base : String) (operation : Operation) :
    ArtifactM TypeExpr := do
  match operation.successSchema? with
  | some schema => typeFor synthesis (base ++ "Response") schema
  | none => return .keyword .void

def signature (synthesis : Synthesis) (bound : BoundOperation) : ArtifactM Signature := do
  let name ← methodName bound.operation.name
  let base := Naming.typeName name
  let body ← bodyParameter synthesis base bound
  let returns ← returnType synthesis base bound.operation
  return { bound, name, body, returns }

def callable (synthesis : Synthesis) (bound : BoundOperation) : ArtifactM Callable := do
  return (← signature synthesis bound).callable

end ArtifactM

end TypedClient
