import TypedClient.Artifact.Emit
import TypedClient.Proofs.Outcome

namespace TypedClient

namespace Template

theorem renderParts_cons {scope : Scope} {part : Part} {rest : List Part} {front back : String}
    (hpart : part.render scope = .ok front) (hrest : renderParts scope rest = .ok back) :
    renderParts scope (part :: rest) = .ok (front ++ back) := by
  rw [renderParts, hpart, hrest]
  rfl

theorem renderParts_text {scope : Scope} {rest : List Part} {back : String} (content : String)
    (hrest : renderParts scope rest = .ok back) :
    renderParts scope (.text content :: rest) = .ok (content ++ back) :=
  renderParts_cons rfl hrest

theorem renderParts_value {scope : Scope} {path : List String} {rest : List Part}
    {content back : String} (hvalue : find scope path = .ok (.text content))
    (hrest : renderParts scope rest = .ok back) :
    renderParts scope (.value path :: rest) = .ok (content ++ back) := by
  apply renderParts_cons _ hrest
  rw [Part.render, hvalue]
  rfl

theorem renderParts_end (scope : Scope) (content : String) :
    renderParts scope [.text content] = .ok content := by
  rw [renderParts_text content (renderParts.eq_1 scope), String.append_empty]

theorem render_each {α : Type} {scope : Scope} {name : String} {source : List String}
    {body : List Part} {values : List α} {value : α → Json} {text : α → String}
    (hsource : find scope source = .ok (.array (values.map value)))
    (hbody : ∀ v ∈ values, renderParts ((name, value v) :: scope) body = .ok (text v)) :
    Part.render scope (.each name source body) = .ok (String.join (values.map text)) := by
  have hitems : ∀ item ∈ values, ((fun item => renderParts ((name, item) :: scope) body) ∘ value)
      item = .ok (text item) := hbody
  rw [Part.render, hsource]
  simp only [bind, Except.bind, iterate, List.mapM_map, Outcome.mapM_ok hitems, pure, Except.pure]

end Template

namespace Artifact

open Template

def typesText (banner : String) (declarations : List String) : String :=
  banner ++ String.join (declarations.map ("\n\n" ++ ·)) ++
    (if declarations.isEmpty then "\n\nexport \x7b\x7d;" else "") ++ "\n"

theorem render_declarations (scope : Scope) (declarations : List String)
    (h : find scope ["declarations"] = .ok (texts declarations)) :
    Part.render scope (.each "decl" ["declarations"] [.text "\n\n", .value ["decl"]]) =
      .ok (String.join (declarations.map ("\n\n" ++ ·))) := by
  have hsource : find scope ["declarations"] = .ok (.array (declarations.map Json.text)) := h
  apply render_each hsource
  intro declaration _
  rw [renderParts_text _ (renderParts_value rfl rfl), String.append_empty]

theorem render_types (banner : String) (declarations : List String) :
    Template.types.render [("banner", .text banner), ("declarations", texts declarations)] =
      .ok (typesText banner declarations) := by
  let scope : Scope := [("banner", .text banner), ("declarations", texts declarations)]
  have hdeclarations := render_declarations scope declarations rfl
  have hempty : Part.render scope (.whenLength ["declarations"] 0 [.text "\n\nexport \x7b\x7d;"]) =
      .ok (if declarations.isEmpty then "\n\nexport \x7b\x7d;" else "") := by
    cases declarations <;> rfl
  unfold Template.render Template.types typesText
  simp only [String.append_assoc]
  apply renderParts_value rfl
  apply renderParts_cons hdeclarations
  apply renderParts_cons hempty
  exact renderParts_end scope "\n"

def contractText : String :=
  "\n\nexport type HttpMethod =" ++
    String.join (Method.all.map fun method => "\n  | \"" ++ method.token ++ "\"") ++
    Template.errorContract ++ requestType ++
    (" = <T>(\n  path: string,\n  method: HttpMethod,\n  data: unknown,\n" ++
      "  signal?: AbortSignal,\n) => Promise<T>;\n")

def requestText (banner : String) : String := banner ++ contractText

theorem render_request (banner : String) :
    Template.request.render [("banner", .text banner), ("request_type", .text requestType),
      ("methods", texts (Method.all.map (·.token)))] = .ok (requestText banner) := by
  let scope : Scope := [("banner", .text banner), ("request_type", .text requestType),
      ("methods", texts (Method.all.map (·.token)))]
  have hmethods : Part.render scope (.each "method" ["methods"]
      [.text "\n  | \"", .value ["method"], .text "\""]) =
        .ok (String.join (Method.all.map fun method => "\n  | \"" ++ method.token ++ "\"")) := by
    have hsource : find scope ["methods"] =
        .ok (.array (Method.all.map fun method => Json.text method.token)) := rfl
    apply render_each hsource
    intro method _
    rw [String.append_assoc]
    exact renderParts_text _ (renderParts_value rfl (renderParts_end _ _))
  unfold Template.render Template.request requestText contractText
  simp only [String.append_assoc]
  apply renderParts_value rfl
  apply renderParts_text
  apply renderParts_cons hmethods
  apply renderParts_text
  apply renderParts_value rfl
  exact renderParts_end scope _

def callableText (callable : Callable) : String :=
  String.join (callable.doc.map ("\n    " ++ ·)) ++
    "\n    " ++ callable.name ++ "(" ++ callable.params ++ "): Promise<" ++ callable.returns ++
    "> \x7b\n      return request<" ++ callable.returns ++ ">(\"" ++ callable.path ++ "\", \"" ++
    callable.method ++ "\", " ++ callable.data ++ ", signal);\n    \x7d,"

theorem render_callable (scope : Scope) (callable : Callable) :
    renderParts (("op", callable.toJson) :: scope) callableParts = .ok (callableText callable) := by
  have hdoc : Part.render (("op", callable.toJson) :: scope)
      (.each "line" ["op", "doc"] [.text "\n    ", .value ["line"]]) =
        .ok (String.join (callable.doc.map ("\n    " ++ ·))) := by
    have hsource : find (("op", callable.toJson) :: scope) ["op", "doc"] =
        .ok (.array (callable.doc.map Json.text)) := rfl
    apply render_each hsource
    intro line _
    rw [renderParts_text _ (renderParts_value rfl rfl), String.append_empty]
  unfold callableParts callableText
  simp only [String.append_assoc]
  apply renderParts_cons hdoc
  apply renderParts_text
  apply renderParts_value rfl
  apply renderParts_text
  apply renderParts_value rfl
  apply renderParts_text
  apply renderParts_value rfl
  apply renderParts_text
  apply renderParts_value rfl
  apply renderParts_text
  apply renderParts_value rfl
  apply renderParts_text
  apply renderParts_value rfl
  apply renderParts_text
  apply renderParts_value rfl
  exact renderParts_end _ _

def groupText (options : Options) (banner factory : String) (declarations : List String)
    (callables : List Callable) : String :=
  banner ++ "\n\nimport type \x7b " ++ requestType ++ " \x7d from \"./" ++ options.requestModule ++
    "\";\nimport type * as " ++ typesNamespace ++ " from \"./" ++ options.typesModule ++ "\";" ++
    String.join (declarations.map ("\n\n" ++ ·)) ++
    "\n\nexport function " ++ factory ++ "(request: " ++ requestType ++ ") \x7b\n  return \x7b" ++
    String.join (callables.map callableText) ++ "\n  \x7d;\n\x7d\n"

theorem render_group (options : Options) (banner factory : String) (declarations : List String)
    (callables : List Callable) :
    Template.group.render [("banner", .text banner), ("request_type", .text requestType),
      ("request_module", .text options.requestModule), ("types_namespace", .text typesNamespace),
      ("types_module", .text options.typesModule), ("factory", .text factory),
      ("declarations", texts declarations), ("operations", .array (callables.map Callable.toJson))] =
        .ok (groupText options banner factory declarations callables) := by
  let scope : Scope := [("banner", .text banner), ("request_type", .text requestType),
    ("request_module", .text options.requestModule), ("types_namespace", .text typesNamespace),
    ("types_module", .text options.typesModule), ("factory", .text factory),
    ("declarations", texts declarations), ("operations", .array (callables.map Callable.toJson))]
  have hdeclarations := render_declarations scope declarations rfl
  have hcallables : Part.render scope (.each "op" ["operations"] callableParts) =
      .ok (String.join (callables.map callableText)) :=
    render_each rfl fun callable _ => render_callable scope callable
  unfold Template.render Template.group groupText
  simp only [String.append_assoc]
  apply renderParts_value rfl
  apply renderParts_text
  apply renderParts_value rfl
  apply renderParts_text
  apply renderParts_value rfl
  apply renderParts_text
  apply renderParts_value rfl
  apply renderParts_text
  apply renderParts_value rfl
  apply renderParts_text
  apply renderParts_cons hdeclarations
  apply renderParts_text
  apply renderParts_value rfl
  apply renderParts_text
  apply renderParts_value rfl
  apply renderParts_text
  apply renderParts_cons hcallables
  exact renderParts_end scope _

theorem emitTypes_builtin (document : Document) (names : Naming.RegistryNames) (banner : String) :
    emitTypes document names .builtin banner =
      .ok (typesText banner ((componentDeclarations document names).map (·.text))) := by
  rw [emitTypes, render]
  exact congrArg (Except.mapError Failure.template) (render_types banner _)

theorem emitRequestContract_builtin (banner : String) :
    emitRequestContract .builtin banner = .ok (requestText banner) := by
  rw [emitRequestContract, render]
  exact congrArg (Except.mapError Failure.template) (render_request banner)

theorem emitGroup_builtin (run : Run) (hrun : run.templates = .builtin) (group : TagGroup)
    (scope : String) :
    emitGroup run group scope = ((groupContent run group scope).mapError .collision).map
      fun (signatures, declarations) =>
        groupText run.options run.banner (factoryName group.tag) (declarations.map (·.text))
          (signatures.map (·.callable)) := by
  unfold emitGroup
  cases groupContent run group scope with
  | error clash => rfl
  | ok content =>
    obtain ⟨signatures, declarations⟩ := content
    have hrender := render_group run.options run.banner (factoryName group.tag)
      (declarations.map (·.text)) (signatures.map (·.callable))
    rw [List.map_map] at hrender
    rw [hrun]
    exact congrArg (Except.mapError Failure.template) hrender

end Artifact

end TypedClient
