import TypedClient.Proofs.Artifact.Layout
import TypedClient.Proofs.Client.Declared
import TypedClient.Proofs.Script.CommentBlock
import TypedClient.Proofs.Script.TypeText

namespace TypedClient

open Naming (IsName)
open Script (Lexeme Reads IsPlain)
open Text (closes)
open TypeExpr (IsReadable)

theorem reads_name {name : String} (h : IsName name) : Reads name [] :=
  Script.reads_of_isPlain (TypeExpr.isPlain_of_isName h)

theorem Declaration.reads_text {declaration : Declaration} (hname : IsName declaration.name)
    (htype : IsReadable declaration.type) : Reads declaration.text declaration.type.lexemes := by
  obtain ⟨name, type⟩ := declaration
  have hbody : Reads name [] := reads_name hname
  unfold Declaration.text
  split
  next properties hobject =>
    dsimp only at hobject htype ⊢
    subst hobject
    cases htype with
    | object _ hproperties =>
      have hhead : Reads "export interface " [] := Script.reads_of_decide (by decide)
      have hopen : Reads " \x7b\n" [] := Script.reads_of_decide (by decide)
      have hindent : Reads "  " [] := Script.reads_of_decide (by decide)
      have hend : Reads ";\n" [] := Script.reads_of_decide (by decide)
      have hclose : Reads "\x7d" [] := Script.reads_of_decide (by decide)
      have hlines := Reads.join fun property (hproperty : property ∈ properties) =>
        (hindent.append ((TypeExpr.reads_propertyHead property.name property.optional).append
          (TypeExpr.reads_text (hproperties property hproperty)))).append hend
      have hall := (((hhead.append hbody).append hopen).append hlines).append hclose
      rw [TypeExpr.lexemes, TypeExpr.lexemesOfProperties_eq, TypeExpr.propertyTexts_eq_map,
        List.map_map]
      simp only [List.nil_append, List.append_nil] at hall
      exact hall
  next =>
    have hhead : Reads "export type " [] := Script.reads_of_decide (by decide)
    have hequals : Reads " = " [] := Script.reads_of_decide (by decide)
    have hend : Reads ";" [] := Script.reads_of_decide (by decide)
    have hall := (((hhead.append hbody).append hequals).append (TypeExpr.reads_text htype)).append
      hend
    simp only [List.nil_append, List.append_nil] at hall
    exact hall

def quote (text : String) : Lexeme := .stringLiteral ("\"" ++ text ++ "\"")

theorem reads_token (method : Method) :
    Reads ("\"" ++ method.token ++ "\"") [quote method.token] := by
  apply Script.reads_stringLiteral
  apply Script.staysInString_of_safe
  cases method <;> exact Script.safe_of_decide (by decide)

theorem reads_declarations {declarations : List Declaration}
    (hnames : ∀ declaration ∈ declarations, IsName declaration.name)
    (htypes : ∀ declaration ∈ declarations, IsReadable declaration.type) :
    Reads (String.join ((declarations.map (·.text)).map ("\n\n" ++ ·)))
      (declarations.flatMap (·.type.lexemes)) := by
  have hfeed : Reads "\n\n" [] := Script.reads_of_decide (by decide)
  rw [List.map_map]
  exact Reads.join fun declaration hmem =>
    hfeed.append (declaration.reads_text (hnames declaration hmem) (htypes declaration hmem))

namespace Artifact

theorem head_append {front : String} {c : Char} (h : front.toList.head? = some c) (rest : String) :
    (front ++ rest).toList.head? = some c := by
  rw [String.toList_append, List.head?_append, h]
  rfl

theorem reads_typesText (document : Document) {declarations : List Declaration}
    (hnames : ∀ declaration ∈ declarations, IsName declaration.name)
    (htypes : ∀ declaration ∈ declarations, IsReadable declaration.type) :
    Reads (typesText (banner document) (declarations.map (·.text)))
      (bannerLexemes document ++ declarations.flatMap (·.type.lexemes)) := by
  have hend : Reads "\n" [] := Script.reads_of_decide (by decide)
  unfold typesText
  rw [String.append_assoc, String.append_assoc]
  cases declarations with
  | nil =>
    have hexport : Reads "\n\nexport \x7b\x7d;" [] := Script.reads_of_decide (by decide)
    apply reads_banner document
    · exact Script.reads_empty.append (hexport.append hend)
    · decide
  | cons declaration declarations =>
    apply reads_banner document
    · have hall := (reads_declarations hnames htypes).append hend
      rw [List.append_nil] at hall
      rw [List.map_cons, List.isEmpty_cons, if_neg (by decide), String.empty_append]
      exact hall
    · apply head_append
      rw [List.map_cons, List.map_cons, String.join_cons, String.append_assoc]
      exact head_append (by decide) _

def contractLexemes : List Lexeme :=
  Method.all.map (fun method => quote method.token) ++ [
    .blockComment "/** Why a request did not produce a response value. */",
    quote "aborted", quote "api-failure", quote "transport-failure",
    .blockComment ("/**\n" ++
      " * Performs one HTTP call and resolves with the decoded success body.\n" ++
      " *\n" ++
      " * Implementations reject with a RequestError and stop the call when `signal` aborts.\n" ++
      " */")]

theorem reads_requestDoc : Reads ("/**\n" ++
      " * Performs one HTTP call and resolves with the decoded success body.\n" ++ " *\n" ++
      " * Implementations reject with a RequestError and stop the call when `signal` aborts.\n" ++
      " */") [.blockComment ("/**\n" ++
      " * Performs one HTTP call and resolves with the decoded success body.\n" ++ " *\n" ++
      " * Implementations reject with a RequestError and stop the call when `signal` aborts.\n" ++
      " */")] := by
  have hcloses : closes ("*\n" ++
      (" * Performs one HTTP call and resolves with the decoded success body.\n" ++ (" *\n" ++
      (" * Implementations reject with a RequestError and stop the call when `signal` aborts.\n" ++
      " ")))).toList = false := by
    rw [String.toList_append, String.toList_append, String.toList_append, String.toList_append,
      String.toList_ofList, String.toList_ofList, String.toList_ofList, String.toList_ofList,
      String.toList_ofList]
    decide
  have hopen : "/**\n" = "/*" ++ "*\n" := by decide
  have hclose : " */" = " " ++ "*/" := by decide
  have hall := Script.reads_blockComment hcloses
  rw [hopen, hclose]
  simp only [String.append_assoc] at hall ⊢
  exact hall

theorem reads_contractText : Reads contractText contractLexemes := by
  have hmethods : Reads (String.join (Method.all.map fun method => "\n  | \"" ++ method.token ++ "\""))
      (Method.all.flatMap fun method => [quote method.token]) := by
    apply Reads.join
    intro method _
    have hbar : Reads "\n  | " [] := Script.reads_of_decide (by decide)
    have hquote : "\n  | \"" = "\n  | " ++ "\"" := by decide
    have hall := hbar.append (reads_token method)
    rw [hquote]
    simp only [String.append_assoc] at hall ⊢
    exact hall
  have hhead : Reads "\n\nexport type HttpMethod =" [] := Script.reads_of_decide (by decide)
  have hreason : Reads ";\n\n/** Why a request did not produce a response value. */\n"
      [.blockComment "/** Why a request did not produce a response value. */"] :=
    Script.reads_of_run (by decide)
  have hunion : Reads "export type RequestError =\n" [] := Script.reads_of_decide (by decide)
  have habort : Reads "  | \x7b kind: \"aborted\" \x7d\n" [quote "aborted"] :=
    Script.reads_of_run (by decide)
  have hfailure : Reads "  | \x7b kind: \"api-failure\"; code: number; body?: unknown \x7d\n"
      [quote "api-failure"] := Script.reads_of_run (by decide)
  have htransport : Reads "  | \x7b kind: \"transport-failure\"; cause: unknown \x7d;\n\n"
      [quote "transport-failure"] := Script.reads_of_run (by decide)
  have hexport : Reads "\nexport type " [] := Script.reads_of_decide (by decide)
  have htype : Reads requestType [] := Script.reads_of_decide (by decide)
  have hparameters : Reads " = <T>(\n  path: string,\n  method: HttpMethod,\n  data: unknown,\n" [] :=
    Script.reads_of_decide (by decide)
  have hend : Reads "  signal?: AbortSignal,\n) => Promise<T>;\n" [] :=
    Script.reads_of_decide (by decide)
  have hall := ((((((((hhead.append hmethods).append hreason).append hunion).append habort).append
    hfailure).append htransport).append reads_requestDoc).append hexport).append
      (htype.append (hparameters.append hend))
  have hclose : " */\nexport type " = " */" ++ "\nexport type " := by decide
  unfold contractText Template.errorContract contractLexemes
  rw [hclose]
  simp only [String.append_assoc] at hall ⊢
  exact hall

theorem reads_requestText (document : Document) :
    Reads (requestText (banner document)) (bannerLexemes document ++ contractLexemes) := by
  apply reads_banner document reads_contractText
  unfold contractText
  exact head_append (head_append (head_append (head_append (by decide) _) _) _) _

end Artifact

theorem BodyParameter.reads_params {body : BodyParameter} (h : ∀ type ∈ body.types, IsReadable type) :
    Reads (", ".intercalate (body.params ++ ["signal?: AbortSignal"]))
      (body.types.flatMap TypeExpr.lexemes) := by
  have hsignal : Reads "signal?: AbortSignal" [] := Script.reads_of_decide (by decide)
  have hcomma : Reads ", " [] := Script.reads_of_decide (by decide)
  cases body with
  | none =>
    rw [BodyParameter.params, List.nil_append, String.intercalate_singleton]
    exact hsignal
  | untyped =>
    have hany : Reads "data?: any" [] := Script.reads_of_decide (by decide)
    rw [BodyParameter.params, List.singleton_append, String.intercalate_cons_cons,
      String.intercalate_singleton]
    exact (hany.append hcomma).append hsignal
  | typed type =>
    have hdata : Reads "data: " [] := Script.reads_of_decide (by decide)
    have htype := TypeExpr.reads_text (h type (by simp [BodyParameter.types]))
    rw [BodyParameter.params, List.singleton_append, String.intercalate_cons_cons,
      String.intercalate_singleton]
    have hall := ((hdata.append htype).append hcomma).append hsignal
    simp only [List.nil_append, List.append_nil] at hall
    rw [BodyParameter.types, List.flatMap_singleton]
    exact hall

def Signature.lexemes (signature : Signature) : List Lexeme :=
  docLexemes signature.bound.operation ++ signature.body.types.flatMap TypeExpr.lexemes ++
    signature.returns.lexemes ++ signature.returns.lexemes ++
    [.stringLiteral (Text.quoted signature.bound.path), quote signature.bound.method.token]

namespace Artifact

theorem reads_callableText {signature : Signature} (hname : IsName signature.name)
    (htypes : ∀ type ∈ signature.types, IsReadable type) :
    Reads (callableText signature.callable) signature.lexemes := by
  have hindent : Reads "\n    " [] := Script.reads_of_decide (by decide)
  have hopen : Reads "(" [] := Script.reads_of_decide (by decide)
  have hparams := BodyParameter.reads_params fun type htype =>
    htypes type (List.mem_append_left _ htype)
  have hpromise : Reads "): Promise<" [] := Script.reads_of_decide (by decide)
  have hreturns := TypeExpr.reads_text (htypes signature.returns (by simp [Signature.types]))
  have hreturn : Reads "> \x7b\n      return request<" [] := Script.reads_of_decide (by decide)
  have hcall : Reads ">(" [] := Script.reads_of_decide (by decide)
  have hcomma : Reads ", " [] := Script.reads_of_decide (by decide)
  have hdata : Reads (if signature.bound.method.carriesBody then "data" else "undefined") [] := by
    split <;> exact Script.reads_of_decide (by decide)
  have hend : Reads ", signal);\n    \x7d," [] := Script.reads_of_decide (by decide)
  have hsignature := ((((hindent.append (reads_name hname)).append hopen).append hparams).append
    hpromise).append hreturns
  have hrequest := ((((((hreturn.append hreturns).append hcall).append
    (Script.reads_quoted signature.bound.path)).append hcomma).append
      (reads_token signature.bound.method)).append (hcomma.append hdata)).append hend
  have hall := ((reads_doc signature.bound.operation).append hsignature).append hrequest
  have hquote : ">(\"" = ">(" ++ "\"" := by decide
  have hbetween : "\", \"" = "\"" ++ (", " ++ "\"") := by decide
  have hafter : "\", " = "\"" ++ ", " := by decide
  unfold callableText Signature.lexemes
  rw [hquote, hbetween, hafter]
  unfold Text.quoted at hall
  simp only [String.append_assoc, List.append_assoc, List.nil_append, List.append_nil,
    List.singleton_append] at hall ⊢
  exact hall

def importLexemes (options : Options) : List Lexeme :=
  [quote ("./" ++ options.requestModule), quote ("./" ++ options.typesModule)]

def IsSpecifier (stem : String) : Prop :=
  ∀ c ∈ stem.toList, c ≠ '"' ∧ c ≠ '\\' ∧ Script.isLineTerminator c = false

theorem reads_specifier {stem : String} (h : IsSpecifier stem) :
    Reads ("\"" ++ ("./" ++ stem) ++ "\"") [quote ("./" ++ stem)] := by
  apply Script.reads_stringLiteral
  apply Script.staysInString_of_safe
  intro c hc
  rw [String.toList_append, List.mem_append] at hc
  rcases hc with hc | hc
  · exact Script.safe_of_decide (by decide) c hc
  · exact h c hc

theorem reads_groupText (document : Document) {options : Options} {factory : String}
    {declarations : List Declaration} {signatures : List Signature}
    (hrequest : IsSpecifier options.requestModule) (htypes : IsSpecifier options.typesModule)
    (hfactory : IsName factory) (hdeclarations : Reads
      (String.join ((declarations.map (·.text)).map ("\n\n" ++ ·)))
      (declarations.flatMap (·.type.lexemes)))
    (hcallables : ∀ signature ∈ signatures,
      Reads (callableText signature.callable) signature.lexemes) :
    Reads (groupText options (banner document) factory (declarations.map (·.text))
        (signatures.map (·.callable)))
      (bannerLexemes document ++ (importLexemes options ++
        (declarations.flatMap (·.type.lexemes) ++ signatures.flatMap (·.lexemes)))) := by
  have hcontract : Reads requestType [] := Script.reads_of_decide (by decide)
  have hnamespace : Reads typesNamespace [] := Script.reads_of_decide (by decide)
  have himport : Reads "\n\nimport type \x7b " [] := Script.reads_of_decide (by decide)
  have hfrom : Reads " \x7d from " [] := Script.reads_of_decide (by decide)
  have hall' : Reads ";\nimport type * as " [] := Script.reads_of_decide (by decide)
  have hfrom' : Reads " from " [] := Script.reads_of_decide (by decide)
  have hsemicolon : Reads ";" [] := Script.reads_of_decide (by decide)
  have hfunction : Reads "\n\nexport function " [] := Script.reads_of_decide (by decide)
  have hparameter : Reads "(request: " [] := Script.reads_of_decide (by decide)
  have hopen : Reads ") \x7b\n  return \x7b" [] := Script.reads_of_decide (by decide)
  have hclose : Reads "\n  \x7d;\n\x7d\n" [] := Script.reads_of_decide (by decide)
  have himports := (((((himport.append hcontract).append hfrom).append
    (reads_specifier hrequest)).append (hall'.append hnamespace)).append
      (hfrom'.append (reads_specifier htypes))).append hsemicolon
  have hfactory := ((hfunction.append (reads_name hfactory)).append
    (hparameter.append hcontract)).append hopen
  have hcalls : Reads (String.join ((signatures.map (·.callable)).map callableText))
      (signatures.flatMap (·.lexemes)) := by
    rw [List.map_map]
    exact Reads.join hcallables
  have hbody := ((himports.append hdeclarations).append hfactory).append (hcalls.append hclose)
  have hquotedFrom : " \x7d from \"./" = " \x7d from " ++ ("\"" ++ "./") := by decide
  have hquotedAll : "\";\nimport type * as " = "\"" ++ ";\nimport type * as " := by decide
  have hquotedFrom' : " from \"./" = " from " ++ ("\"" ++ "./") := by decide
  have hquotedEnd : "\";" = "\"" ++ ";" := by decide
  unfold groupText
  rw [hquotedFrom, hquotedAll, hquotedFrom', hquotedEnd]
  unfold importLexemes
  simp only [String.append_assoc, List.nil_append, List.append_nil, List.cons_append] at hbody ⊢
  exact reads_banner document hbody (head_append (by decide) _)

end Artifact

end TypedClient
