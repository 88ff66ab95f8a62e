import TypedClient.Proofs.Text.CommentSafety
import TypedClient.Text.Literal

namespace TypedClient.Script

inductive Lexeme where
  | lineComment (text : String)
  | blockComment (text : String)
  | stringLiteral (text : String)
  deriving DecidableEq

/-- Where a reader stands. In a comment or string `seen` is what was read of it, last first. -/
inductive Mode where
  | code
  | slash
  | lineComment (seen : List Char)
  | blockComment (seen : List Char) (star : Bool)
  | stringLiteral (seen : List Char) (escaped : Bool)
  deriving DecidableEq

def isLineTerminator (c : Char) : Bool :=
  c == '\n' || c == '\r' || c == '\u2028' || c == '\u2029'

def written (seen : List Char) : String := String.ofList seen.reverse

/-- Reads one character, which may end a comment or string; a line that ends inside a string is an
error. -/
def Mode.step : Mode → Char → Option (Mode × List Lexeme)
  | .code, c =>
    if c = '/' then some (.slash, [])
    else if c = '"' then some (.stringLiteral [c] false, [])
    else some (.code, [])
  | .slash, c =>
    if c = '/' then some (.lineComment [c, '/'], [])
    else if c = '*' then some (.blockComment [c, '/'] false, [])
    else if c = '"' then some (.stringLiteral [c] false, [])
    else some (.code, [])
  | .lineComment seen, c =>
    if isLineTerminator c then some (.code, [.lineComment (written seen)])
    else some (.lineComment (c :: seen), [])
  | .blockComment seen star, c =>
    if star ∧ c = '/' then some (.code, [.blockComment (written (c :: seen))])
    else some (.blockComment (c :: seen) (c == '*'), [])
  | .stringLiteral seen escaped, c =>
    if isLineTerminator c then none
    else if escaped then some (.stringLiteral (c :: seen) false, [])
    else if c = '"' then some (.code, [.stringLiteral (written (c :: seen))])
    else some (.stringLiteral (c :: seen) (c == '\\'), [])

def run : Mode → List Char → Option (Mode × List Lexeme)
  | mode, [] => some (mode, [])
  | mode, c :: rest => do
    let (next, found) ← mode.step c
    let (final, more) ← run next rest
    return (final, found ++ more)

def lexemes? (text : String) : Option (List Lexeme) :=
  match run .code text.toList with
  | some (.code, found) => some found
  | some (.slash, found) => some found
  | _ => none

theorem run_append (mode : Mode) (front rest : List Char) :
    run mode (front ++ rest) = do
      let (middle, found) ← run mode front
      let (final, more) ← run middle rest
      return (final, found ++ more) := by
  induction front generalizing mode with
  | nil => cases hrun : run mode rest <;> simp [run, hrun]
  | cons c front ih =>
    simp only [List.cons_append, run, ih, Option.bind_eq_bind, Option.bind_assoc]
    cases mode.step c with
    | none => rfl
    | some result =>
      obtain ⟨next, found⟩ := result
      simp only [Option.bind_some]
      cases run next front with
      | none => rfl
      | some result =>
        obtain ⟨middle, more⟩ := result
        simp only [Option.bind_some, Option.pure_def]
        cases run middle rest with
        | none => rfl
        | some result => simp

theorem run_trans {first middle last : Mode} {front rest : List Char} {found more : List Lexeme}
    (hfront : run first front = some (middle, found)) (hrest : run middle rest = some (last, more)) :
    run first (front ++ rest) = some (last, found ++ more) := by
  simp [run_append, hfront, hrest]

/-- Read in code, the text holds these lexemes and ends in code again. -/
def Reads (text : String) (found : List Lexeme) : Prop :=
  run .code text.toList = some (.code, found)

theorem Reads.lexemes?_eq {text : String} {found : List Lexeme} (h : Reads text found) :
    lexemes? text = some found := by
  rw [lexemes?, h]

theorem reads_empty : Reads "" [] := rfl

theorem Reads.append {front rest : String} {found more : List Lexeme} (hfront : Reads front found)
    (hrest : Reads rest more) : Reads (front ++ rest) (found ++ more) := by
  rw [Reads, String.toList_append]
  exact run_trans hfront hrest

theorem Reads.join {α : Type} {text : α → String} {found : α → List Lexeme} {items : List α}
    (h : ∀ item ∈ items, Reads (text item) (found item)) :
    Reads (String.join (items.map text)) (items.flatMap found) := by
  induction items with
  | nil => simpa using reads_empty
  | cons item items ih =>
    rw [List.map_cons, String.join_cons, List.flatMap_cons]
    exact (h item (by simp)).append (ih fun item hitem => h item (by simp [hitem]))

theorem Reads.intercalate {α : Type} {separator : String} {found : α → List Lexeme}
    {items : List α} (hseparator : Reads separator []) (text : α → String)
    (h : ∀ item ∈ items, Reads (text item) (found item)) :
    Reads (separator.intercalate (items.map text)) (items.flatMap found) := by
  induction items with
  | nil => simpa using reads_empty
  | cons item items ih =>
    have hitem := h item (by simp)
    cases items with
    | nil => simpa using hitem
    | cons next items =>
      have hrest := ih fun item hmem => h item (List.mem_cons_of_mem _ hmem)
      rw [List.map_cons, List.map_cons, String.intercalate_cons_cons, List.flatMap_cons]
      have hall := (hitem.append hseparator).append hrest
      rw [List.append_nil] at hall
      exact hall

def IsPlain (text : List Char) : Prop := ∀ c ∈ text, c ≠ '/' ∧ c ≠ '"'

theorem run_code_of_isPlain {text : List Char} (h : IsPlain text) :
    run .code text = some (.code, []) := by
  induction text with
  | nil => rfl
  | cons c text ih =>
    obtain ⟨hslash, hquote⟩ := h c (by simp)
    have hrest := ih fun c hc => h c (by simp [hc])
    simp [run, Mode.step, hslash, hquote, hrest]

theorem reads_of_isPlain {text : String} (h : IsPlain text.toList) : Reads text [] :=
  run_code_of_isPlain h

theorem reads_of_run {text : List Char} {found : List Lexeme}
    (h : run .code text = some (.code, found)) : Reads (String.ofList text) found := by
  rw [Reads, String.toList_ofList]
  exact h

theorem isPlain_of_decide {text : List Char}
    (h : (text.all fun c => c != '/' && c != '"') = true) : IsPlain text := by
  intro c hc
  have := List.all_eq_true.mp h c hc
  simpa using this

theorem reads_of_decide {text : List Char}
    (h : (text.all fun c => c != '/' && c != '"') = true) : Reads (String.ofList text) [] :=
  reads_of_run (run_code_of_isPlain (isPlain_of_decide h))

def StaysInString (body : List Char) : Prop :=
  ∀ seen, run (.stringLiteral seen false) body = some (.stringLiteral (body.reverse ++ seen) false, [])

theorem StaysInString.append {front rest : List Char} (hfront : StaysInString front)
    (hrest : StaysInString rest) : StaysInString (front ++ rest) := by
  intro seen
  have := run_trans (hfront seen) (hrest (front.reverse ++ seen))
  simpa using this

theorem safe_of_decide {body : List Char}
    (h : (body.all fun c => c != '"' && c != '\\' && !isLineTerminator c) = true) :
    ∀ c ∈ body, c ≠ '"' ∧ c ≠ '\\' ∧ isLineTerminator c = false := by
  intro c hc
  have := List.all_eq_true.mp h c hc
  simpa [and_assoc] using this

theorem staysInString_of_safe {body : List Char}
    (h : ∀ c ∈ body, c ≠ '"' ∧ c ≠ '\\' ∧ isLineTerminator c = false) : StaysInString body := by
  intro seen
  induction body generalizing seen with
  | nil => rfl
  | cons c body ih =>
    obtain ⟨hquote, hescape, hline⟩ := h c (by simp)
    have hrest := ih (fun c hc => h c (by simp [hc])) (c :: seen)
    have hc : (c == '\\') = false := by simpa using hescape
    simp [run, Mode.step, hquote, hline, hc, hrest]

theorem staysInString_escapeChar (c : Char) : StaysInString (Text.escapeChar c) := by
  have hescape := Text.isEscape_escapeChar c
  generalize Text.escapeChar c = body at hescape
  cases hescape with
  | plain hescape hquote hfeed hreturn hline hparagraph =>
    apply staysInString_of_safe
    simp [hescape, hquote, hfeed, hreturn, hline, hparagraph, isLineTerminator]
  | _ => exact fun _ => rfl

theorem staysInString_escapeChars (text : List Char) : StaysInString (Text.escapeChars text) := by
  induction text with
  | nil => exact fun _ => rfl
  | cons c text ih =>
    rw [Text.escapeChars, List.flatMap_cons]
    exact (staysInString_escapeChar c).append ih

theorem reads_stringLiteral {body : String} (h : StaysInString body.toList) :
    Reads ("\"" ++ body ++ "\"") [.stringLiteral ("\"" ++ body ++ "\"")] := by
  have hopen : run .code ['"'] = some (.stringLiteral ['"'] false, []) := rfl
  have hclose : run (.stringLiteral (body.toList.reverse ++ ['"']) false) ['"'] =
      some (.code, [.stringLiteral (written ('"' :: (body.toList.reverse ++ ['"'])))]) := rfl
  have hwritten : written ('"' :: (body.toList.reverse ++ ['"'])) = "\"" ++ body ++ "\"" := by
    rw [written, ← String.toList_inj]
    simp
  have hall := run_trans (run_trans hopen (h ['"'])) hclose
  rw [hwritten] at hall
  rw [Reads, String.toList_append, String.toList_append]
  exact hall

theorem reads_quoted (text : String) :
    Reads (Text.quoted text) [.stringLiteral (Text.quoted text)] := by
  apply reads_stringLiteral
  rw [Text.escapeLiteral, String.toList_ofList]
  exact staysInString_escapeChars text.toList

theorem run_blockComment {inner : List Char} (h : Text.closes inner = false) (seen : List Char)
    (star : Bool) (hhead : star = true → inner.head? ≠ some '/') :
    ∃ star', run (.blockComment seen star) inner =
      some (.blockComment (inner.reverse ++ seen) star', []) := by
  induction inner generalizing seen star with
  | nil => exact ⟨star, rfl⟩
  | cons c inner ih =>
    have hstep : ¬(star = true ∧ c = '/') := fun ⟨hstar, hc⟩ => hhead hstar (by simp [hc])
    have hrest : Text.closes inner = false ∧ ((c == '*') = true → inner.head? ≠ some '/') := by
      by_cases hc : c = '*'
      · subst hc
        have hne : inner.head? ≠ some '/' := by
          intro he
          cases inner with
          | nil => cases he
          | cons d inner =>
            obtain rfl : d = '/' := by simpa using he
            cases h
        exact ⟨by rwa [Text.closes_star hne] at h, fun _ => hne⟩
      · exact ⟨by rwa [Text.closes_cons hc] at h, fun he => absurd (by simpa using he) hc⟩
    obtain ⟨star', hrun⟩ := ih hrest.1 (c :: seen) (c == '*') hrest.2
    refine ⟨star', ?_⟩
    simp [run, Mode.step, hstep, hrun]

theorem reads_blockComment {inner : String} (h : Text.closes inner.toList = false) :
    Reads ("/*" ++ inner ++ "*/") [.blockComment ("/*" ++ inner ++ "*/")] := by
  have hopen : run .code ['/', '*'] = some (.blockComment ['*', '/'] false, []) := rfl
  obtain ⟨star, hinner⟩ := run_blockComment h ['*', '/'] false (by simp)
  have hclose : run (.blockComment (inner.toList.reverse ++ ['*', '/']) star) ['*', '/'] =
      some (.code, [.blockComment (written ('/' :: '*' :: (inner.toList.reverse ++ ['*', '/'])))]) := by
    simp [run, Mode.step]
  have hwritten : written ('/' :: '*' :: (inner.toList.reverse ++ ['*', '/'])) =
      "/*" ++ inner ++ "*/" := by
    rw [written, ← String.toList_inj]
    simp
  have hall := run_trans (run_trans hopen hinner) hclose
  rw [hwritten] at hall
  rw [Reads, String.toList_append, String.toList_append]
  exact hall

theorem run_lineComment {inner : List Char} (h : ∀ c ∈ inner, isLineTerminator c = false)
    (seen : List Char) :
    run (.lineComment seen) inner = some (.lineComment (inner.reverse ++ seen), []) := by
  induction inner generalizing seen with
  | nil => rfl
  | cons c inner ih =>
    have hrest := ih (fun c hc => h c (by simp [hc])) (c :: seen)
    simp [run, Mode.step, h c (by simp), hrest]

theorem reads_lineComment {inner : String} (h : ∀ c ∈ inner.toList, isLineTerminator c = false) :
    Reads ("//" ++ inner ++ "\n") [.lineComment ("//" ++ inner)] := by
  have hopen : run .code ['/', '/'] = some (.lineComment ['/', '/'], []) := rfl
  have hinner := run_lineComment h ['/', '/']
  have hclose : run (.lineComment (inner.toList.reverse ++ ['/', '/'])) ['\n'] =
      some (.code, [.lineComment (written (inner.toList.reverse ++ ['/', '/']))]) := rfl
  have hwritten : written (inner.toList.reverse ++ ['/', '/']) = "//" ++ inner := by
    rw [written, ← String.toList_inj]
    simp
  have hall := run_trans (run_trans hopen hinner) hclose
  rw [hwritten] at hall
  rw [Reads, String.toList_append, String.toList_append]
  exact hall

end TypedClient.Script
