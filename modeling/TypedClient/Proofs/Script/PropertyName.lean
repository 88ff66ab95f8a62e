import TypedClient.Proofs.Script.Literal
import TypedClient.Proofs.Text.WordCharacters
import TypedClient.TypeExpr.Basic

/-!
String literals and property keys as a reader of scripts takes them. What can be read as the inside
of a literal stays inside it up to the quote that closes it, so a key is found again at the start of
a property, and with it the name.
-/

namespace TypedClient.Script

open Text (continuesIdentifier escapeLiteral isAsciiAlphanumeric isIdentifier isIdentifierChars
  propertyKey quoted startsIdentifier)

def inEscape (text : List Char) : Bool :=
  text.foldl (fun escaped c => !escaped && c == '\\') false

structure IsLiteralBody (body : List Char) : Prop where
  quotes : ∀ front rest, body = front ++ '"' :: rest → inEscape front = true
  lines : ∀ c ∈ body, isLineTerminator c = false
  complete : inEscape body = false

theorem inEscape_escape (c : Char) (text : List Char) :
    inEscape ('\\' :: c :: text) = inEscape text := by
  simp [inEscape]

theorem inEscape_cons {c : Char} (h : c ≠ '\\') (text : List Char) :
    inEscape (c :: text) = inEscape text := by
  have hc : (c == '\\') = false := by simpa using h
  simp [inEscape, hc]

theorem isLiteralBody_nil : IsLiteralBody [] where
  quotes := by simp
  lines := by simp
  complete := rfl

theorem IsLiteralBody.escape {c : Char} {body : List Char} (h : IsLiteralBody body)
    (hline : isLineTerminator c = false) : IsLiteralBody ('\\' :: c :: body) where
  quotes front rest hsplit := by
    match front with
    | [] => cases hsplit
    | [d] =>
      obtain ⟨rfl, -⟩ := List.cons.inj hsplit
      rfl
    | d :: e :: front =>
      obtain ⟨hd, htail⟩ := List.cons.inj hsplit
      obtain ⟨-, hrest⟩ := List.cons.inj htail
      rw [← hd, inEscape_escape]
      exact h.quotes front rest hrest
  lines d hd := by
    rcases List.mem_cons.mp hd with rfl | hd
    · decide
    rcases List.mem_cons.mp hd with rfl | hd
    · exact hline
    · exact h.lines d hd
  complete := by
    rw [inEscape_escape]
    exact h.complete

theorem IsLiteralBody.cons {c : Char} {body : List Char} (h : IsLiteralBody body)
    (hescape : c ≠ '\\') (hquote : c ≠ '"') (hline : isLineTerminator c = false) :
    IsLiteralBody (c :: body) where
  quotes front rest hsplit := by
    cases front with
    | nil => exact absurd (List.cons.inj hsplit).1 hquote
    | cons d front =>
      obtain ⟨hd, htail⟩ := List.cons.inj hsplit
      rw [← hd, inEscape_cons hescape]
      exact h.quotes front rest htail
  lines d hd := by
    rcases List.mem_cons.mp hd with rfl | hd
    · exact hline
    · exact h.lines d hd
  complete := by
    rw [inEscape_cons hescape]
    exact h.complete

def isHexDigit (c : Char) : Bool := (Decimal.digitValue? 16 c).isSome

theorem IsLiteralBody.hexDigit {c : Char} {body : List Char} (h : IsLiteralBody body)
    (hc : isHexDigit c = true) : IsLiteralBody (c :: body) := by
  have hothers : (['\\', '"', '\n', '\r', '\u2028', '\u2029'].all fun c => !isHexDigit c) = true := by
    decide
  have hne : ∀ d ∈ ['\\', '"', '\n', '\r', '\u2028', '\u2029'], c ≠ d := by
    rintro d hd rfl
    have hd := List.all_eq_true.mp hothers c hd
    rw [hc] at hd
    cases hd
  apply h.cons (hne _ (by simp)) (hne _ (by simp))
  simp [isLineTerminator, hne]

theorem isHexDigit_of_codeUnit? {a b c d unit : Char} (h : codeUnit? [a, b, c, d] = some unit) :
    isHexDigit a = true ∧ isHexDigit b = true ∧ isHexDigit c = true ∧ isHexDigit d = true := by
  obtain ⟨n, hn, -⟩ := Option.map_eq_some_iff.mp h
  have hn := (Option.filter_eq_some_iff.mp hn).1
  unfold isHexDigit
  cases ha : Decimal.digitValue? 16 a <;> cases hb : Decimal.digitValue? 16 b <;>
    cases hc : Decimal.digitValue? 16 c <;> cases hd : Decimal.digitValue? 16 d <;>
    simp [Decimal.ofDigits?, ha, hb, hc, hd] at hn ⊢

theorem isLiteralBody_of_literalValue? {body value : List Char}
    (h : literalValue? body = some value) : IsLiteralBody body := by
  fun_induction literalValue? body generalizing value with
  | case1 => exact isLiteralBody_nil
  | case2 rest ih =>
    obtain ⟨more, hmore, -⟩ := Option.map_eq_some_iff.mp h
    exact (ih hmore).escape (by decide)
  | case3 rest ih =>
    obtain ⟨more, hmore, -⟩ := Option.map_eq_some_iff.mp h
    exact (ih hmore).escape (by decide)
  | case4 rest ih =>
    obtain ⟨more, hmore, -⟩ := Option.map_eq_some_iff.mp h
    exact (ih hmore).escape (by decide)
  | case5 rest ih =>
    obtain ⟨more, hmore, -⟩ := Option.map_eq_some_iff.mp h
    exact (ih hmore).escape (by decide)
  | case6 a b c d rest ih =>
    obtain ⟨unit, hunit, hrest⟩ := Option.bind_eq_some_iff.mp h
    obtain ⟨more, hmore, -⟩ := Option.map_eq_some_iff.mp hrest
    obtain ⟨ha, hb, hc, hd⟩ := isHexDigit_of_codeUnit? hunit
    exact (((((ih hmore).hexDigit hd).hexDigit hc).hexDigit hb).hexDigit ha).escape (by decide)
  | case7 => cases h
  | case8 c rest _ _ _ _ _ hc ih =>
    obtain ⟨more, hmore, -⟩ := Option.map_eq_some_iff.mp h
    simp only [Bool.or_eq_true, beq_iff_eq, not_or, Bool.not_eq_true] at hc
    exact (ih hmore).cons hc.1.1 hc.1.2 hc.2

def closeLiteral? : List Char → Option (List Char × List Char)
  | [] => none
  | '"' :: rest => some ([], rest)
  | '\\' :: c :: rest => (closeLiteral? rest).map fun read => ('\\' :: c :: read.1, read.2)
  | c :: rest =>
    if isLineTerminator c then none
    else (closeLiteral? rest).map fun read => (c :: read.1, read.2)

theorem IsLiteralBody.of_escape {c : Char} {body : List Char}
    (h : IsLiteralBody ('\\' :: c :: body)) : IsLiteralBody body where
  quotes front rest hsplit := by
    have hfront := h.quotes ('\\' :: c :: front) rest (by rw [hsplit]; rfl)
    rwa [inEscape_escape] at hfront
  lines d hd := h.lines d (by simp [hd])
  complete := by
    have hall := h.complete
    rwa [inEscape_escape] at hall

theorem IsLiteralBody.of_cons {c : Char} {body : List Char} (h : IsLiteralBody (c :: body))
    (hescape : c ≠ '\\') : IsLiteralBody body where
  quotes front rest hsplit := by
    have hfront := h.quotes (c :: front) rest (by rw [hsplit]; rfl)
    rwa [inEscape_cons hescape] at hfront
  lines d hd := h.lines d (by simp [hd])
  complete := by
    have hall := h.complete
    rwa [inEscape_cons hescape] at hall

theorem closeLiteral?_append {body : List Char} (h : IsLiteralBody body) (rest : List Char) :
    closeLiteral? (body ++ '"' :: rest) = some (body, rest) := by
  fun_induction closeLiteral? body with
  | case1 => rfl
  | case2 tail => cases h.quotes [] tail rfl
  | case3 c tail ih =>
    rw [List.cons_append, List.cons_append, closeLiteral?, ih h.of_escape]
    rfl
  | case4 c tail hquote hescape hline =>
    have := h.lines c (by simp)
    rw [hline] at this
    cases this
  | case5 c tail hquote hescape hline ih =>
    have hc : c ≠ '\\' := by
      rintro rfl
      cases tail with
      | nil => cases h.complete
      | cons d tail => exact hescape d tail rfl rfl
    have hrest := ih (h.of_cons hc)
    rw [List.cons_append, closeLiteral?.eq_def]
    split <;> simp_all

def takeKey? : List Char → Option (List Char × List Char)
  | '"' :: rest => do
    let (body, after) ← closeLiteral? rest
    return (← literalValue? body, after)
  | text =>
    let name := text.takeWhile continuesIdentifier
    if isIdentifierChars name then some (name, text.dropWhile continuesIdentifier) else none

theorem takeKey?_quoted (text : String) (rest : List Char) :
    takeKey? ((quoted text).toList ++ rest) = some (text.toList, rest) := by
  have hvalue := literalValue?_escapeLiteral text
  have hclose := closeLiteral?_append (isLiteralBody_of_literalValue? hvalue) rest
  have hquoted : (quoted text).toList ++ rest =
      '"' :: ((escapeLiteral text).toList ++ '"' :: rest) := by
    simp [quoted]
  rw [hquoted, takeKey?, hclose]
  simp [hvalue]

theorem continuesIdentifier_of_starts {c : Char} (h : startsIdentifier c = true) :
    continuesIdentifier c = true := by
  simp only [startsIdentifier, continuesIdentifier, isAsciiAlphanumeric, Bool.or_eq_true] at h ⊢
  rcases h with (h | h) | h
  · exact .inl (.inl (.inl h))
  · exact .inl (.inr h)
  · exact .inr h

theorem takeKey?_bare {name : List Char} (hname : isIdentifierChars name = true)
    {rest : List Char} (hrest : ∀ c ∈ rest.head?, continuesIdentifier c = false) :
    takeKey? (name ++ rest) = some (name, rest) := by
  cases name with
  | nil => cases hname
  | cons c name =>
    obtain ⟨hfirst, hothers⟩ := (Bool.and_eq_true _ _).mp hname
    have hquote : c ≠ '"' := by
      rintro rfl
      cases hfirst
    have hall : ∀ d ∈ c :: name, continuesIdentifier d = true := by
      intro d hd
      rcases List.mem_cons.mp hd with rfl | hd
      · exact continuesIdentifier_of_starts hfirst
      · exact List.all_eq_true.mp hothers d hd
    rw [takeKey?.eq_def]
    split
    next heq => exact absurd (List.cons.inj heq).1 hquote
    next =>
      simp only [Text.takeWhile_append_stretch hall hrest,
        Text.dropWhile_append_stretch hall hrest, hname, if_true]

theorem takeKey?_propertyKey (name : String) {rest : List Char}
    (hrest : ∀ c ∈ rest.head?, continuesIdentifier c = false) :
    takeKey? ((propertyKey name).toList ++ rest) = some (name.toList, rest) := by
  unfold propertyKey
  split
  next hname => exact takeKey?_bare hname hrest
  next => exact takeKey?_quoted name rest

theorem takeKey?_propertyHead (name : String) (optional : Bool) (rest : List Char) :
    takeKey? ((TypeExpr.propertyHead name optional).toList ++ rest) =
      some (name.toList, (if optional then ['?', ':', ' '] else [':', ' ']) ++ rest) := by
  have hhead : (TypeExpr.propertyHead name optional).toList ++ rest =
      (propertyKey name).toList ++ ((if optional then ['?', ':', ' '] else [':', ' ']) ++ rest) := by
    cases optional <;> simp [TypeExpr.propertyHead]
  rw [hhead]
  apply takeKey?_propertyKey
  cases optional <;> simp [continuesIdentifier, isAsciiAlphanumeric, Text.isAsciiLetter,
    Text.isAsciiDigit]

/-- The inside of a literal reads as the text that it was written for, and a property key, alone or
with the rest of its property behind it, as the name. -/
theorem literals_and_keys_readBack :
    (∀ text, IsLiteralBody (escapeLiteral text).toList ∧
      literalValue? (escapeLiteral text).toList = some text.toList) ∧
    (∀ name, takeKey? (propertyKey name).toList = some (name.toList, []) ∧
      ∀ optional rest, takeKey? ((TypeExpr.propertyHead name optional).toList ++ rest) =
        some (name.toList, (if optional then ['?', ':', ' '] else [':', ' ']) ++ rest)) ∧
    Function.Injective propertyKey := by
  have hkey (name : String) : takeKey? (propertyKey name).toList = some (name.toList, []) := by
    have hread : takeKey? ((propertyKey name).toList ++ []) = some (name.toList, []) :=
      takeKey?_propertyKey name (by simp)
    rwa [List.append_nil] at hread
  refine ⟨?_, ?_, ?_⟩
  · intro text
    have hvalue := literalValue?_escapeLiteral text
    exact ⟨isLiteralBody_of_literalValue? hvalue, hvalue⟩
  · intro name
    exact ⟨hkey name, takeKey?_propertyHead name⟩
  · intro name other h
    have hnames := (hkey name).symm.trans (h ▸ hkey other)
    exact String.toList_inj.mp (by simpa using hnames)

end TypedClient.Script
