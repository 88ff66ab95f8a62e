import TypedClient.Decimal.Digits
import TypedClient.Proofs.Script.Lexeme

namespace TypedClient.Script

open Text (escapeChar escapeChars)

def codeUnit? (digits : List Char) : Option Char :=
  ((Decimal.ofDigits? 16 digits).filter fun n => decide n.isValidChar).map Char.ofNat

def literalValue? : List Char → Option (List Char)
  | [] => some []
  | '\\' :: '\\' :: rest => (literalValue? rest).map ('\\' :: ·)
  | '\\' :: '"' :: rest => (literalValue? rest).map ('"' :: ·)
  | '\\' :: 'n' :: rest => (literalValue? rest).map ('\n' :: ·)
  | '\\' :: 'r' :: rest => (literalValue? rest).map ('\r' :: ·)
  | '\\' :: 'u' :: a :: b :: c :: d :: rest =>
    (codeUnit? [a, b, c, d]).bind fun unit => (literalValue? rest).map (unit :: ·)
  | c :: rest =>
    if c == '\\' || c == '"' || isLineTerminator c then none
    else (literalValue? rest).map (c :: ·)

theorem codeUnit?_line : codeUnit? ['2', '0', '2', '8'] = some '\u2028' := by decide

theorem codeUnit?_paragraph : codeUnit? ['2', '0', '2', '9'] = some '\u2029' := by decide

theorem literalValue?_escapeChar (c : Char) (rest : List Char) :
    literalValue? (escapeChar c ++ rest) = (literalValue? rest).map (c :: ·) := by
  have hescape := Text.isEscape_escapeChar c
  generalize escapeChar c = written at hescape
  cases hescape with
  | line => exact congrArg (Option.bind · fun unit => (literalValue? rest).map (unit :: ·)) codeUnit?_line
  | paragraph =>
    exact congrArg (Option.bind · fun unit => (literalValue? rest).map (unit :: ·)) codeUnit?_paragraph
  | plain hescape hquote hfeed hreturn hline hparagraph =>
    rw [List.singleton_append, literalValue?.eq_def]
    split <;> simp_all [isLineTerminator]
  | _ => rfl

theorem literalValue?_escapeChars (text : List Char) :
    literalValue? (escapeChars text) = some text := by
  induction text with
  | nil => rfl
  | cons c text ih =>
    rw [escapeChars] at ih ⊢
    rw [List.flatMap_cons, literalValue?_escapeChar, ih]
    rfl

theorem literalValue?_escapeLiteral (text : String) :
    literalValue? (Text.escapeLiteral text).toList = some text.toList := by
  rw [Text.escapeLiteral, String.toList_ofList]
  exact literalValue?_escapeChars text.toList

end TypedClient.Script
