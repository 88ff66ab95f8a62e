import TypedClient.Proofs.Decimal.HexDigits
import TypedClient.Proofs.Yaml.Characters

namespace TypedClient.Yaml

variable {c e : Char} {text written consumed seen : List Char} {gap : Gap} {position : Position}

inductive IsDoubleQuoted (c : Char) : List Char → Prop
  | short (e : Char) (h : escaped? e = some c) : IsDoubleQuoted c ['\\', e]
  | two (h : c.toNat < 16 ^ 2) :
    IsDoubleQuoted c ('\\' :: 'x' :: Decimal.hexDigits 'A' 2 c.toNat)
  | four (h : c.toNat < 16 ^ 4) :
    IsDoubleQuoted c ('\\' :: 'u' :: Decimal.hexDigits 'A' 4 c.toNat)
  | eight (h : c.toNat < 16 ^ 8) :
    IsDoubleQuoted c ('\\' :: 'U' :: Decimal.hexDigits 'A' 8 c.toNat)
  | plain (hprint : isPrintable c = true) (hbreak : isBreak c = false) (hquote : c ≠ '"')
    (hbackslash : c ≠ '\\') : IsDoubleQuoted c [c]

theorem isDoubleQuoted_quoteDouble (c : Char) : IsDoubleQuoted c (quoteDouble c) := by
  unfold quoteDouble
  refine iteInduction (fun h => .short '0' (by rw [h]; rfl)) fun _ => ?_
  refine iteInduction (fun h => .short 'a' (by rw [h]; rfl)) fun _ => ?_
  refine iteInduction (fun h => .short 'b' (by rw [h]; rfl)) fun _ => ?_
  refine iteInduction (fun h => .short 't' (by rw [h]; rfl)) fun _ => ?_
  refine iteInduction (fun h => .short 'n' (by rw [h]; rfl)) fun hfeed => ?_
  refine iteInduction (fun h => .short 'v' (by rw [h]; rfl)) fun _ => ?_
  refine iteInduction (fun h => .short 'f' (by rw [h]; rfl)) fun _ => ?_
  refine iteInduction (fun h => .short 'r' (by rw [h]; rfl)) fun _ => ?_
  refine iteInduction (fun h => .short 'e' (by rw [h]; rfl)) fun _ => ?_
  refine iteInduction (fun h => .short '"' (by rw [h]; rfl)) fun hquote => ?_
  refine iteInduction (fun h => .short '\\' (by rw [h]; rfl)) fun hbackslash => ?_
  refine iteInduction (fun h => .short 'N' (by rw [h]; rfl)) fun _ => ?_
  refine iteInduction (fun h => .short 'L' (by rw [h]; rfl)) fun hline => ?_
  refine iteInduction (fun h => .short 'P' (by rw [h]; rfl)) fun hparagraph => ?_
  refine iteInduction (fun hprint => .plain hprint ?_ hquote hbackslash) fun _ => ?_
  · apply Bool.eq_false_iff.mpr
    intro hbreak
    rcases break_cases hprint hbreak with h | h | h
    · exact hfeed h
    · exact hline h
    · exact hparagraph h
  refine iteInduction (fun h => .two (Nat.lt_succ_of_le h)) fun _ => ?_
  refine iteInduction (fun h => .four (Nat.lt_succ_of_le h)) fun _ => .eight ?_
  exact c.val.toNat_lt

theorem isAllowed_hexDigits (width n : Nat) : ∀ d ∈ Decimal.hexDigits 'A' width n,
    isAllowed d = true := by
  induction width generalizing n with
  | zero => nofun
  | succ width ih =>
    have hdigit : ∀ d < 16, isAllowed (Decimal.hexDigit 'A' d) = true := by decide
    rw [Decimal.hexDigits, List.forall_mem_append]
    refine ⟨ih (n / 16), ?_⟩
    simpa using hdigit (n % 16) (Nat.mod_lt n (by decide))

theorem escaped?_eq_some (h : escaped? e = some c) :
    e ≠ 'x' ∧ e ≠ 'u' ∧ e ≠ 'U' ∧ e ≠ '\r' ∧ isBreak e = false := by
  unfold escaped? at h
  split at h
  all_goals first | decide | cases h

theorem isAllowed_of_escaped? (h : escaped? e = some c) : isAllowed e = true := by
  unfold escaped? at h
  split at h
  all_goals first | decide | cases h

theorem IsDoubleQuoted.isAllowed (h : IsDoubleQuoted c written) :
    ∀ d ∈ written, Yaml.isAllowed d = true := by
  cases h with
  | short e h => simpa [isAllowed_of_escaped? h] using (by decide : Yaml.isAllowed '\\' = true)
  | two => exact List.forall_mem_cons.mpr ⟨by decide, List.forall_mem_cons.mpr
      ⟨by decide, isAllowed_hexDigits 2 c.toNat⟩⟩
  | four => exact List.forall_mem_cons.mpr ⟨by decide, List.forall_mem_cons.mpr
      ⟨by decide, isAllowed_hexDigits 4 c.toNat⟩⟩
  | eight => exact List.forall_mem_cons.mpr ⟨by decide, List.forall_mem_cons.mpr
      ⟨by decide, isAllowed_hexDigits 8 c.toNat⟩⟩
  | plain hprint => simpa using isAllowed_of_isPrintable hprint

theorem doubleQuoted_char (hbreak : isBreak c = false) (hbackslash : c ≠ '\\')
    (hcolumn : position.column ≠ 0) (rest : List Char) :
    doubleQuoted seen gap position (c :: rest) =
      if isBlank c then doubleQuoted seen (gap.addBlank c) position.next rest
      else if c = '"' then some ⟨(gap.reversedText ++ seen).reverse, false, rest, position.next⟩
      else doubleQuoted (c :: (gap.reversedText ++ seen)) .none position.next rest := by
  have hreturn := ne_return_of_isBreak hbreak
  rw [doubleQuoted.eq_8 seen gap position c rest (fun _ he _ => hreturn he)
    (fun _ he _ => hbackslash he) (fun _ _ _ he _ => hbackslash he)
    (fun _ _ _ _ _ he _ => hbackslash he) (fun _ _ _ _ _ _ _ _ _ he _ => hbackslash he)
    (fun _ _ he _ => hbackslash he), hbreak, if_neg Bool.false_ne_true,
    atDocumentBoundary_eq_false hcolumn, if_neg Bool.false_ne_true, if_neg hbackslash]

theorem IsDoubleQuoted.read (h : IsDoubleQuoted c written)
    (hinside : Inside consumed seen gap position) (rest : List Char) : ∃ seen' gap' position',
      doubleQuoted seen gap position (written ++ rest) = doubleQuoted seen' gap' position' rest ∧
        Inside (c :: consumed) seen' gap' position' := by
  cases h with
  | short e h =>
    obtain ⟨hx, hu, hU, hreturn, hbreak⟩ := escaped?_eq_some h
    refine ⟨_, _, _, ?_, hinside.along c 2⟩
    show doubleQuoted seen gap position ('\\' :: e :: rest) = _
    rw [doubleQuoted.eq_7 seen gap position e rest (fun _ he _ => hreturn he)
      (fun _ _ _ he _ => hx he) (fun _ _ _ _ _ he _ => hu he)
      (fun _ _ _ _ _ _ _ _ _ he _ => hU he), hbreak, h]
    rfl
  | two h =>
    have hchar := Text.charOfHex?_hexDigits (.inr rfl : 'A' = 'a' ∨ 'A' = 'A') (by decide) h
    refine ⟨_, _, _, ?_, hinside.along c 4⟩
    obtain ⟨p, q, he⟩ : ∃ p q, Decimal.hexDigits 'A' 2 c.toNat = [p, q] := ⟨_, _, rfl⟩
    rw [he] at hchar ⊢
    show doubleQuoted seen gap position ('\\' :: 'x' :: p :: q :: rest) = _
    rw [doubleQuoted, hchar]
    rfl
  | four h =>
    have hchar := Text.charOfHex?_hexDigits (.inr rfl : 'A' = 'a' ∨ 'A' = 'A') (by decide) h
    refine ⟨_, _, _, ?_, hinside.along c 6⟩
    obtain ⟨p, q, r, s, he⟩ : ∃ p q r s, Decimal.hexDigits 'A' 4 c.toNat = [p, q, r, s] :=
      ⟨_, _, _, _, rfl⟩
    rw [he] at hchar ⊢
    show doubleQuoted seen gap position ('\\' :: 'u' :: p :: q :: r :: s :: rest) = _
    rw [doubleQuoted, hchar]
    rfl
  | eight h =>
    have hchar := Text.charOfHex?_hexDigits (.inr rfl : 'A' = 'a' ∨ 'A' = 'A') (by decide) h
    refine ⟨_, _, _, ?_, hinside.along c 10⟩
    obtain ⟨p, q, r, s, t, u, v, w, he⟩ : ∃ p q r s t u v w,
        Decimal.hexDigits 'A' 8 c.toNat = [p, q, r, s, t, u, v, w] :=
      ⟨_, _, _, _, _, _, _, _, rfl⟩
    rw [he] at hchar ⊢
    show doubleQuoted seen gap position
      ('\\' :: 'U' :: p :: q :: r :: s :: t :: u :: v :: w :: rest) = _
    rw [doubleQuoted, hchar]
    rfl
  | plain hprint hbreak hquote hbackslash =>
    show ∃ seen' gap' position', doubleQuoted seen gap position (c :: rest) = _ ∧ _
    rw [doubleQuoted_char hbreak hbackslash hinside.column]
    split
    next hblank =>
      obtain rfl := eq_space_of_isBlank hprint hblank
      exact ⟨_, _, _, rfl, hinside.blank⟩
    · exact ⟨_, _, _, rfl, hinside.along c 1⟩

theorem doubleQuoted_text (hinside : Inside consumed seen gap position) (text rest : List Char) :
    ∃ after, doubleQuoted seen gap position (text.flatMap quoteDouble ++ '"' :: rest) =
      some ⟨consumed.reverse ++ text, false, rest, after⟩ := by
  induction text generalizing consumed seen gap position with
  | nil =>
    refine ⟨position.next, ?_⟩
    rw [List.flatMap_nil, List.nil_append, doubleQuoted_char (by decide) (by decide) hinside.column,
      if_neg (by decide), if_pos rfl, hinside.text, List.append_nil]
  | cons c text ih =>
    obtain ⟨seen', gap', position', hread, hinside'⟩ :=
      (isDoubleQuoted_quoteDouble c).read hinside (text.flatMap quoteDouble ++ '"' :: rest)
    obtain ⟨after, hrest⟩ := ih hinside'
    refine ⟨after, ?_⟩
    rw [List.flatMap_cons, List.append_assoc, hread, hrest, List.reverse_cons, List.append_assoc]
    rfl

end TypedClient.Yaml
