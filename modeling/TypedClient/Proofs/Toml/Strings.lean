import Mathlib.Logic.Basic
import TypedClient.Proofs.Decimal.HexDigits
import TypedClient.Toml.Print

/-!
Written strings read back. Each of the four kinds is written only for texts that its reader can
tell from what follows.
-/

namespace TypedClient.Toml

variable {c e : Char} {text rest : List Char} {run : Nat}

theorem isTextChar_of_not_control (h : ¬(c.toNat < 0x20 ∨ c = '\x7f')) : isTextChar c = true := by
  rw [not_or] at h
  rw [isTextChar, Bool.or_eq_true, Bool.and_eq_true, decide_eq_true_eq, bne_iff_ne]
  refine .inr ⟨?_, h.2⟩
  rw [Char.le_def, UInt32.le_iff_toNat_le]
  exact Nat.le_of_not_lt h.1

inductive IsWritten (multiline : Bool) (c : Char) : List Char → Prop
  | short (e : Char) (h : escaped? e = some c) : IsWritten multiline c ['\\', e]
  | number (h : c.toNat < 16 ^ 4) :
    IsWritten multiline c ('\\' :: 'u' :: Decimal.hexDigits 'A' 4 c.toNat)
  | plain (hquote : c ≠ '"') (hbackslash : c ≠ '\\')
    (h : isTextChar c = true ∨ multiline = true ∧ c = '\n') : IsWritten multiline c [c]

theorem isWritten_quote (multiline : Bool) : IsWritten multiline '"' ['\\', '"'] := .short '"' rfl

theorem isWritten_escapeChar (multiline : Bool) (hquote : c ≠ '"') :
    IsWritten multiline c (escapeChar multiline c) := by
  unfold escapeChar
  split
  next h => exact .short 'b' (by rw [h]; rfl)
  split
  next h => exact .short 't' (by rw [h]; rfl)
  split
  next h =>
    subst h
    cases multiline with
    | true => exact .plain hquote (by decide) (.inr ⟨rfl, rfl⟩)
    | false => exact .short 'n' rfl
  split
  next h => exact .short 'f' (by rw [h]; rfl)
  split
  next h => exact .short 'r' (by rw [h]; rfl)
  split
  next h => exact .short '\\' (by rw [h]; rfl)
  next hbackslash =>
    split
    next h =>
      refine .number ?_
      rcases h with h | rfl
      · omega
      · decide
    next h => exact .plain hquote hbackslash (.inl (isTextChar_of_not_control h))

theorem escaped?_eq_some (h : escaped? e = some c) :
    e ≠ 'u' ∧ e ≠ 'U' ∧ isWhite e = false ∧ e ≠ '\n' ∧ e ≠ '\r' := by
  unfold escaped? at h
  split at h
  all_goals first | decide | cases h

theorem hidesNewline_of_escaped? (h : escaped? e = some c) (rest : List Char) :
    hidesNewline (e :: rest) = false := by
  obtain ⟨-, -, hwhite, hfeed, hreturn⟩ := escaped?_eq_some h
  rw [hidesNewline, List.dropWhile_cons_of_neg (by simp [hwhite]), afterNewline?]
  · rfl
  · rintro _ he
    exact hfeed (List.cons.inj he).1
  · rintro _ he
    exact hreturn (List.cons.inj he).1

theorem charOfHex?_digits (h : c.toNat < 16 ^ 4) : ∃ p q r s,
    Decimal.hexDigits 'A' 4 c.toNat = [p, q, r, s] ∧ Text.charOfHex? [p, q, r, s] = some c :=
  ⟨_, _, _, _, rfl, Text.charOfHex?_hexDigits (.inr rfl) (by decide) h⟩

variable {multiline : Bool} {written : List Char}

theorem not_isTextChar (h : c = '\n' ∨ c = '\r') : ¬isTextChar c = true := by
  rcases h with rfl | rfl <;> decide

theorem IsWritten.exists_cons (h : IsWritten multiline c written) :
    ∃ d tail, written = d :: tail ∧ d ≠ '"' ∧ d ≠ '\r' ∧ (d = '\n' → c = '\n') := by
  cases h with
  | short e h => exact ⟨'\\', [e], rfl, by decide, by decide, nofun⟩
  | number h => exact ⟨'\\', _, rfl, by decide, by decide, nofun⟩
  | plain hquote hbackslash h =>
    refine ⟨c, [], rfl, hquote, ?_, id⟩
    rintro rfl
    rcases h with h | ⟨-, h⟩
    · exact not_isTextChar (.inr rfl) h
    · cases h

theorem IsWritten.basic (h : IsWritten false c written) (rest : List Char) :
    basic (written ++ rest) = StringRead.prepend c (basic rest) := by
  cases h with
  | short e h =>
    obtain ⟨hu, hU, -⟩ := escaped?_eq_some h
    show Toml.basic ('\\' :: e :: rest) = _
    rw [basic.eq_5 e rest (fun _ _ _ _ _ he _ => hu he) (fun _ _ _ _ _ _ _ _ _ he _ => hU he), h]
    rfl
  | number h =>
    obtain ⟨p, q, r, s, he, hchar⟩ := charOfHex?_digits h
    rw [he]
    show Toml.basic ('\\' :: 'u' :: p :: q :: r :: s :: rest) = _
    rw [Toml.basic, hchar]
    rfl
  | plain hquote hbackslash h =>
    show Toml.basic (c :: rest) = _
    have htext : isTextChar c = true := h.resolve_right fun h => Bool.false_ne_true h.1
    rw [basic.eq_6 c rest hquote (fun _ _ _ _ _ he _ => hbackslash he)
      (fun _ _ _ _ _ _ _ _ _ he _ => hbackslash he) (fun _ _ he _ => hbackslash he), if_pos]
    rw [htext, Bool.true_and, bne_iff_ne]
    exact hbackslash

theorem multilineBasic_char (hquote : c = '"' → ∀ tail, rest ≠ '"' :: '"' :: tail)
    (hreturn : c ≠ '\r') (hbackslash : c ≠ '\\') (h : (isTextChar c || c == '\n') = true) :
    multilineBasic false (c :: rest) = StringRead.prepend c (multilineBasic false rest) := by
  rw [multilineBasic.eq_9 false c rest (fun _ he => hquote he _) (fun _ he => hquote he _)
    (fun _ he => hquote he _) (fun _ he _ => hreturn he) (fun _ _ _ _ _ he _ => hbackslash he)
    (fun _ _ _ _ _ _ _ _ _ he _ => hbackslash he) (fun _ _ he _ => hbackslash he),
    Bool.false_and, if_neg Bool.false_ne_true, if_pos]
  rw [Bool.and_eq_true, bne_iff_ne]
  exact ⟨h, hbackslash⟩

theorem multilineLiteral_char (hquote : c = '\'' → ∀ tail, rest ≠ '\'' :: '\'' :: tail)
    (hreturn : c ≠ '\r') (h : (isTextChar c || c == '\n') = true) :
    multilineLiteral (c :: rest) = StringRead.prepend c (multilineLiteral rest) := by
  rw [multilineLiteral.eq_6 c rest (fun _ he => hquote he _) (fun _ he => hquote he _)
    (fun _ he => hquote he _) (fun _ he _ => hreturn he), if_pos h]

theorem IsWritten.multilineBasic (h : IsWritten true c written) (rest : List Char) :
    multilineBasic false (written ++ rest) =
      StringRead.prepend c (multilineBasic false rest) := by
  cases h with
  | short e h =>
    obtain ⟨hu, hU, -⟩ := escaped?_eq_some h
    show Toml.multilineBasic false ('\\' :: e :: rest) = _
    rw [multilineBasic.eq_8 false e rest (fun _ _ _ _ _ he _ => hu he)
      (fun _ _ _ _ _ _ _ _ _ he _ => hU he), hidesNewline_of_escaped? h, h]
    rfl
  | number h =>
    obtain ⟨p, q, r, s, he, hchar⟩ := charOfHex?_digits h
    rw [he]
    show Toml.multilineBasic false ('\\' :: 'u' :: p :: q :: r :: s :: rest) = _
    rw [Toml.multilineBasic, hchar]
    rfl
  | plain hquote hbackslash h =>
    show Toml.multilineBasic false (c :: rest) = _
    have hreturn : c ≠ '\r' := by
      rintro rfl
      rcases h with h | ⟨-, h⟩
      · exact not_isTextChar (.inr rfl) h
      · cases h
    refine multilineBasic_char (fun he => absurd he hquote) hreturn hbackslash ?_
    rw [Bool.or_eq_true, beq_iff_eq]
    exact h.imp_right And.right

theorem basic_escape (text rest : List Char) :
    basic (escape false 0 0 text ++ '"' :: rest) = some (text, rest) := by
  induction text with
  | nil =>
    show basic ('"' :: rest) = _
    rw [basic]
  | cons c text ih =>
    rw [escape]
    split
    next hquote =>
      subst hquote
      rw [if_neg (Nat.not_lt_zero 0)]
      show basic (['\\', '"'] ++ (escape false 0 0 text ++ '"' :: rest)) = _
      rw [(isWritten_quote false).basic, ih]
      rfl
    next hquote =>
      rw [List.append_assoc, (isWritten_escapeChar false hquote).basic, ih]
      rfl

theorem literal_of_no_quote (hquote : '\'' ∉ text) (htext : ∀ c ∈ text, isTextChar c = true)
    (rest : List Char) : literal (text ++ '\'' :: rest) = some (text, rest) := by
  induction text with
  | nil => rfl
  | cons c text ih =>
    rw [List.mem_cons, not_or] at hquote
    rw [List.cons_append, literal, if_neg (Ne.symm hquote.1), if_pos (htext c List.mem_cons_self),
      ih hquote.2 fun d hd => htext d (List.mem_cons_of_mem c hd)]
    rfl

/-- What a reader of strings over several lines does with its own quotes: three of them close a
string, of more the last three do, and others are characters of it. -/
structure ClosesAfterThree (quote : Char) (read : List Char → StringRead) : Prop where
  closing : ∀ run ≤ 2, ∀ rest : List Char, rest.head? ≠ some quote →
    read (List.replicate run quote ++ quote :: quote :: quote :: rest) =
      some (List.replicate run quote, rest)
  inside : ∀ after, (∀ tail, after ≠ quote :: quote :: tail) →
    read (quote :: after) = StringRead.prepend quote (read after)

theorem multilineBasic_closes : ClosesAfterThree '"' (multilineBasic false) := by
  constructor
  · intro run hrun rest hrest
    have hone : ∀ tail, rest ≠ '"' :: tail := fun tail he => hrest (he ▸ rfl)
    obtain rfl | rfl | rfl : run = 0 ∨ run = 1 ∨ run = 2 := by omega
    · exact multilineBasic.eq_4 false rest (fun _ => hone _) hone
    · exact multilineBasic.eq_3 false rest hone
    · exact multilineBasic.eq_2 false rest
  · intro after hafter
    exact multilineBasic_char (fun _ => hafter) (by decide) (by decide) (by decide)

theorem multilineLiteral_closes : ClosesAfterThree '\'' multilineLiteral := by
  constructor
  · intro run hrun rest hrest
    have hone : ∀ tail, rest ≠ '\'' :: tail := fun tail he => hrest (he ▸ rfl)
    obtain rfl | rfl | rfl : run = 0 ∨ run = 1 ∨ run = 2 := by omega
    · exact multilineLiteral.eq_4 rest (fun _ => hone _) hone
    · exact multilineLiteral.eq_3 rest hone
    · exact multilineLiteral.eq_2 rest
  · intro after hafter
    exact multilineLiteral_char (fun _ => hafter) (by decide) (by decide)

theorem ClosesAfterThree.few {quote : Char} {read : List Char → StringRead}
    (h : ClosesAfterThree quote read) (hrun : run ≤ 2) (hrest : rest.head? ≠ some quote) :
    read (List.replicate run quote ++ rest) =
      (read rest).map fun (text, after) => (List.replicate run quote ++ text, after) := by
  have hone : ∀ tail, rest ≠ quote :: tail := fun tail he => hrest (he ▸ rfl)
  obtain rfl | rfl | rfl : run = 0 ∨ run = 1 ∨ run = 2 := by omega
  · exact Option.map_id'.symm
  · exact h.inside rest fun _ => hone _
  · show read (quote :: quote :: rest) = _
    rw [h.inside (quote :: rest) fun _ he => hone _ (List.cons.inj he).2,
      h.inside rest fun _ => hone _]
    cases read rest <;> rfl

theorem multilineBasic_escape (text : List Char) (hrun : run ≤ 2)
    (hrest : rest.head? ≠ some '"') :
    multilineBasic false
        (List.replicate run '"' ++ (escape true 2 run text ++ '"' :: '"' :: '"' :: rest)) =
      some (List.replicate run '"' ++ text, rest) := by
  induction text generalizing run with
  | nil =>
    rw [List.append_nil]
    exact multilineBasic_closes.closing run hrun rest hrest
  | cons c text ih =>
    have hread : ∀ {written : List Char}, IsWritten true c written →
        multilineBasic false (List.replicate run '"' ++
          (written ++ (escape true 2 0 text ++ '"' :: '"' :: '"' :: rest))) =
            some (List.replicate run '"' ++ c :: text, rest) := by
      intro written hwritten
      have ih := ih (Nat.zero_le 2)
      obtain ⟨d, tail, he, hquote, -⟩ := hwritten.exists_cons
      rw [multilineBasic_closes.few hrun, hwritten.multilineBasic]
      · rw [List.replicate_zero, List.nil_append, List.nil_append] at ih
        rw [ih]
        rfl
      · rw [he]
        exact fun hhead => hquote (Option.some.inj hhead)
    rw [escape]
    split
    next hquote =>
      subst hquote
      split
      next hless =>
        have ih := ih (show run + 1 ≤ 2 from hless)
        rwa [List.replicate_succ', List.append_assoc, List.append_assoc] at ih
      · exact hread (isWritten_quote true)
    next hquote =>
      rw [List.append_assoc]
      exact hread (isWritten_escapeChar true hquote)

theorem multilineLiteral_of_runs (htext : ∀ c ∈ text, isTextChar c = true ∨ c = '\n')
    (hruns : longestRun '\'' run text ≤ 2) (hrest : rest.head? ≠ some '\'') :
    multilineLiteral (List.replicate run '\'' ++ (text ++ '\'' :: '\'' :: '\'' :: rest)) =
      some (List.replicate run '\'' ++ text, rest) := by
  induction text generalizing run with
  | nil =>
    rw [List.append_nil]
    exact multilineLiteral_closes.closing run hruns rest hrest
  | cons c text ih =>
    have htail : ∀ d ∈ text, isTextChar d = true ∨ d = '\n' :=
      fun d hd => htext d (List.mem_cons_of_mem c hd)
    rw [longestRun] at hruns
    split at hruns
    next hquote =>
      subst hquote
      have ih := ih htail hruns
      rwa [List.replicate_succ', List.append_assoc, List.append_assoc] at ih
    next hquote =>
      have ih := ih htail (Nat.le_trans (Nat.le_max_right run _) hruns)
      have hc := htext c List.mem_cons_self
      have hreturn : c ≠ '\r' := by
        rintro rfl
        rcases hc with hc | hc
        · exact not_isTextChar (.inr rfl) hc
        · cases hc
      rw [List.replicate_zero, List.nil_append, List.nil_append] at ih
      have hrun : run ≤ 2 := Nat.le_trans (Nat.le_max_left run _) hruns
      have hhead : (c :: (text ++ '\'' :: '\'' :: '\'' :: rest)).head? ≠ some '\'' :=
        fun hhead => hquote (Option.some.inj hhead)
      rw [List.cons_append, multilineLiteral_closes.few hrun hhead,
        multilineLiteral_char (fun he => absurd he hquote) hreturn
          (by rwa [Bool.or_eq_true, beq_iff_eq]), ih]
      rfl

theorem skipNewline_of_head (h : ∀ c ∈ text.head?, c ≠ '\n' ∧ c ≠ '\r') :
    skipNewline text = text := by
  unfold skipNewline
  rw [afterNewline?]
  · rfl
  · rintro tail rfl
    exact (h '\n' rfl).1 rfl
  · rintro tail rfl
    exact (h '\r' rfl).2 rfl

theorem escape_head (multiline : Bool) (most run : Nat) (text : List Char) :
    ∀ d ∈ (escape multiline most run text).head?,
      (d = '"' → run < most) ∧ d ≠ '\r' ∧ (d = '\n' → '\n' ∈ text) := by
  intro d hd
  cases text with
  | nil => cases hd
  | cons c text =>
    rw [escape] at hd
    split at hd
    next hquote =>
      subst hquote
      split at hd
      next hless =>
        cases hd
        exact ⟨fun _ => hless, by decide, nofun⟩
      next =>
        cases hd
        exact ⟨nofun, by decide, nofun⟩
    next hquote =>
      obtain ⟨e, tail, he, hne, hreturn, hnewline⟩ :=
        (isWritten_escapeChar multiline hquote).exists_cons
      rw [he] at hd
      cases hd
      exact ⟨fun h => absurd h hne, hreturn, fun h => hnewline h ▸ List.mem_cons_self⟩

def opening (text : List Char) : List Char := if text.contains '\n' then ['\n'] else []

theorem skipNewline_opening (hnewline : '\n' ∈ rest.head? → '\n' ∈ text)
    (hreturn : '\r' ∉ rest.head?) : skipNewline (opening text ++ rest) = rest := by
  unfold opening
  cases hcontains : text.contains '\n' with
  | true => rfl
  | false =>
    apply skipNewline_of_head
    rintro c hc
    constructor
    · rintro rfl
      rw [List.contains_eq_mem, decide_eq_false_iff_not] at hcontains
      exact hcontains (hnewline hc)
    · rintro rfl
      exact hreturn hc

theorem string_escape (text rest : List Char) :
    string ('"' :: escape false 0 0 text ++ ['"'] ++ '\n' :: rest) = some (text, '\n' :: rest) := by
  show string ('"' :: (escape false 0 0 text ++ ['"'] ++ '\n' :: rest)) = _
  rw [List.append_assoc, string.eq_3]
  · exact basic_escape text ('\n' :: rest)
  · intro tail he
    have hhead := escape_head false 0 0 text
    cases hescape : escape false 0 0 text with
    | nil =>
      rw [hescape] at he
      cases he
    | cons d written =>
      rw [hescape] at he hhead
      exact Nat.not_lt_zero 0 ((hhead d rfl).1 (List.cons.inj he).1)

theorem not_mem_of_longestRun {quote : Char} (h : longestRun quote run text = 0) :
    quote ∉ text := by
  have hle : ∀ (text : List Char) (run : Nat), run ≤ longestRun quote run text := by
    intro text
    induction text with
    | nil => exact fun run => Nat.le_refl run
    | cons c text ih =>
      intro run
      rw [longestRun]
      split
      · exact Nat.le_trans (Nat.le_succ run) (ih (run + 1))
      · exact Nat.le_max_left run _
  induction text generalizing run with
  | nil => exact List.not_mem_nil
  | cons c text ih =>
    rw [longestRun] at h
    split at h
    · have hrun := hle text (run + 1)
      omega
    next hne =>
      rw [List.mem_cons, not_or]
      exact ⟨Ne.symm hne, ih (Nat.max_eq_zero_iff.mp h).2⟩

theorem string_literal (hquotes : longestRun '\'' 0 text = 0)
    (htext : ∀ c ∈ text, isTextChar c = true) (rest : List Char) :
    string ('\'' :: text ++ ['\''] ++ '\n' :: rest) = some (text, '\n' :: rest) := by
  show string ('\'' :: (text ++ ['\''] ++ '\n' :: rest)) = _
  have hquote := not_mem_of_longestRun hquotes
  rw [List.append_assoc, string.eq_4]
  · exact literal_of_no_quote hquote htext ('\n' :: rest)
  · intro tail he
    cases text with
    | nil => cases he
    | cons c text => exact hquote ((List.cons.inj he).1 ▸ List.mem_cons_self)

theorem head?_append_quotes {quote : Char} (hne : c ≠ quote)
    (h : c ∈ (text ++ quote :: rest).head?) : c ∈ text.head? := by
  cases text with
  | nil => exact absurd (Option.some.inj h).symm hne
  | cons d text => exact h

theorem string_multilineEscape (text rest : List Char) :
    string (['"', '"', '"'] ++ opening text ++ escape true 2 0 text ++ ['"', '"', '"'] ++
      '\n' :: rest) = some (text, '\n' :: rest) := by
  have hread := multilineBasic_escape text (Nat.zero_le 2)
    (nofun : ('\n' :: rest).head? ≠ some '"')
  have hhead := escape_head true 2 0 text
  simp only [List.append_assoc, List.cons_append, List.nil_append, List.replicate_zero] at hread ⊢
  rw [string, skipNewline_opening]
  · exact hread
  · intro h
    exact (hhead _ (head?_append_quotes (by decide) h)).2.2 rfl
  · intro h
    exact (hhead _ (head?_append_quotes (by decide) h)).2.1 rfl

theorem string_multilineLiteral (htext : ∀ c ∈ text, isTextChar c = true ∨ c = '\n')
    (hruns : longestRun '\'' 0 text ≤ 2) (rest : List Char) :
    string (['\'', '\'', '\''] ++ opening text ++ text ++ ['\'', '\'', '\''] ++ '\n' :: rest) =
      some (text, '\n' :: rest) := by
  have hread := multilineLiteral_of_runs htext hruns
    (nofun : ('\n' :: rest).head? ≠ some '\'')
  simp only [List.append_assoc, List.cons_append, List.nil_append, List.replicate_zero] at hread ⊢
  rw [string, skipNewline_opening]
  · exact hread
  · intro h
    exact List.mem_of_mem_head? (head?_append_quotes (by decide) h)
  · intro h
    rcases htext _ (List.mem_of_mem_head? (head?_append_quotes (by decide) h)) with h | h
    · exact not_isTextChar (.inr rfl) h
    · cases h

theorem string_stringLiteral (value : String) (rest : List Char) :
    string ((stringLiteral value).toList ++ '\n' :: rest) = some (value.toList, '\n' :: rest) := by
  have htext : value.toList.any needsEscape = false →
      ∀ c ∈ value.toList, isTextChar c = true ∨ c = '\n' := by
    intro h c hc
    have hc := List.any_eq_false.mp h c hc
    rw [needsEscape, Bool.and_eq_true, Bool.not_eq_true', bne_iff_ne, not_and_or,
      Bool.not_eq_false, not_not] at hc
    exact hc
  unfold stringLiteral
  simp only [Bool.and_eq_true, Bool.not_eq_true', beq_iff_eq, decide_eq_true_eq]
  rw [String.toList_ofList]
  split
  · exact string_escape value.toList rest
  split
  next h =>
    refine string_literal h.1.2 (fun c hc => (htext h.1.1 c hc).resolve_right ?_) rest
    rintro rfl
    exact Bool.false_ne_true (h.2.symm.trans (List.contains_iff_mem.mpr hc))
  split
  · exact string_multilineEscape value.toList rest
  split
  next h => exact string_multilineLiteral (htext h.1) h.2 rest
  split
  next h =>
    have hopening : opening value.toList = ['\n'] := if_pos h
    have hread := string_multilineEscape value.toList rest
    rwa [hopening] at hread
  · exact string_escape value.toList rest

end TypedClient.Toml
