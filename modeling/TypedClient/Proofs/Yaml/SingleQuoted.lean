import TypedClient.Proofs.Yaml.Characters

/-!
Texts in single quotes read back. Their line breaks are the two Unicode separators, which folding
keeps, and no blank stands beside one.
-/

namespace TypedClient.Yaml

/-- Where the reader stands after some text, which is given last character first: inside a line, or
at the start of a line that is not the first. -/
inductive StandsAt : Bool → List Char → List Char → Gap → Position → Prop
  | inside {consumed seen : List Char} {gap : Gap} {position : Position}
    (h : Inside consumed seen gap position) :
    StandsAt false consumed seen gap position
  | newLine {seen : List Char} {position : Position} (first : Char) (further : List Char)
    (hfirst : first ≠ '\n') :
    StandsAt true (further ++ first :: seen) seen (.lines (some first) further) position

variable {c : Char} {text rest consumed seen : List Char} {gap : Gap} {position : Position}
  {afterBreak : Bool}

theorem reversedText_lines {first : Char} (hfirst : first ≠ '\n') (further : List Char) :
    (Gap.lines (some first) further).reversedText = further ++ [first] := by
  rw [Gap.reversedText]
  · exact fun _ he => hfirst he
  · exact hfirst

theorem StandsAt.text_eq (h : StandsAt afterBreak consumed seen gap position) :
    gap.reversedText ++ seen = consumed := by
  cases h with
  | inside h => exact h.text
  | newLine first further hfirst =>
    rw [reversedText_lines hfirst, List.append_assoc]
    rfl

def singleWritten (afterBreak : Bool) (c : Char) : List Char :=
  if isBreak c then [c]
  else (if afterBreak then indentation else []) ++ if c = '\'' then ['\'', '\''] else [c]

theorem quoteSingle_cons (afterBreak : Bool) (c : Char) (text : List Char) :
    quoteSingle afterBreak (c :: text) =
      singleWritten afterBreak c ++ quoteSingle (isBreak c) text := by
  rw [quoteSingle, singleWritten]
  cases isBreak c with
  | true => rfl
  | false => rfl

theorem isAllowed_quoteSingle (h : ∀ c ∈ text, isPrintable c = true) :
    ∀ d ∈ quoteSingle afterBreak text, isAllowed d = true := by
  induction text generalizing afterBreak with
  | nil => exact isAllowed_indentation afterBreak
  | cons c text ih =>
    obtain ⟨hc, htext⟩ := List.forall_mem_cons.mp h
    have hplain : ∀ d ∈ [c], isAllowed d = true := by
      simpa using isAllowed_of_isPrintable hc
    rw [quoteSingle_cons, singleWritten, List.forall_mem_append]
    refine ⟨?_, ih htext⟩
    split
    · exact hplain
    · rw [List.forall_mem_append]
      refine ⟨isAllowed_indentation afterBreak, ?_⟩
      split
      · exact List.all_eq_true.mp (by decide)
      · exact hplain

theorem singleQuoted_space (rest : List Char) : singleQuoted seen gap position (' ' :: rest) =
    singleQuoted seen (gap.addBlank ' ') position.next rest := by
  rw [singleQuoted.eq_3 seen gap position ' ' rest nofun, if_neg (by decide), if_pos (by decide)]

theorem singleQuoted_break (hreturn : c ≠ '\r') (hbreak : isBreak c = true) (rest : List Char) :
    singleQuoted seen gap position (c :: rest) =
      singleQuoted seen (gap.addBreak c) (position.nextLine 1) rest := by
  rw [singleQuoted.eq_3 seen gap position c rest (fun _ he _ => hreturn he), if_pos hbreak]

theorem singleQuoted_char (seen : List Char) (gap : Gap) (hbreak : isBreak c = false)
    (hblank : isBlank c = false) (hcolumn : position.column ≠ 0) (rest : List Char) : ∃ count,
      singleQuoted seen gap position ((if c = '\'' then ['\'', '\''] else [c]) ++ rest) =
        singleQuoted (c :: (gap.reversedText ++ seen)) .none (position.along count) rest := by
  have hreturn := ne_return_of_isBreak hbreak
  split
  next hquote =>
    subst hquote
    refine ⟨2, ?_⟩
    show singleQuoted seen gap position ('\'' :: '\'' :: rest) = _
    rw [singleQuoted.eq_3 seen gap position '\'' ('\'' :: rest) (fun _ he _ => hreturn he),
      if_neg (by decide), if_neg (by decide), atDocumentBoundary_eq_false hcolumn,
      if_neg Bool.false_ne_true]
    rfl
  next hquote =>
    refine ⟨1, ?_⟩
    show singleQuoted seen gap position (c :: rest) = _
    rw [singleQuoted.eq_3 seen gap position c rest (fun _ he _ => hreturn he), hbreak, hblank,
      if_neg Bool.false_ne_true, if_neg Bool.false_ne_true, atDocumentBoundary_eq_false hcolumn,
      if_neg Bool.false_ne_true]
    exact if_neg hquote

theorem singleQuoted_close (hcolumn : position.column ≠ 0) (hrest : rest.head? ≠ some '\'') :
    singleQuoted seen gap position ('\'' :: rest) =
      some ⟨(gap.reversedText ++ seen).reverse, false, rest, position.next⟩ := by
  rw [singleQuoted.eq_3 seen gap position '\'' rest nofun, if_neg (by decide),
    if_neg (by decide), atDocumentBoundary_eq_false hcolumn, if_neg Bool.false_ne_true]
  simp only [if_true]
  split
  · exact absurd rfl hrest
  · rfl

theorem StandsAt.indentation (h : StandsAt afterBreak consumed seen gap position)
    (rest : List Char) : ∃ position', position'.column ≠ 0 ∧
      singleQuoted seen gap position ((if afterBreak then indentation else []) ++ rest) =
        singleQuoted seen gap position' rest := by
  cases h with
  | inside h => exact ⟨position, h.column, rfl⟩
  | newLine first further hfirst =>
    refine ⟨position.along 2, Nat.succ_ne_zero _, ?_⟩
    show singleQuoted seen _ position (' ' :: ' ' :: rest) = _
    rw [singleQuoted_space, singleQuoted_space]
    rfl

theorem StandsAt.step (h : StandsAt afterBreak consumed seen gap position)
    (hprint : isPrintable c = true) (hfeed : c ≠ '\n')
    (hspace : consumed.head? = some ' ' → isBreak c = false)
    (hbreak : afterBreak = true → c ≠ ' ') (rest : List Char) : ∃ seen' gap' position',
      singleQuoted seen gap position (singleWritten afterBreak c ++ rest) =
        singleQuoted seen' gap' position' rest ∧
      StandsAt (isBreak c) (c :: consumed) seen' gap' position' := by
  unfold singleWritten
  cases hc : isBreak c with
  | true =>
    have hreturn : c ≠ '\r' := ne_of_isPrintable hprint (by decide)
    have hkept := breakChar_eq hprint hc
    refine ⟨_, _, _, singleQuoted_break hreturn hc rest, ?_⟩
    cases h with
    | inside h =>
      obtain rfl : gap = .none := h.space.resolve_right fun he => by simp [hspace he] at hc
      obtain rfl : seen = consumed := h.text
      have hadd : Gap.none.addBreak c = .lines (some c) [] :=
        congrArg (fun d => Gap.lines (some d) []) hkept
      rw [hadd]
      exact .newLine c [] hfeed
    | newLine first further hfirst =>
      rw [Gap.addBreak, hkept]
      exact .newLine first (c :: further) hfirst
  | false =>
    rw [if_neg Bool.false_ne_true, List.append_assoc]
    by_cases hblank : c = ' '
    · subst hblank
      cases h with
      | inside h => exact ⟨_, _, _, singleQuoted_space rest, .inside h.blank⟩
      | newLine => exact absurd rfl (hbreak rfl)
    · obtain ⟨position', hcolumn, hindentation⟩ :=
        h.indentation ((if c = '\'' then ['\'', '\''] else [c]) ++ rest)
      obtain ⟨count, hchar⟩ := singleQuoted_char seen gap hc (isBlank_eq_false hprint hblank)
        hcolumn rest
      refine ⟨_, _, _, hindentation.trans hchar, .inside ⟨?_, rfl, .inl rfl, ?_⟩⟩
      · exact congrArg (c :: ·) h.text_eq
      · exact fun he => hcolumn (Nat.eq_zero_of_add_eq_zero_right he)

theorem singleQuoted_text (h : StandsAt afterBreak consumed seen gap position)
    (htext : ∀ c ∈ text, isPrintable c = true ∧ c ≠ '\n')
    (hspace : consumed.head? = some ' ' → ∀ c ∈ text.head?, isBreak c = false)
    (hbreak : afterBreak = true → ' ' ∉ text.head?)
    (hspaces : hasPair (fun c d => c == ' ' && isBreak d) text = false)
    (hbreaks : hasPair (fun c d => isBreak c && d == ' ') text = false)
    (hrest : rest.head? ≠ some '\'') :
    ∃ after, singleQuoted seen gap position (quoteSingle afterBreak text ++ '\'' :: rest) =
      some ⟨consumed.reverse ++ text, false, rest, after⟩ := by
  induction text generalizing afterBreak consumed seen gap position with
  | nil =>
    obtain ⟨position', hcolumn, hindentation⟩ := h.indentation ('\'' :: rest)
    refine ⟨position'.next, ?_⟩
    rw [quoteSingle, hindentation, singleQuoted_close hcolumn hrest, h.text_eq, List.append_nil]
  | cons c text ih =>
    obtain ⟨⟨hprint, hfeed⟩, htext⟩ := List.forall_mem_cons.mp htext
    obtain ⟨hafterSpace, hspaces⟩ := hasPair_cons hspaces
    obtain ⟨hafterBreak, hbreaks⟩ := hasPair_cons hbreaks
    obtain ⟨seen', gap', position', hread, hstands⟩ := h.step hprint hfeed
      (fun he => hspace he c rfl) (fun he hc => hbreak he (congrArg some hc))
      (quoteSingle (isBreak c) text ++ '\'' :: rest)
    have hspace : (c :: consumed).head? = some ' ' → ∀ d ∈ text.head?, isBreak d = false := by
      intro hc d hd
      simpa [Option.some.inj hc] using hafterSpace d hd
    have hbreak : isBreak c = true → ' ' ∉ text.head? := by
      intro hc hmem
      have h := hafterBreak ' ' hmem
      rw [hc] at h
      cases h
    obtain ⟨after, hrest⟩ := ih hstands htext hspace hbreak hspaces hbreaks
    refine ⟨after, ?_⟩
    rw [quoteSingle_cons, List.append_assoc, hread, hrest, List.reverse_cons, List.append_assoc]
    rfl

theorem canBeSingleQuoted_eq_true (h : canBeSingleQuoted text = true) :
    hasPair (fun c d => isBreak c && d == ' ') text = false ∧
      hasPair (fun c d => c == ' ' && isBreak d) text = false ∧
        ∀ c ∈ text, isPrintable c = true := by
  rwa [canBeSingleQuoted, Bool.not_eq_true', Bool.or_eq_false_iff, needsEscapes_eq_false_iff] at h

theorem singleQuoted_written (htext : canBeSingleQuoted text = true) (hfeed : '\n' ∉ text)
    (hcolumn : position.column ≠ 0) (hrest : rest.head? ≠ some '\'') :
    ∃ after, singleQuoted [] .none position (quoteSingle false text ++ '\'' :: rest) =
      some ⟨text, false, rest, after⟩ := by
  obtain ⟨hbreaks, hspaces, hprint⟩ := canBeSingleQuoted_eq_true htext
  exact singleQuoted_text (.inside (.start hcolumn))
    (fun c hc => ⟨hprint c hc, fun he => hfeed (he ▸ hc)⟩) nofun nofun hspaces hbreaks hrest

end TypedClient.Yaml
