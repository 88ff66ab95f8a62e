import TypedClient.Proofs.Yaml.Characters

namespace TypedClient.Yaml

/-- Where the reader of a block stands after some text, which is given last character first: inside
a line, or before the indentation of the next. -/
inductive BlockAt : Bool → List Char → BlockPlace → BlockText → Position → Prop
  | line {consumed : List Char} {startsBlank : Bool} {position : Position} :
    BlockAt false consumed .line ⟨consumed, none, [], startsBlank⟩ position
  | newLine {consumed : List Char} {read : BlockText} {position : Position}
    (htext : read.emptyLines ++ (read.lastBreak.toList ++ read.seen) = consumed)
    (hcolumn : position.column = 0) : BlockAt true consumed (.indentation 0) read position

variable {c : Char} {text rest consumed : List Char} {place : BlockPlace} {read : BlockText}
  {position : Position} {afterBreak : Bool} {head : BlockHead} {indent : Option Nat}

def endsLine (afterBreak : Bool) : List Char → Bool
  | [] => afterBreak
  | c :: text => endsLine (isBreak c) text

theorem endsLine_concat (afterBreak : Bool) (text : List Char) (c : Char) :
    endsLine afterBreak (text ++ [c]) = isBreak c := by
  induction text generalizing afterBreak with
  | nil => rfl
  | cons d text ih => exact ih (isBreak d)

def blockWritten (afterBreak : Bool) (c : Char) : List Char :=
  if isBreak c then [c] else (if afterBreak then indentation else []) ++ [c]

theorem blockBody_cons (afterBreak : Bool) (c : Char) (text : List Char) :
    blockBody afterBreak (c :: text) = blockWritten afterBreak c ++ blockBody (isBreak c) text := by
  rw [blockBody, blockWritten]
  cases isBreak c <;> simp

theorem isAllowed_blockBody (h : ∀ c ∈ text, isPrintable c = true) :
    ∀ d ∈ blockBody afterBreak text, isAllowed d = true := by
  induction text generalizing afterBreak with
  | nil => nofun
  | cons c text ih =>
    obtain ⟨hc, htext⟩ := List.forall_mem_cons.mp h
    have hplain : ∀ d ∈ [c], isAllowed d = true := by
      simpa using isAllowed_of_isPrintable hc
    rw [blockBody_cons, blockWritten, List.forall_mem_append]
    refine ⟨?_, ih htext⟩
    split
    · exact hplain
    · rw [List.forall_mem_append]
      exact ⟨isAllowed_indentation afterBreak, hplain⟩

theorem blockBody_append (afterBreak : Bool) (text rest : List Char) :
    blockBody afterBreak (text ++ rest) =
      blockBody afterBreak text ++ blockBody (endsLine afterBreak text) rest := by
  induction text generalizing afterBreak with
  | nil => rfl
  | cons c text ih =>
    rw [List.cons_append, blockBody_cons, blockBody_cons, ih, List.append_assoc]
    rfl

theorem blockLines_begin (hprint : isPrintable c = true) (hbreak : isBreak c = false)
    (hindent : indent = some 2 ∨ indent = none ∧ c ≠ ' ') (hcolumn : position.column = 0)
    (rest : List Char) :
    blockLines head 1 indent (.indentation 0) read position (indentation ++ c :: rest) =
      blockLines head 1 (some 2) .line
        { read.beginLine head.literal (isBlank c) with
          seen := c :: (read.beginLine head.literal (isBlank c)).seen }
        (position.along 3) rest := by
  have hreturn : c ≠ '\r' := ne_of_isPrintable hprint (by decide)
  have htab : c ≠ '\t' := ne_of_isPrintable hprint (by decide)
  have hspace : ∀ widest (position : Position) rest, position.column < 2 →
      blockLines head 1 indent (.indentation widest) read position (' ' :: rest) =
        blockLines head 1 indent (.indentation (max widest (position.column + 1))) read
          position.next rest := by
    intro widest position rest hless
    rw [blockLines.eq_5 head 1 indent read position ' ' rest widest nofun, if_pos]
    rcases hindent with rfl | ⟨rfl, -⟩
    · simpa using hless
    · rfl
  have hnotSpace : (decide (c = ' ') && indent.all (2 < ·)) = false := by
    rcases hindent with rfl | ⟨rfl, hne⟩
    · simp
    · simp [hne]
  have hsettled : settleIndent 1 indent 2 = 2 := by
    rcases hindent with rfl | ⟨rfl, -⟩ <;> rfl
  obtain ⟨line, column, offset⟩ := position
  obtain rfl : column = 0 := hcolumn
  show blockLines head 1 indent (.indentation 0) read _ (' ' :: ' ' :: c :: rest) = _
  rw [hspace 0 _ _ (by decide : (0 : Nat) < 2), hspace _ _ _ (by decide : (1 : Nat) < 2)]
  show blockLines head 1 indent (.indentation 2) read ⟨line, 2, offset + 2⟩ (c :: rest) = _
  rw [blockLines.eq_5 head 1 indent read _ c rest 2 (fun _ he _ => hreturn he), hnotSpace,
    if_neg Bool.false_ne_true, if_neg (by simp [htab]), hbreak, if_neg Bool.false_ne_true, hsettled,
    if_pos rfl]
  rfl

theorem blockLines_break (hreturn : c ≠ '\r') (hbreak : isBreak c = true) (consumed : List Char)
    (startsBlank : Bool) (position : Position) (rest : List Char) :
    blockLines head 1 indent .line ⟨consumed, none, [], startsBlank⟩ position (c :: rest) =
      blockLines head 1 indent (.indentation 0) ⟨consumed, some (breakChar c), [], startsBlank⟩
        (position.nextLine 1) rest := by
  rw [blockLines.eq_4 head 1 indent _ position c rest (fun _ he _ => hreturn he), if_pos hbreak]

theorem blockLines_char (hreturn : c ≠ '\r') (hbreak : isBreak c = false) (consumed : List Char)
    (startsBlank : Bool) (position : Position) (rest : List Char) :
    blockLines head 1 indent .line ⟨consumed, none, [], startsBlank⟩ position (c :: rest) =
      blockLines head 1 indent .line ⟨c :: consumed, none, [], startsBlank⟩ position.next rest := by
  rw [blockLines.eq_4 head 1 indent _ position c rest (fun _ he _ => hreturn he), hbreak,
    if_neg Bool.false_ne_true]

theorem BlockAt.step (h : BlockAt afterBreak consumed place read position)
    (hliteral : head.literal = true) (hprint : isPrintable c = true) (rest : List Char) :
    ∃ place' read' position',
      blockLines head 1 (some 2) place read position (blockWritten afterBreak c ++ rest) =
        blockLines head 1 (some 2) place' read' position' rest ∧
      BlockAt (isBreak c) (c :: consumed) place' read' position' := by
  have hreturn : c ≠ '\r' := ne_of_isPrintable hprint (by decide)
  unfold blockWritten
  cases hc : isBreak c with
  | true =>
    have hkept := breakChar_eq hprint hc
    cases h with
    | line =>
      refine ⟨_, _, _, blockLines_break hreturn hc _ _ _ rest, ?_⟩
      rw [hkept]
      exact .newLine rfl rfl
    | newLine htext hcolumn =>
      have hspace : c ≠ ' ' := by
        rintro rfl
        cases hc
      have htab : c ≠ '\t' := ne_of_isPrintable hprint (by decide)
      refine ⟨.indentation 0, { read with emptyLines := c :: read.emptyLines },
        position.nextLine 1, ?_, .newLine (congrArg (c :: ·) htext) rfl⟩
      show blockLines head 1 (some 2) (.indentation 0) read position (c :: rest) = _
      rw [blockLines.eq_5 head 1 (some 2) read position c rest 0 (fun _ he _ => hreturn he),
        if_neg (by simp [hspace]), if_neg (by simp [htab]), if_pos hc, hkept]
  | false =>
    cases h with
    | line => exact ⟨_, _, _, blockLines_char hreturn hc _ _ _ rest, .line⟩
    | newLine htext hcolumn =>
      have hread : read.beginLine true (isBlank c) = ⟨consumed, none, [], isBlank c⟩ := by
        simp [BlockText.beginLine, ← htext]
      refine ⟨_, _, _, blockLines_begin hprint hc (.inl rfl) hcolumn rest, ?_⟩
      rw [hliteral, hread]
      exact .line

theorem BlockAt.run (h : BlockAt afterBreak consumed place read position)
    (hliteral : head.literal = true) (htext : ∀ c ∈ text, isPrintable c = true)
    (rest : List Char) : ∃ place' read' position',
      blockLines head 1 (some 2) place read position (blockBody afterBreak text ++ rest) =
        blockLines head 1 (some 2) place' read' position' rest ∧
      BlockAt (endsLine afterBreak text) (text.reverse ++ consumed) place' read' position' := by
  induction text generalizing afterBreak consumed place read position with
  | nil => exact ⟨place, read, position, rfl, h⟩
  | cons c text ih =>
    obtain ⟨hprint, htext⟩ := List.forall_mem_cons.mp htext
    obtain ⟨place', read', position', hread, hat⟩ :=
      h.step hliteral hprint (blockBody (isBreak c) text ++ rest)
    obtain ⟨place'', read'', position'', hread', hat'⟩ := ih hat htext
    refine ⟨place'', read'', position'', ?_, ?_⟩
    · rw [blockBody_cons, List.append_assoc, hread, hread']
    · rwa [List.reverse_cons, List.append_assoc]

theorem blockLines_end (hcolumn : position.column = 0) (hrest : AtEntry rest) :
    blockLines head 1 (some 2) (.indentation 0) read position rest =
      some ⟨read.finish head.chomping, false, rest, position⟩ := by
  cases rest with
  | nil => rfl
  | cons c rest =>
    obtain ⟨hprint, hbreak, hblank, -⟩ := nameChar_facts c (hrest c rfl)
    have hreturn : c ≠ '\r' := ne_of_isPrintable hprint (by decide)
    obtain ⟨hspace, htab⟩ := isBlank_eq_false_iff.mp hblank
    rw [blockLines.eq_5 head 1 (some 2) read position c rest 0 (fun _ he _ => hreturn he),
      if_neg (by simp [hspace]), if_neg (by simp [htab]), hbreak, if_neg Bool.false_ne_true]
    exact if_neg (by simp [hcolumn, settleIndent])

theorem BlockAt.finish_line (h : BlockAt false consumed place read position)
    (hprint : isPrintable c = true) (hbreak : isBreak c = true) (hrest : AtEntry rest) :
    ∃ after, after.column = 0 ∧ blockLines head 1 (some 2) place read position (c :: rest) =
      some ⟨match head.chomping with
        | .strip => consumed.reverse
        | _ => (c :: consumed).reverse, false, rest, after⟩ := by
  cases h with
  | line =>
    refine ⟨position.nextLine 1, rfl, ?_⟩
    rw [blockLines_break (ne_of_isPrintable hprint (by decide)) hbreak,
      blockLines_end rfl hrest, breakChar_eq hprint hbreak]
    cases head.chomping <;> rfl

theorem BlockAt.finish_keep (h : BlockAt true consumed place read position)
    (hkeep : head.chomping = .keep) (hrest : AtEntry rest) :
    ∃ after, after.column = 0 ∧ blockLines head 1 (some 2) place read position rest =
      some ⟨consumed.reverse, false, rest, after⟩ := by
  cases h with
  | newLine htext hcolumn =>
    refine ⟨position, hcolumn, ?_⟩
    rw [blockLines_end hcolumn hrest, hkeep, BlockText.finish, List.append_assoc, htext]

def chompingOf : List Char → Chomping
  | [] => .strip
  | last :: before =>
    if !isBreak last then .strip else if before.head?.all isBreak then .keep else .clip

def needsDepth (text : List Char) : Bool := text.head?.any fun c => c == ' ' || isBreak c

def chompingSign : Chomping → List Char
  | .strip => ['-']
  | .clip => []
  | .keep => ['+']

theorem headSigns_eq (text : List Char) : headSigns text =
    (if needsDepth text then ['2'] else []) ++ chompingSign (chompingOf text.reverse) := by
  unfold headSigns needsDepth
  dsimp only
  congr 1
  · cases text <;> rfl
  · cases text.reverse with
    | nil => rfl
    | cons last before =>
      rw [chompingOf]
      dsimp only
      cases isBreak last with
      | false => rfl
      | true =>
        cases before with
        | nil => rfl
        | cons c before =>
          rw [List.head?_cons, Option.all_some]
          dsimp only
          cases isBreak c <;> rfl

theorem isAllowed_headSigns (text : List Char) : ∀ d ∈ headSigns text, isAllowed d = true := by
  rw [headSigns_eq]
  apply List.all_eq_true.mp
  cases needsDepth text <;> cases chompingOf text.reverse <;> decide

theorem blockSigns_headSigns (text rest : List Char) :
    blockSigns (headSigns text ++ '\n' :: rest) =
      some (chompingOf text.reverse, if needsDepth text then some 2 else none, '\n' :: rest) := by
  rw [headSigns_eq]
  cases needsDepth text <;> cases chompingOf text.reverse <;> rfl

theorem block_head {signs : List Char} {chomping : Chomping} {increment : Option Nat}
    (hsigns : blockSigns (signs ++ '\n' :: rest) = some (chomping, increment, '\n' :: rest))
    (position : Position) : ∃ after, after.column = 0 ∧
      block true 0 ⟨signs ++ '\n' :: rest, position⟩ =
        blockLines ⟨true, chomping, increment⟩ 1 (increment.map (0 + ·)) (.indentation 0) .empty
          after rest := by
  rw [block, hsigns]
  exact ⟨Position.nextLine _ 1, rfl, rfl⟩

theorem blockLines_first (hprint : ∀ c ∈ text, isPrintable c = true) (hne : text ≠ [])
    (hcolumn : position.column = 0) (rest : List Char) :
    blockLines head 1 ((if needsDepth text then some 2 else none).map (0 + ·)) (.indentation 0) read
        position (blockBody true text ++ rest) =
      blockLines head 1 (some 2) (.indentation 0) read position (blockBody true text ++ rest) := by
  obtain ⟨c, text, rfl⟩ := List.exists_cons_of_ne_nil hne
  cases hdepth : needsDepth (c :: text) with
  | true => rfl
  | false =>
    have hc : c ≠ ' ' ∧ isBreak c = false := by simpa [needsDepth] using hdepth
    have hwritten : blockBody true (c :: text) ++ rest =
        indentation ++ c :: (blockBody false text ++ rest) := by
      rw [blockBody, hc.2]
      simp
    have hprint := hprint c List.mem_cons_self
    rw [hwritten, if_neg Bool.false_ne_true, Option.map_none,
      blockLines_begin hprint hc.2 (.inr ⟨rfl, hc.1⟩) hcolumn,
      blockLines_begin hprint hc.2 (.inl rfl) hcolumn]

def blockEnding (text : List Char) : List Char := if text.getLast?.any isBreak then [] else ['\n']

theorem exists_concat (hne : text ≠ []) : ∃ before last, text = before ++ [last] :=
  ⟨_, _, (List.dropLast_concat_getLast hne).symm⟩

theorem blockLines_text {before : List Char} {last : Char}
    (hprint : ∀ c ∈ before ++ [last], isPrintable c = true) (hliteral : head.literal = true)
    (hchomping : head.chomping = chompingOf (last :: before.reverse)) (hrest : AtEntry rest)
    (hcolumn : position.column = 0) : ∃ after, after.column = 0 ∧
      blockLines head 1 (some 2) (.indentation 0) .empty position
          (blockBody true (before ++ [last]) ++ (blockEnding (before ++ [last]) ++ rest)) =
        some ⟨before ++ [last], false, rest, after⟩ := by
  have hstart : BlockAt true [] (.indentation 0) .empty position := .newLine rfl hcolumn
  have hreverse : ((before ++ [last]).reverse ++ []).reverse = before ++ [last] := by simp
  rw [blockEnding, List.getLast?_concat, Option.any_some]
  rw [chompingOf] at hchomping
  cases hbreak : isBreak last with
  | false =>
    rw [hbreak, Bool.not_false, if_pos rfl] at hchomping
    obtain ⟨place, read, position', hread, hat⟩ := hstart.run hliteral hprint ('\n' :: rest)
    rw [endsLine_concat, hbreak] at hat
    obtain ⟨after, hcolumn', hend⟩ :=
      hat.finish_line (by decide : isPrintable '\n' = true) (by decide) hrest
    refine ⟨after, hcolumn', ?_⟩
    rw [hchomping, hreverse] at hend
    exact hread.trans hend
  | true =>
    rw [hbreak, Bool.not_true, if_neg Bool.false_ne_true] at hchomping
    rw [if_pos rfl, List.nil_append]
    cases hkeep : before.reverse.head?.all isBreak with
    | true =>
      rw [hkeep, if_pos rfl] at hchomping
      obtain ⟨place, read, position', hread, hat⟩ := hstart.run hliteral hprint rest
      rw [endsLine_concat, hbreak] at hat
      obtain ⟨after, hcolumn', hend⟩ := hat.finish_keep hchomping hrest
      refine ⟨after, hcolumn', ?_⟩
      rw [hreverse] at hend
      exact hread.trans hend
    | false =>
      rw [hkeep, if_neg Bool.false_ne_true] at hchomping
      obtain ⟨hprint, hlast⟩ := List.forall_mem_append.mp hprint
      -- the last break is the one that the reader keeps for the line before it
      have hwritten : blockBody true (before ++ [last]) ++ rest =
          blockBody true before ++ last :: rest := by
        rw [blockBody_append, List.append_assoc, blockBody, if_pos hbreak]
        rfl
      have hline : endsLine true before = false := by
        by_cases hne : before = []
        · subst hne
          cases hkeep
        · obtain ⟨front, c, rfl⟩ := exists_concat hne
          rw [endsLine_concat]
          simpa using hkeep
      obtain ⟨place, read, position', hread, hat⟩ := hstart.run hliteral hprint (last :: rest)
      rw [hline] at hat
      obtain ⟨after, hcolumn', hend⟩ := hat.finish_line (hlast last (by simp)) hbreak hrest
      refine ⟨after, hcolumn', ?_⟩
      rw [hchomping, List.append_nil, List.reverse_cons, List.reverse_reverse] at hend
      rw [hwritten]
      exact hread.trans hend

theorem isPrintable_of_canBeBlock (h : canBeBlock text = true) :
    ∀ c ∈ text, isPrintable c = true := by
  rw [canBeBlock, Bool.not_eq_true', Bool.or_eq_false_iff, needsEscapes_eq_false_iff] at h
  exact h.2.2

theorem block_text (htext : canBeBlock text = true) (hne : text ≠ []) (hrest : AtEntry rest)
    (position : Position) : ∃ after, after.column = 0 ∧
      block true 0 ⟨headSigns text ++ '\n' :: (blockBody true text ++ (blockEnding text ++ rest)),
        position⟩ = some ⟨text, false, rest, after⟩ := by
  have hprint := isPrintable_of_canBeBlock htext
  obtain ⟨start, hcolumn, hblock⟩ :=
    block_head (blockSigns_headSigns text (blockBody true text ++ (blockEnding text ++ rest)))
      position
  rw [hblock, blockLines_first hprint hne hcolumn]
  obtain ⟨before, last, rfl⟩ := exists_concat hne
  have hchomping : chompingOf (before ++ [last]).reverse = chompingOf (last :: before.reverse) := by
    rw [List.reverse_concat]
  rw [hchomping]
  exact blockLines_text hprint rfl rfl hrest hcolumn

end TypedClient.Yaml
