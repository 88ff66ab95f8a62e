import TypedClient.Proofs.Yaml.Keys

namespace TypedClient.Yaml

open Config (IsName nameChars)

variable {c : Char} {text rest name written : List Char} {isPlain : Bool} {position : Position}

inductive IsScalar : List Char → Bool → List Char → Prop
  | plain {text : List Char} (htext : canBePlain text = true) (hne : text ≠ []) :
    IsScalar (text ++ ['\n']) true text
  | singleQuoted {text : List Char} (htext : canBeSingleQuoted text = true) (hfeed : '\n' ∉ text) :
    IsScalar ('\'' :: (quoteSingle false text ++ ['\'', '\n'])) false text
  | doubleQuoted (text : List Char) :
    IsScalar ('"' :: (text.flatMap quoteDouble ++ ['"', '\n'])) false text
  | block {text : List Char} (htext : canBeBlock text = true) (hne : text ≠ []) :
    IsScalar ('|' :: (headSigns text ++ '\n' :: (blockBody true text ++ blockEnding text))) false
      text

theorem canBePlain_eq_true (h : canBePlain text = true) : hasMark true true text = false ∧
    text.head? ≠ some ' ' ∧ text.getLast? ≠ some ' ' ∧
      ∀ c ∈ text, isPrintable c = true ∧ isBreak c = false := by
  simp only [canBePlain, Bool.not_eq_true', Bool.or_eq_false_iff, beq_eq_false_iff_ne,
    List.any_eq_false, Bool.not_eq_true, needsEscapes_eq_false_iff] at h
  obtain ⟨⟨⟨⟨⟨⟨hmark, -⟩, -⟩, hhead⟩, hlast⟩, hbreak⟩, -, hprint⟩ := h
  exact ⟨hmark, hhead, hlast, fun c hc => ⟨hprint c hc, hbreak c hc⟩⟩

theorem hasMark_start (h : hasMark true true (c :: text) = false) :
    isMark true true c text = false := by
  rw [hasMark, Bool.or_eq_false_iff] at h
  exact h.1

theorem hasMark_inside (h : hasMark true true text = false) : hasMark false false text = false := by
  cases text with
  | nil => rfl
  | cons c text =>
    rw [hasMark, Bool.or_eq_false_iff, isMark, if_pos rfl, Bool.or_eq_false_iff,
      Bool.and_eq_false_imp] at h
    obtain ⟨⟨-, hmark⟩, htext⟩ := h
    rw [hasMark, htext, Bool.or_false, isMark, if_neg Bool.false_ne_true, Bool.and_false,
      Bool.or_false, Bool.and_eq_false_imp]
    intro hcolon
    exact hmark (by rw [hcolon]; simp)

theorem IsScalar.isAllowed (h : IsScalar written isPlain text) :
    ∀ c ∈ written, Yaml.isAllowed c = true := by
  cases h with
  | plain htext =>
    obtain ⟨-, -, -, hchars⟩ := canBePlain_eq_true htext
    rw [List.forall_mem_append]
    exact ⟨fun c hc => isAllowed_of_isPrintable (hchars c hc).1,
      List.forall_mem_singleton.mpr rfl⟩
  | singleQuoted htext =>
    obtain ⟨-, -, hprint⟩ := canBeSingleQuoted_eq_true htext
    rw [List.forall_mem_cons, List.forall_mem_append]
    exact ⟨by decide, isAllowed_quoteSingle hprint, List.all_eq_true.mp (by decide)⟩
  | doubleQuoted =>
    rw [List.forall_mem_cons, List.forall_mem_append]
    refine ⟨by decide, ?_, List.all_eq_true.mp (by decide)⟩
    intro d hd
    obtain ⟨c, -, hd⟩ := List.mem_flatMap.mp hd
    exact (isDoubleQuoted_quoteDouble c).isAllowed d hd
  | block htext =>
    have hprint := isPrintable_of_canBeBlock htext
    rw [List.forall_mem_cons, List.forall_mem_append, List.forall_mem_cons, List.forall_mem_append]
    refine ⟨by decide, isAllowed_headSigns text, by decide, isAllowed_blockBody hprint, ?_⟩
    rw [blockEnding]
    apply List.all_eq_true.mp
    split <;> decide

namespace Scanner

variable {s s' : Scanner} {found : List Token} {limit : Nat}

theorem takeToken_quote {mark : Char} (hmark : mark ∈ ['\'', '"', '|'])
    (hflow : s.outerKeyPlaces = []) (rest : List Char) :
    s.takeToken mark rest =
      if mark = '|' then s.takeBlockScalar true
      else if mark = '\'' then
        s.takeScalar false (singleQuoted [] .none s.cursor.position.next rest)
      else s.takeScalar false (doubleQuoted [] .none s.cursor.position.next rest) := by
  have hdash : atDocumentMark s.cursor.position '-' (mark :: rest) = false :=
    atDocumentMark_eq_false (.inr fun he => absurd (he ▸ hmark) (by decide)) rest
  have hpoint : atDocumentMark s.cursor.position '.' (mark :: rest) = false :=
    atDocumentMark_eq_false (.inr fun he => absurd (he ▸ hmark) (by decide)) rest
  have hflow : s.inFlow = false := by rw [inFlow, hflow]; rfl
  unfold takeToken
  simp only [hdash, hpoint, hflow]
  simp only [List.mem_cons, List.not_mem_nil, or_false] at hmark
  rcases hmark with rfl | rfl | rfl <;> simp

theorem toNextToken_between {isOpen keyAllowed keyAllowed' : Bool} {position' : Position}
    {rest' : List Char} (h : skipFiller false false keyAllowed position rest =
      (⟨rest', position'⟩, keyAllowed')) :
    (between found isOpen keyAllowed position rest).toNextToken =
      between found isOpen keyAllowed' position' rest' := by
  have hskip : skipFiller (between found isOpen keyAllowed position rest).inFlow false keyAllowed
      position rest = (⟨rest', position'⟩, keyAllowed') := h
  unfold toNextToken
  simp only [between] at hskip ⊢
  rw [hskip]

theorem toNextToken_lineEnd (hrest : AtEntry rest) (position : Position) :
    (between found true false position ('\n' :: rest)).toNextToken =
      between found true true (position.nextLine 1) rest := by
  apply toNextToken_between
  rw [skipFiller.eq_3 false false false position '\n' rest fun _ he _ => absurd he (by decide),
    if_pos (by decide)]
  exact skipFiller_entry hrest true (position.nextLine 1)

theorem takeBlockScalar_eq {literal : Bool} {read : ScalarRead} (hkey : s.keyPlace = none)
    (hread : block literal s.indent (s.cursor.drop 1) = some read) :
    s.takeBlockScalar literal =
      some { s.push (.scalar false (String.ofList read.text)) with
        cursor := read.cursor, keyAllowed := true } := by
  rw [takeBlockScalar, dropKeyPlace, hkey]
  simp only [Option.bind_eq_bind, Option.bind_some, hread]
  rfl

theorem run_space (hbreak : isBreak c = false) (hblank : isBlank c = false) (hcomment : c ≠ '#')
    (found : List Token) (position : Position) (rest : List Char) (limit : Nat) :
    run (limit + 1) (between found true false position (' ' :: c :: rest)) =
      ((between found true false position.next (c :: rest)).takeToken c rest).bind (run limit) := by
  have hskip : skipFiller false false false position (' ' :: c :: rest) =
      (⟨c :: rest, position.next⟩, false) := by
    rw [skipFiller.eq_3 false false false position ' ' _ fun _ he _ => absurd he (by decide)]
    exact skipFiller_cons hbreak hblank hcomment (.inl (Nat.succ_ne_zero position.column)) false
      rest
  have hnext : (between found true false position (' ' :: c :: rest)).toNextToken =
      between found true false position.next (c :: rest) := toNextToken_between hskip
  rw [run_succ (by rw [hnext]; rfl) (indent_between found true false position.next (c :: rest)) rfl]

theorem run_scalar (h : IsScalar written isPlain text) (hrest : AtEntry rest) (found : List Token)
    (position : Position) (limit : Nat) : ∃ s' after,
      run (limit + 1) (between found true false position (' ' :: (written ++ rest))) =
        run limit s' ∧
      s'.toNextToken =
        between (.scalar isPlain (String.ofList text) :: found) true true after rest ∧
      after.column = 0 := by
  have hcolumn : position.next.column ≠ 0 := Nat.succ_ne_zero position.column
  cases h with
  | plain htext hne =>
    obtain ⟨hmark, hhead, hlast, hchars⟩ := canBePlain_eq_true htext
    obtain ⟨after, hafter, hread⟩ :=
      plain_line hcolumn hchars (hasMark_inside hmark) hlast hne hrest
    obtain ⟨c, text, rfl⟩ := List.exists_cons_of_ne_nil hne
    obtain ⟨hprint, hbreak⟩ := hchars c List.mem_cons_self
    have hspace : c ≠ ' ' := fun he => hhead (congrArg some he)
    have hstart := hasMark_start hmark
    have hcomment : c ≠ '#' := ne_of_isMark hstart '#' (by decide)
    refine ⟨_, after, ?_, toNextToken_between (skipFiller_entry hrest true after), hafter⟩
    rw [List.append_assoc, List.cons_append, run_space hbreak (isBlank_eq_false hprint hspace)
      hcomment, takeToken_plain rfl hprint hbreak hspace hstart (.inl hcolumn)]
    exact congrArg (fun read => (takeScalar _ true read).bind (run limit)) hread
  | singleQuoted htext hfeed =>
    have hinside : position.next.next.column ≠ 0 := Nat.succ_ne_zero position.next.column
    obtain ⟨after, hread⟩ := singleQuoted_written htext hfeed hinside
      (nofun : ('\n' :: rest).head? ≠ some '\'')
    refine ⟨_, _, ?_, toNextToken_lineEnd hrest after, rfl⟩
    rw [List.cons_append, List.append_assoc, run_space (by decide) (by decide) (by decide),
      takeToken_quote (by decide) rfl, if_neg (by decide), if_pos rfl]
    exact congrArg (fun read => (takeScalar _ false read).bind (run limit)) hread
  | doubleQuoted =>
    have hinside : position.next.next.column ≠ 0 := Nat.succ_ne_zero position.next.column
    obtain ⟨after, hread⟩ := doubleQuoted_text (.start hinside) text ('\n' :: rest)
    refine ⟨_, _, ?_, toNextToken_lineEnd hrest after, rfl⟩
    rw [List.cons_append, List.append_assoc, run_space (by decide) (by decide) (by decide),
      takeToken_quote (by decide) rfl, if_neg (by decide), if_neg (by decide)]
    exact congrArg (fun read => (takeScalar _ false read).bind (run limit)) hread
  | block htext hne =>
    obtain ⟨after, hafter, hread⟩ := block_text htext hne hrest (position.next.along 1)
    have hblock := takeBlockScalar_eq (s := between found true false position.next
      ('|' :: (headSigns text ++ '\n' :: (blockBody true text ++ (blockEnding text ++ rest)))))
      rfl hread
    refine ⟨_, after, ?_, toNextToken_between (skipFiller_entry hrest true after), hafter⟩
    rw [List.cons_append, List.append_assoc, List.cons_append, List.append_assoc,
      run_space (by decide) (by decide) (by decide), takeToken_quote (by decide) rfl, if_pos rfl]
    exact congrArg (Option.bind · (run limit)) hblock

theorem run_entry (hname : IsName name) (hlength : name.length ≤ longestKey)
    (h : IsScalar written isPlain text) (hrest : AtEntry rest) (hcolumn : position.column = 0)
    {isOpen : Bool} (hnext : s.toNextToken =
      between found isOpen true position (name ++ ':' :: ' ' :: (written ++ rest))) (limit : Nat) :
    ∃ s' after, run (limit + 3) s = run limit s' ∧
      s'.toNextToken = between (.scalar isPlain (String.ofList text) :: .value ::
        .scalar true (String.ofList name) :: .key :: opened found isOpen) true true after rest ∧
      after.column = 0 := by
  obtain ⟨s', after, hvalue, hafter⟩ := run_scalar h hrest
    (.value :: .scalar true (String.ofList name) :: .key :: opened found isOpen)
    (position.along name.length).next limit
  refine ⟨s', after, ?_, hafter⟩
  rw [run_name hname hcolumn hnext (limit + 2), run_colon hname hlength hcolumn, hvalue]

theorem run_end (hnext : s.toNextToken = between found true true position []) (limit : Nat) :
    run (limit + 1) s = some (found.reverse ++ [.blockEnd]) := by
  rw [run, hnext, dropStaleKeys_between, Option.bind_eq_bind, Option.bind_some]
  simp only
  rw [unindent_eq_self _ (indent_between found true true position [])]
  exact congrArg some List.reverse_cons

end Scanner

structure Line where
  name : List Char
  written : List Char
  isPlain : Bool
  text : List Char
  isName : IsName name
  length_name_le : name.length ≤ Scanner.longestKey
  isScalar : IsScalar written isPlain text

namespace Line

def chars (line : Line) : List Char := line.name ++ ':' :: ' ' :: line.written

def tokens (line : Line) : List Token := [
  .key, .scalar true (String.ofList line.name), .value,
  .scalar line.isPlain (String.ofList line.text)]

theorem atEntry (lines : List Line) : AtEntry (lines.flatMap chars) := by
  cases lines with
  | nil => nofun
  | cons line lines =>
    obtain ⟨c, rest, hname, hc, -⟩ := line.isName.exists_cons
    rw [List.flatMap_cons, chars, hname]
    intro d hd
    cases hd
    exact hc

theorem three_mul_length_le (lines : List Line) :
    3 * lines.length ≤ (lines.flatMap chars).length := by
  induction lines with
  | nil => exact Nat.le_refl 0
  | cons line lines ih =>
    have hname := List.length_pos_iff.mpr line.isName.1
    rw [List.flatMap_cons, chars]
    simp only [List.length_append, List.length_cons]
    omega

theorem isAllowed (line : Line) : ∀ c ∈ line.chars, Yaml.isAllowed c = true := by
  intro c hc
  rw [chars, List.mem_append, List.mem_cons, List.mem_cons] at hc
  rcases hc with hc | rfl | rfl | hc
  · exact isAllowed_of_isPrintable (nameChar_facts c (line.isName.2 c hc)).1
  · decide
  · decide
  · exact line.isScalar.isAllowed c hc

end Line

theorem Scanner.run_lines {lines : List Line} {s : Scanner} {found : List Token} {isOpen : Bool}
    {limit : Nat} (hne : isOpen = true ∨ lines ≠ []) (hcolumn : position.column = 0)
    (hnext : s.toNextToken = between found isOpen true position (lines.flatMap Line.chars))
    (hlimit : 3 * lines.length < limit) :
    run limit s =
      some ((opened found isOpen).reverse ++ (lines.flatMap Line.tokens ++ [.blockEnd])) := by
  -- the first line opens the mapping, so an empty rest is met with the mapping open
  induction lines generalizing s found isOpen position limit with
  | nil =>
    obtain ⟨limit, rfl⟩ := Nat.exists_eq_succ_of_ne_zero (Nat.ne_zero_of_lt hlimit)
    obtain rfl : isOpen = true := hne.resolve_right fun h => h rfl
    exact run_end hnext limit
  | cons line lines ih =>
    obtain ⟨limit, rfl⟩ : ∃ fewer, limit = fewer + 3 := Nat.exists_eq_add_of_le' (by
      rw [List.length_cons] at hlimit
      omega)
    rw [List.flatMap_cons, Line.chars, List.append_assoc] at hnext
    obtain ⟨s', after, hentry, hnext', hcolumn'⟩ := run_entry line.isName line.length_name_le
      line.isScalar (Line.atEntry lines) hcolumn hnext limit
    rw [hentry, ih (.inl rfl) hcolumn' hnext' (by rw [List.length_cons] at hlimit; omega)]
    simp [opened, Line.tokens]

theorem tokens_lines {lines : List Line} (hne : lines ≠ []) :
    tokens (lines.flatMap Line.chars) =
      some (.blockMapping :: (lines.flatMap Line.tokens ++ [.blockEnd])) := by
  have hlimit : 3 * lines.length < (lines.flatMap Line.chars).length + 1 :=
    Nat.lt_succ_of_le (Line.three_mul_length_le lines)
  have hstart : (Scanner.between [] false true .start (lines.flatMap Line.chars)).toNextToken =
      Scanner.between [] false true .start (lines.flatMap Line.chars) :=
    Scanner.toNextToken_between (Scanner.skipFiller_entry (Line.atEntry lines) true .start)
  have hallowed : ∀ c ∈ lines.flatMap Line.chars, isAllowed c = true := by
    intro c hc
    obtain ⟨line, -, hc⟩ := List.mem_flatMap.mp hc
    exact line.isAllowed c hc
  rw [tokens, List.all_eq_true.mpr hallowed]
  exact Scanner.run_lines (.inr hne) rfl hstart hlimit

end TypedClient.Yaml
