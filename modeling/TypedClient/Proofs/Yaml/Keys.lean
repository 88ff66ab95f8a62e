import TypedClient.Proofs.Yaml.Block
import TypedClient.Proofs.Yaml.DoubleQuoted
import TypedClient.Proofs.Yaml.Plain
import TypedClient.Proofs.Yaml.SingleQuoted

namespace TypedClient.Yaml

open Config (IsName nameChars)

namespace Scanner

variable {c : Char} {text rest name : List Char} {position : Position} {s s' : Scanner}

theorem skipFiller_cons (hbreak : isBreak c = false) (hblank : isBlank c = false)
    (hcomment : c ≠ '#') (hmark : position.column ≠ 0 ∨ c ≠ '\ufeff') (keyAllowed : Bool)
    (rest : List Char) :
    skipFiller false false keyAllowed position (c :: rest) =
      (⟨c :: rest, position⟩, keyAllowed) := by
  have hreturn := ne_return_of_isBreak hbreak
  obtain ⟨hspace, htab⟩ := isBlank_eq_false_iff.mp hblank
  rw [skipFiller.eq_3 false false keyAllowed position c rest (fun _ he _ => hreturn he), hbreak]
  rcases hmark with hmark | hmark
  · simp [hspace, htab, hcomment, hmark]
  · simp [hspace, htab, hcomment, hmark]

theorem skipFiller_entry (h : AtEntry rest) (keyAllowed : Bool) (position : Position) :
    skipFiller false false keyAllowed position rest = (⟨rest, position⟩, keyAllowed) := by
  cases rest with
  | nil => rfl
  | cons c rest =>
    obtain ⟨-, hbreak, hblank, hindicator, hmark⟩ := nameChar_facts c (h c rfl)
    exact skipFiller_cons hbreak hblank (fun he => hindicator (he ▸ by decide)) (.inr hmark)
      keyAllowed rest

theorem atDocumentMark_eq_false {mark : Char} (h : position.column ≠ 0 ∨ c ≠ mark)
    (text : List Char) : atDocumentMark position mark (c :: text) = false := by
  rcases h with h | h
  · simp [atDocumentMark, h]
  · simp [atDocumentMark, h]

def softIndicators : List Char := ['-', '?', ':']

theorem of_isMark (h : isMark true true c text = false) :
    c ∉ indicators ∨ c ∈ softIndicators ∧ beforeGap text = false := by
  have hcover : ∀ d ∈ indicators,
      d ∈ "#,[]\x7b\x7d&*!|>'\"%@`".toList ∨ d ∈ softIndicators :=
    List.all_iff_forall_prop.mp (by decide)
  rw [isMark, if_pos rfl, Bool.or_eq_false_iff, String.contains_char_eq,
    decide_eq_false_iff_not] at h
  by_cases hsoft : c ∈ softIndicators
  · refine .inr ⟨hsoft, (Bool.and_eq_false_imp.mp h.2) ?_⟩
    have hall : ∀ d ∈ softIndicators, (d == '?' || d == ':' || d == '-') = true :=
      List.all_eq_true.mp (by decide)
    exact hall c hsoft
  · exact .inl fun hc => (hcover c hc).elim h.1 hsoft

theorem isMark_eq_false (h : c ∉ indicators) (text : List Char) :
    isMark true true c text = false := by
  have hcover : ∀ d ∈ "#,[]\x7b\x7d&*!|>'\"%@`".toList ++ softIndicators, d ∈ indicators :=
    List.all_iff_forall_prop.mp (by decide)
  have hsoft : (c == '?' || c == ':' || c == '-') = false := by
    refine Bool.eq_false_iff.mpr fun hc => h (hcover c (List.mem_append_right _ ?_))
    simpa [softIndicators, or_comm, or_left_comm] using hc
  rw [isMark, if_pos rfl, String.contains_char_eq, hsoft, Bool.false_and, Bool.or_false,
    decide_eq_false_iff_not]
  exact fun hc => h (hcover c (List.mem_append_left _ hc))

theorem ne_of_isMark (h : isMark true true c text = false) :
    ∀ d ∈ ['#', ',', '[', ']', '{', '}', '&', '*', '!', '|', '>', '\'', '"', '%'], c ≠ d := by
  have hhard : ∀ d ∈ ['#', ',', '[', ']', '{', '}', '&', '*', '!', '|', '>', '\'', '"', '%'],
      d ∈ indicators ∧ d ∉ softIndicators :=
    List.all_iff_forall_prop.mp (by decide)
  rintro d hd rfl
  rcases of_isMark h with hc | ⟨hc, -⟩
  · exact hc (hhard c hd).1
  · exact (hhard c hd).2 hc

theorem atGap_of_isMark (h : isMark true true c text = false) (hc : c ∈ softIndicators)
    (rest : List Char) : atGap (text ++ rest) = false := by
  have hsoft : ∀ d ∈ softIndicators, d ∈ indicators :=
    List.all_iff_forall_prop.mp (by decide)
  obtain ⟨-, hgap⟩ := (of_isMark h).resolve_left fun hnot => hnot (hsoft c hc)
  exact Bool.eq_false_iff.mpr fun hat => by simp [beforeGap_of_atGap hat] at hgap

theorem startsPlain_of_isMark (hprint : isPrintable c = true) (hbreak : isBreak c = false)
    (hspace : c ≠ ' ') (h : isMark true true c text = false) (rest : List Char) :
    startsPlain false c (text ++ rest) = true := by
  rw [startsPlain, Bool.or_eq_true, Bool.or_eq_true]
  by_cases hc : c ∈ softIndicators
  · have hat := atGap_of_isMark h hc rest
    have hhead : (text ++ rest).head?.any isBlank = false := by
      cases hrest : text ++ rest with
      | nil => rfl
      | cons d rest =>
        rw [hrest, atGap, Bool.or_eq_false_iff] at hat
        exact hat.1
    simp only [softIndicators, List.mem_cons, List.not_mem_nil, or_false] at hc
    rcases hc with rfl | rfl | rfl
    · exact .inl (.inr (by rw [hhead]; rfl))
    · exact .inr (by rw [hat]; rfl)
    · exact .inr (by rw [hat]; rfl)
  · have hindicator : c ∉ indicators := (of_isMark h).resolve_right fun h => hc h.1
    left; left
    rw [isIndicator_eq, decide_eq_false hindicator, isBlank_eq_false hprint hspace, hbreak]
    rfl

theorem takeToken_plain (hflow : s.outerKeyPlaces = []) (hprint : isPrintable c = true)
    (hbreak : isBreak c = false) (hspace : c ≠ ' ') (hmark : isMark true true c text = false)
    (hcolumn : s.cursor.position.column ≠ 0 ∨ c ∈ nameChars) (rest : List Char) :
    s.takeToken c (text ++ rest) =
      s.takeScalar true (plain false (s.indent + 1) [] .none s.cursor.position
        (c :: (text ++ rest))) := by
  have hhard := ne_of_isMark hmark
  have hsoft : ∀ d ∈ softIndicators, ¬(c = d ∧ atGap (text ++ rest) = true) := by
    rintro d hd ⟨rfl, hat⟩
    exact Bool.false_ne_true ((atGap_of_isMark hmark hd rest).symm.trans hat)
  have hstarts := startsPlain_of_isMark hprint hbreak hspace hmark rest
  have hdash : atDocumentMark s.cursor.position '-' (c :: (text ++ rest)) = false :=
    atDocumentMark_eq_false (hcolumn.imp_right fun hc he => absurd (he ▸ hc) (by decide)) _
  have hpoint : atDocumentMark s.cursor.position '.' (c :: (text ++ rest)) = false :=
    atDocumentMark_eq_false (hcolumn.imp_right fun hc he => absurd (he ▸ hc) (by decide)) _
  have hflow : s.inFlow = false := by rw [inFlow, hflow]; rfl
  unfold takeToken
  simp only [List.forall_mem_cons, softIndicators] at hhard hsoft
  simp only [hhard, hsoft, hdash, hpoint, hflow, hstarts, Bool.false_eq_true, false_or, and_false,
    false_and, if_false, if_true]

variable {found : List Token} {isOpen keyAllowed : Bool} {limit : Nat}

/-- The reader outside all flow style, with no key begun, before the mapping of the entries is open
or after. -/
def between (found : List Token) (isOpen keyAllowed : Bool) (position : Position)
    (rest : List Char) : Scanner where
  cursor := ⟨rest, position⟩
  reversed := found
  indent := if isOpen then 0 else -1
  outerIndents := if isOpen then [-1] else []
  keyAllowed := keyAllowed
  keyPlace := none
  outerKeyPlaces := []

theorem unindent_eq_self (s : Scanner) (hindent : s.indent ≤ 0) (column : Nat) :
    s.unindent column = s := by
  have hclose : closeBlocks column s.indent s.reversed s.outerIndents =
      (s.reversed, s.indent, s.outerIndents) := by
    cases s.outerIndents with
    | nil => rfl
    | cons outer rest => rw [closeBlocks, if_neg (by omega)]
  unfold unindent
  rw [hclose]
  exact ite_self s

theorem run_succ (hnext : s.toNextToken.dropStaleKeys = some s') (hindent : s'.indent ≤ 0)
    (hrest : s'.cursor.rest = c :: rest) (limit : Nat) :
    run (limit + 1) s = (s'.takeToken c rest).bind (run limit) := by
  rw [run, hnext, Option.bind_eq_bind, Option.bind_some]
  simp only
  rw [unindent_eq_self s' hindent, hrest]

theorem dropStaleKeys_between (found : List Token) (isOpen keyAllowed : Bool) (position : Position)
    (rest : List Char) : (between found isOpen keyAllowed position rest).dropStaleKeys =
      some (between found isOpen keyAllowed position rest) :=
  rfl

theorem indent_between (found : List Token) (isOpen keyAllowed : Bool) (position : Position)
    (rest : List Char) : (between found isOpen keyAllowed position rest).indent ≤ 0 := by
  cases isOpen
  · exact Int.neg_nonpos_of_nonneg Int.one_nonneg
  · exact Int.le_refl 0

theorem saveKeyPlace_between (hcolumn : position.column = 0) (found : List Token) (isOpen : Bool)
    (rest : List Char) : (between found isOpen true position rest).saveKeyPlace =
      some { between found isOpen true position rest with
        keyPlace := some ⟨found.length, position, isOpen⟩ } := by
  obtain ⟨line, column, offset⟩ := position
  obtain rfl : column = 0 := hcolumn
  cases isOpen <;> rfl

def afterName (found : List Token) (isOpen : Bool) (position : Position) (name rest : List Char) :
    Scanner :=
  { between (.scalar true (String.ofList name) :: found) isOpen false (position.along name.length)
      (':' :: ' ' :: rest) with
    keyPlace := some ⟨found.length, position, isOpen⟩ }

theorem run_name (hname : IsName name) (hcolumn : position.column = 0)
    (hnext : s.toNextToken = between found isOpen true position (name ++ ':' :: ' ' :: rest))
    (limit : Nat) :
    run (limit + 1) s = run limit (afterName found isOpen position name rest) := by
  obtain ⟨c, front, rfl, hc, hfront⟩ := hname.exists_cons
  obtain ⟨hprint, hbreak, hblank, hindicator, -⟩ := nameChar_facts c hc
  obtain ⟨hspace, -⟩ := isBlank_eq_false_iff.mp hblank
  have hmark := isMark_eq_false hindicator front
  have hstep : run (limit + 1) s =
      ((between found isOpen true position (c :: (front ++ ':' :: ' ' :: rest))).takeToken c
        (front ++ ':' :: ' ' :: rest)).bind (run limit) :=
    run_succ (by rw [hnext]; rfl) (indent_between _ _ _ _ _) rfl limit
  rw [hstep, takeToken_plain rfl hprint hbreak hspace hmark (.inr hc), takeScalar,
    saveKeyPlace_between hcolumn, Option.bind_eq_bind, Option.bind_some, ← List.cons_append,
    plain_name hname.2]
  rfl

theorem takeToken_colon (hcolumn : s.cursor.position.column ≠ 0) (rest : List Char) :
    s.takeToken ':' (' ' :: rest) = s.takeColon := by
  have hmark : ∀ mark ≠ ':', atDocumentMark s.cursor.position mark (':' :: ' ' :: rest) = false :=
    fun mark hne => atDocumentMark_eq_false (.inr hne.symm) _
  unfold takeToken
  rw [if_neg (fun h => hcolumn h.1), hmark '-' (by decide), hmark '.' (by decide)]
  simp only [Bool.false_eq_true, Char.reduceEq, false_and, if_false]
  exact if_pos ⟨trivial, .inr rfl⟩

theorem insertAt_length {front found : List Token} (h : s.reversed = front ++ found)
    (token : Token) :
    s.insertAt found.length token = { s with reversed := front ++ token :: found } := by
  have hcount : s.reversed.length - found.length = front.length := by
    rw [h, List.length_append, Nat.add_sub_cancel]
  have hinsert : (front ++ found).insertIdx front.length token = front ++ token :: found := by
    clear h hcount
    induction front with
    | nil => rfl
    | cons first front ih => exact congrArg (first :: ·) ih
  rw [insertAt, hcount, h, hinsert]

theorem openBlock_of_lt {front found : List Token} (hflow : s.outerKeyPlaces = [])
    (hindent : s.indent < 0) (h : s.reversed = front ++ found) (token : Token) :
    s.openBlock 0 found.length token =
      { s with
        reversed := front ++ token :: found, indent := 0,
        outerIndents := s.indent :: s.outerIndents } := by
  have hopens : (!s.inFlow && decide (s.indent < (0 : Nat))) = true := by
    rw [inFlow, hflow]
    simpa using hindent
  rw [openBlock, if_pos hopens, insertAt_length h]
  rfl

def opened (found : List Token) (isOpen : Bool) : List Token :=
  if isOpen then found else .blockMapping :: found

theorem takeColon_afterName (hcolumn : position.column = 0) (found : List Token) (isOpen : Bool)
    (name rest : List Char) : (afterName found isOpen position name rest).takeColon =
      some (between (.value :: .scalar true (String.ofList name) :: .key :: opened found isOpen)
        true false (position.along name.length).next (' ' :: rest)) := by
  have hkey : (afterName found isOpen position name rest).insertAt found.length .key =
      { afterName found isOpen position name rest with
        reversed := [.scalar true (String.ofList name)] ++ .key :: found } :=
    insertAt_length rfl .key
  show some { (((afterName found isOpen position name rest).insertAt found.length .key).openBlock
    position.column found.length .blockMapping).takeMark 1 .value with
      keyPlace := none, keyAllowed := false } = _
  rw [hkey, hcolumn]
  cases isOpen with
  | true => rfl
  | false =>
    rw [openBlock_of_lt rfl (Int.negSucc_lt_zero 0)
      (rfl : _ = [.scalar true (String.ofList name), .key] ++ found)]
    rfl

theorem indent_afterName (found : List Token) (isOpen : Bool) (position : Position)
    (name rest : List Char) : (afterName found isOpen position name rest).indent ≤ 0 :=
  indent_between found isOpen true position rest

theorem dropStaleKeys_afterName (hlength : name.length ≤ longestKey) (found : List Token)
    (isOpen : Bool) (position : Position) (rest : List Char) :
    (afterName found isOpen position name rest).toNextToken.dropStaleKeys =
      some (afterName found isOpen position name rest) := by
  have hfresh : freshKeyPlace (position.along name.length) (some ⟨found.length, position, isOpen⟩) =
      some (some ⟨found.length, position, isOpen⟩) := by
    rw [freshKeyPlace, if_neg]
    show ¬(position.line < position.line ∨
      position.offset + longestKey < position.offset + name.length)
    omega
  show (freshKeyPlace (position.along name.length)
    (some ⟨found.length, position, isOpen⟩)).bind _ = _
  rw [hfresh]
  rfl

theorem run_colon (hname : IsName name) (hlength : name.length ≤ longestKey)
    (hcolumn : position.column = 0) (found : List Token) (isOpen : Bool) (rest : List Char)
    (limit : Nat) :
    run (limit + 1) (afterName found isOpen position name rest) =
      run limit (between (.value :: .scalar true (String.ofList name) :: .key ::
        opened found isOpen) true false (position.along name.length).next (' ' :: rest)) := by
  have hplace : (afterName found isOpen position name rest).cursor.position.column ≠ 0 := by
    show position.column + name.length ≠ 0
    have hpos := List.length_pos_iff.mpr hname.1
    omega
  have hstep : run (limit + 1) (afterName found isOpen position name rest) =
      ((afterName found isOpen position name rest).takeToken ':' (' ' :: rest)).bind (run limit) :=
    run_succ (dropStaleKeys_afterName hlength found isOpen position rest)
      (indent_afterName found isOpen position name rest) rfl limit
  rw [hstep, takeToken_colon hplace, takeColon_afterName hcolumn]
  rfl

end Scanner

end TypedClient.Yaml
