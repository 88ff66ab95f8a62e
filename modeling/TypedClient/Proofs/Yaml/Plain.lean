import TypedClient.Proofs.Yaml.Characters

namespace TypedClient.Yaml

variable {c : Char} {text rest consumed seen : List Char} {gap : Gap} {position : Position}
  {indent : Int} {afterGap : Bool}

theorem Position.along_next (position : Position) (count : Nat) :
    position.next.along count = position.along (count + 1) := by
  simp only [Position.next, Position.along, Nat.add_assoc, Nat.add_comm 1]

theorem beforeGap_of_atGap (h : atGap (text ++ rest) = true) : beforeGap text = true := by
  cases text with
  | nil => rfl
  | cons c text =>
    rw [List.cons_append, atGap] at h
    rw [beforeGap, h, Bool.true_or]

theorem Inside.plain (h : Inside consumed seen gap position) (hprint : isPrintable c = true)
    (hbreak : isBreak c = false) (hindent : indent ≤ position.column)
    (hmark : isMark false afterGap c text = false) (hgap : afterGap = false → gap = .none)
    (rest : List Char) : ∃ seen' gap',
      plain false indent seen gap position (c :: (text ++ rest)) =
        plain false indent seen' gap' position.next (text ++ rest) ∧
      Inside (c :: consumed) seen' gap' position.next ∧ (beforeGap [c] = false → gap' = .none) := by
  have hreturn : c ≠ '\r' := ne_of_isPrintable hprint (by decide)
  rw [plain.eq_3 false indent seen gap position c _ (fun _ he _ => hreturn he), hbreak,
    if_neg Bool.false_ne_true]
  cases hblank : isBlank c with
  | true =>
    obtain rfl := eq_space_of_isBlank hprint hblank
    refine ⟨_, _, ?_, h.blank, nofun⟩
    rw [if_pos rfl, h.hasBreak, if_neg (by simp)]
  | false =>
    rw [isMark, if_neg Bool.false_ne_true, Bool.or_eq_false_iff] at hmark
    have hends : endsPlain false c (text ++ rest) = false := by
      rw [endsPlain, Bool.false_and, Bool.or_false, Bool.and_eq_false_imp]
      intro hcolon
      have htext := (Bool.and_eq_false_imp.mp hmark.1) hcolon
      exact Bool.eq_false_iff.mpr fun hat => by simp [beforeGap_of_atGap hat] at htext
    have hword : (!gap.isNone && endsBeforeWord false indent position (c :: (text ++ rest))) =
        false := by
      rw [Bool.and_eq_false_imp]
      intro hsome
      have hafter : afterGap = true := by
        by_contra hafter
        rw [hgap (Bool.eq_false_iff.mpr hafter)] at hsome
        cases hsome
      have hcomment : c ≠ '#' := by simpa [hafter] using hmark.2
      rw [endsBeforeWord, atDocumentBoundary_eq_false h.column]
      simp [hcomment, hindent]
    refine ⟨_, _, ?_, h.along c 1, fun _ => rfl⟩
    rw [hword, hends]
    rfl

theorem plain_text (h : Inside consumed seen gap position) (hindent : indent ≤ position.column)
    (htext : ∀ c ∈ text, isPrintable c = true ∧ isBreak c = false)
    (hmark : hasMark false afterGap text = false) (hgap : afterGap = false → gap = .none)
    (rest : List Char) : ∃ seen' gap',
      plain false indent seen gap position (text ++ rest) =
        plain false indent seen' gap' (position.along text.length) rest ∧
      Inside (text.reverse ++ consumed) seen' gap' (position.along text.length) := by
  induction text generalizing consumed seen gap position afterGap with
  | nil => exact ⟨seen, gap, rfl, h⟩
  | cons c text ih =>
    obtain ⟨⟨hprint, hbreak⟩, htext⟩ := List.forall_mem_cons.mp htext
    rw [hasMark, Bool.or_eq_false_iff] at hmark
    obtain ⟨seen', gap', hread, hinside, hgap'⟩ :=
      h.plain hprint hbreak hindent hmark.1 hgap rest
    have hindent' : indent ≤ position.next.column :=
      Int.le_trans hindent (Int.ofNat_le.mpr (Nat.le_succ _))
    obtain ⟨seen'', gap'', hread', hinside'⟩ := ih hinside hindent' htext hmark.2 hgap'
    rw [Position.along_next] at hread' hinside'
    refine ⟨seen'', gap'', hread.trans hread', ?_⟩
    rwa [List.reverse_cons, List.append_assoc]

theorem plain_name (htext : ∀ c ∈ text, c ∈ Config.nameChars) (indent : Int) (seen : List Char)
    (position : Position) (rest : List Char) :
    plain false indent seen .none position (text ++ ':' :: ' ' :: rest) =
      some ⟨seen.reverse ++ text, false, ':' :: ' ' :: rest, position.along text.length⟩ := by
  induction text generalizing seen position with
  | nil =>
    rw [List.nil_append, plain.eq_3 false indent seen .none position ':' _ nofun,
      if_neg (by decide), if_neg (by decide), List.append_nil]
    rfl
  | cons c text ih =>
    obtain ⟨hc, htext⟩ := List.forall_mem_cons.mp htext
    obtain ⟨hprint, hbreak, hblank, hindicator, -⟩ := nameChar_facts c hc
    have hreturn : c ≠ '\r' := ne_of_isPrintable hprint (by decide)
    have hcolon : c ≠ ':' := fun he => hindicator (he ▸ by decide)
    rw [List.cons_append, plain.eq_3 false indent seen .none position c _ (fun _ he _ => hreturn he),
      hbreak, hblank, if_neg Bool.false_ne_true, if_neg Bool.false_ne_true]
    simp only [Gap.isNone, isStrayColon, endsPlain, beq_eq_false_iff_ne.mpr hcolon,
      Bool.not_true, Bool.false_and, Bool.or_self, Bool.false_eq_true, if_false]
    show plain false indent (c :: seen) .none position.next _ = _
    rw [ih htext, Position.along_next, List.reverse_cons, List.append_assoc]
    rfl

theorem plain_lineEnd (hindent : 0 < indent) (hrest : AtEntry rest) :
    plain false indent seen .none position ('\n' :: rest) =
      some ⟨seen.reverse, true, rest, position.nextLine 1⟩ := by
  rw [plain.eq_3 false indent seen .none position '\n' rest nofun, if_pos (by decide)]
  cases rest with
  | nil => rfl
  | cons c rest =>
    obtain ⟨hprint, hbreak, hblank, -⟩ := nameChar_facts c (hrest c rfl)
    have hreturn : c ≠ '\r' := ne_of_isPrintable hprint (by decide)
    have hends : endsBeforeWord false indent (position.nextLine 1) (c :: rest) = true := by
      rw [endsBeforeWord, Bool.or_eq_true, Bool.or_eq_true]
      exact .inl (.inl (decide_eq_true hindent))
    rw [plain.eq_3 false indent seen _ _ c rest (fun _ he _ => hreturn he), hbreak, hblank,
      if_neg Bool.false_ne_true, if_neg Bool.false_ne_true, hends]
    rfl

theorem Inside.gap_eq_none (h : Inside (text.reverse ++ consumed) seen gap position)
    (hlast : text.getLast? ≠ some ' ') (hne : text ≠ []) : gap = .none := by
  refine h.space.resolve_right fun hspace => hlast ?_
  rw [List.head?_append, List.head?_reverse] at hspace
  cases hget : text.getLast? with
  | none => exact absurd (List.getLast?_eq_none_iff.mp hget) hne
  | some c => rwa [hget] at hspace

theorem plain_line (hcolumn : position.column ≠ 0)
    (htext : ∀ c ∈ text, isPrintable c = true ∧ isBreak c = false)
    (hmark : hasMark false false text = false) (hlast : text.getLast? ≠ some ' ') (hne : text ≠ [])
    (hrest : AtEntry rest) : ∃ after, after.column = 0 ∧
      plain false 1 [] .none position (text ++ '\n' :: rest) = some ⟨text, true, rest, after⟩ := by
  have hindent : (1 : Int) ≤ position.column :=
    Int.ofNat_le.mpr (Nat.one_le_iff_ne_zero.mpr hcolumn)
  obtain ⟨seen, gap, hread, hinside⟩ :=
    plain_text (.start hcolumn) hindent htext hmark (fun _ => rfl) ('\n' :: rest)
  obtain rfl := hinside.gap_eq_none hlast hne
  refine ⟨(position.along text.length).nextLine 1, rfl, ?_⟩
  have hseen : seen = text.reverse ++ [] := hinside.text
  rw [hread, plain_lineEnd Int.one_pos hrest, hseen, List.append_nil, List.reverse_reverse]

end TypedClient.Yaml
