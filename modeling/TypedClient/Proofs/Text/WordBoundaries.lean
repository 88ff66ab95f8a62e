import TypedClient.Proofs.Text.WordCharacters

/-!
The one pass of snake case keeps its output, its flag and the text read so far in step with a rule
on the whole text: an underscore stands between two characters that are kept exactly where
something was dropped between them, or where a capital follows a small letter.
-/

namespace TypedClient.Text

def placed (start : Nat) (text : List Char) : List (Char × Nat) :=
  (text.zipIdx start).filter fun entry => isUpper entry.1 || isAlphanumeric entry.1

def boundary (left right : Char × Nat) : List Char :=
  if left.2 + 1 < right.2 ∨
      isLower left.1 = true ∧ isUpper left.1 = false ∧ isUpper right.1 = true then ['_']
  else []

def spelled : List (Char × Nat) → List Char
  | [] => []
  | [entry] => [if isUpper entry.1 then lowerChar entry.1 else entry.1]
  | left :: right :: rest =>
    (if isUpper left.1 then lowerChar left.1 else left.1) ::
      (boundary left right ++ spelled (right :: rest))

variable {c : Char} {text : List Char} {entries : List (Char × Nat)}

theorem placed_cons_of_word (h : isWordChar c = true) (start : Nat) (rest : List Char) :
    placed start (c :: rest) = (c, start) :: placed (start + 1) rest := by
  rw [isWordChar] at h
  simp only [placed, List.zipIdx_cons, List.filter_cons, h, if_true]

theorem placed_cons_of_separator (h : isWordChar c = false) (start : Nat) (rest : List Char) :
    placed start (c :: rest) = placed (start + 1) rest := by
  rw [isWordChar] at h
  simp only [placed, List.zipIdx_cons, List.filter_cons, h, Bool.false_eq_true, if_false]

theorem placed_append (start : Nat) (front rest : List Char) :
    placed start (front ++ rest) = placed start front ++ placed (start + front.length) rest := by
  rw [placed, List.zipIdx_append, List.filter_append]
  rfl

theorem placed_concat_of_word (h : isWordChar c = true) (text : List Char) :
    placed 0 (text ++ [c]) = placed 0 text ++ [(c, text.length)] := by
  rw [placed_append, placed_cons_of_word h, Nat.zero_add]
  rfl

theorem placed_concat_of_separator (h : isWordChar c = false) (text : List Char) :
    placed 0 (text ++ [c]) = placed 0 text := by
  rw [placed_append, placed_cons_of_separator h]
  exact List.append_nil _

theorem map_placed (start : Nat) (text : List Char) :
    (placed start text).map (·.1) = text.filter isWordChar := by
  induction text generalizing start with
  | nil => rfl
  | cons c rest ih =>
    cases hc : isWordChar c with
    | true => rw [placed_cons_of_word hc, List.map_cons, ih, List.filter_cons_of_pos hc]
    | false => rw [placed_cons_of_separator hc, ih, List.filter_cons_of_neg (by simp [hc])]

theorem le_of_mem_placed {start : Nat} {entry : Char × Nat} (h : entry ∈ placed start text) :
    start ≤ entry.2 :=
  (List.mem_zipIdx (List.mem_filter.mp h).1).1

theorem isWordChar_of_mem_placed {start : Nat} {entry : Char × Nat}
    (h : entry ∈ placed start text) : isWordChar entry.1 = true :=
  (List.mem_filter.mp h).2

theorem boundary_cases (left right : Char × Nat) :
    boundary left right = [] ∨ boundary left right = ['_'] := by
  unfold boundary
  split <;> simp

theorem filter_boundary (left right : Char × Nat) :
    (boundary left right).filter (· != '_') = [] := by
  unfold boundary
  split <;> rfl

theorem spelled_singleton (entry : Char × Nat) : spelled [entry] = [foldChar entry.1] := rfl

theorem spelled_cons_cons (left right : Char × Nat) (rest : List (Char × Nat)) :
    spelled (left :: right :: rest) =
      foldChar left.1 :: (boundary left right ++ spelled (right :: rest)) := rfl

theorem spelled_cons_ne_nil (entry : Char × Nat) (others : List (Char × Nat)) :
    spelled (entry :: others) ≠ [] := by
  cases others <;> simp [spelled]

theorem spelled_concat (entries : List (Char × Nat)) (left right : Char × Nat) :
    spelled (entries ++ [left] ++ [right]) =
      spelled (entries ++ [left]) ++ (boundary left right ++ [foldChar right.1]) := by
  induction entries with
  | nil => rfl
  | cons entry others ih =>
    -- The entry after the first is `left` or the next of the others, with the same step.
    cases others <;>
    · simp only [List.nil_append, List.cons_append] at ih ⊢
      rw [spelled_cons_cons, ih, spelled_cons_cons, List.cons_append, List.append_assoc]

theorem head?_spelled (entry : Char × Nat) (others : List (Char × Nat)) :
    (spelled (entry :: others)).head? = some (foldChar entry.1) := by
  cases others <;> rfl

theorem getLast?_spelled (others : List (Char × Nat)) (last : Char × Nat) :
    (spelled (others ++ [last])).getLast? = some (foldChar last.1) := by
  rcases List.eq_nil_or_concat others with rfl | ⟨front, left, rfl⟩
  · rfl
  · rw [List.concat_eq_append, spelled_concat, ← List.append_assoc, List.getLast?_concat]

theorem foldChar_ne_underscore (h : isWordChar c = true) : foldChar c ≠ '_' := by
  intro he
  have hword := isWordChar_foldChar h
  rw [he] at hword
  revert hword
  decide +kernel

theorem snakeStep_of_word (h : isWordChar c = true) (state : SnakeState) :
    snakeStep state c =
      ⟨foldChar c :: ((if (state.afterSmall && isUpper c) = true then ['_'] else []) ++
        state.written), isLower c && !isUpper c⟩ := by
  cases hupper : isUpper c with
  | true => cases hsmall : state.afterSmall <;> simp [snakeStep, foldChar, hupper, hsmall]
  | false =>
    have halphanumeric : isAlphanumeric c = true := by simpa [isWordChar, hupper] using h
    simp [snakeStep, foldChar, hupper, halphanumeric]

theorem snakeStep_of_separator (h : isWordChar c = false) (state : SnakeState) :
    snakeStep state c =
      ⟨if state.written = [] ∨ state.written.head? = some '_' then state.written
        else '_' :: state.written, false⟩ := by
  rw [isWordChar, Bool.or_eq_false_iff] at h
  by_cases hempty : state.written = []
  · simp [snakeStep, h.1, h.2, hempty]
  · by_cases hline : state.written.head? = some '_' <;>
      simp [snakeStep, h.1, h.2, hempty, hline]

/-- Where the pass stands after a text: nothing is kept yet, or the last character is one that is
kept, or it is one that is not. The flag speaks of the last character only. -/
inductive SpellsSoFar (text : List Char) (state : SnakeState) : Prop where
  | outset (hplaced : placed 0 text = []) (hwritten : state.written = [])
      (hflag : state.afterSmall = false)
  | behindWord (others : List (Char × Nat)) (last : Char) (place : Nat)
      (hplaced : placed 0 text = others ++ [(last, place)]) (hplace : place + 1 = text.length)
      (hwritten : state.written.reverse = spelled (placed 0 text))
      (hflag : state.afterSmall = (isLower last && !isUpper last))
  | behindSeparator (others : List (Char × Nat)) (last : Char) (place : Nat)
      (hplaced : placed 0 text = others ++ [(last, place)]) (hplace : place + 1 < text.length)
      (hwritten : state.written.reverse = spelled (placed 0 text) ++ ['_'])
      (hflag : state.afterSmall = false)

theorem isWordChar_of_placed {others : List (Char × Nat)} {last : Char} {place : Nat}
    (h : placed 0 text = others ++ [(last, place)]) : isWordChar last = true := by
  have hmem : (last, place) ∈ placed 0 text := by simp [h]
  exact isWordChar_of_mem_placed hmem

theorem SpellsSoFar.word {state : SnakeState} (h : SpellsSoFar text state)
    (hc : isWordChar c = true) : SpellsSoFar (text ++ [c]) (snakeStep state c) := by
  have hplaced' := placed_concat_of_word hc text
  refine .behindWord _ _ _ hplaced' (by simp) ?_ (by rw [snakeStep_of_word hc])
  rw [snakeStep_of_word hc, hplaced']
  cases h with
  | outset hplaced hwritten hflag =>
    rw [hplaced, hwritten, hflag]
    rfl
  | behindWord others last place hplaced hplace hwritten hflag =>
    have hboundary : boundary (last, place) (c, text.length) =
        if (state.afterSmall && isUpper c) = true then ['_'] else [] := by
      simp [boundary, hplace, hflag, and_assoc]
    rw [hplaced, spelled_concat, ← hplaced, ← hwritten, hboundary]
    split <;> simp
  | behindSeparator others last place hplaced hplace hwritten hflag =>
    have hboundary : boundary (last, place) (c, text.length) = ['_'] := if_pos (.inl hplace)
    rw [hplaced, spelled_concat, ← hplaced, hboundary, ← List.append_assoc, ← hwritten, hflag]
    simp

theorem SpellsSoFar.separator {state : SnakeState} (h : SpellsSoFar text state)
    (hc : isWordChar c = false) : SpellsSoFar (text ++ [c]) (snakeStep state c) := by
  have hplaced' := placed_concat_of_separator hc text
  rw [snakeStep_of_separator hc]
  cases h with
  | outset hplaced hwritten hflag =>
    exact .outset (by rw [hplaced', hplaced]) (by simp [hwritten]) rfl
  | behindWord others last place hplaced hplace hwritten hflag =>
    -- The output ends in the character kept last, which is no underscore, so one is written.
    have hlast : state.written.head? = some (foldChar last) := by
      rw [← List.getLast?_reverse, hwritten, hplaced, getLast?_spelled]
    have hline := foldChar_ne_underscore (isWordChar_of_placed hplaced)
    have hne : state.written ≠ [] := by
      rintro hnil
      rw [hnil] at hlast
      cases hlast
    refine .behindSeparator _ _ _ (by rw [hplaced', hplaced]) (by simp; omega) ?_ rfl
    rw [hplaced', ← hwritten, if_neg (by simp [hne, hlast, hline]), List.reverse_cons]
  | behindSeparator others last place hplaced hplace hwritten hflag =>
    have hlast : state.written.head? = some '_' := by
      rw [← List.getLast?_reverse, hwritten, List.getLast?_concat]
    refine .behindSeparator _ _ _ (by rw [hplaced', hplaced]) (by simp; omega) ?_ rfl
    rw [hplaced', ← hwritten, if_pos (.inr hlast)]

theorem SpellsSoFar.run {state : SnakeState} (h : SpellsSoFar text state) (rest : List Char) :
    SpellsSoFar (text ++ rest) (rest.foldl snakeStep state) := by
  induction rest generalizing text state with
  | nil => rwa [List.append_nil]
  | cons c rest ih =>
    rw [List.foldl_cons, List.append_cons]
    cases hc : isWordChar c with
    | true => exact ih (h.word hc)
    | false => exact ih (h.separator hc)

theorem trimEnds_append {isTrimmed : Char → Bool} {body tail : List Char} (hne : body ≠ [])
    (hfirst : ∀ c ∈ body.head?, isTrimmed c = false)
    (hlast : ∀ c ∈ body.getLast?, isTrimmed c = false) (htail : ∀ c ∈ tail, isTrimmed c = true) :
    trimEnds isTrimmed (body ++ tail) = body := by
  have hhead : (body ++ tail).head? = body.head? := by
    cases body with
    | nil => exact absurd rfl hne
    | cons c body => rfl
  have hkept : ([] ++ (body ++ tail)).dropWhile isTrimmed = body ++ tail :=
    dropWhile_append_stretch (by simp) (by simpa [hhead] using hfirst)
  rw [List.nil_append] at hkept
  rw [trimEnds, hkept, List.reverse_append,
    dropWhile_append_stretch (by simpa using htail) (by simpa using hlast), List.reverse_reverse]

section

variable (hentries : ∀ entry ∈ entries, isWordChar entry.1 = true)

include hentries

theorem head?_spelled_ne : (spelled entries).head? ≠ some '_' := by
  cases entries with
  | nil => simp [spelled]
  | cons entry others =>
    rw [head?_spelled]
    simpa using foldChar_ne_underscore (hentries entry (by simp))

theorem getLast?_spelled_ne : (spelled entries).getLast? ≠ some '_' := by
  rcases List.eq_nil_or_concat entries with rfl | ⟨others, last, rfl⟩
  · simp [spelled]
  · rw [List.concat_eq_append] at hentries ⊢
    rw [getLast?_spelled]
    simpa using foldChar_ne_underscore (hentries last (by simp))

theorem filter_spelled :
    (spelled entries).filter (· != '_') = entries.map (foldChar ·.1) := by
  induction entries with
  | nil => rfl
  | cons entry others ih =>
    have hentry := foldChar_ne_underscore (hentries entry (by simp))
    have hothers := ih fun other hother => hentries other (by simp [hother])
    cases others with
    | nil => simp [spelled_singleton, hentry]
    | cons next others =>
      have hboundary := filter_boundary entry next
      simp [spelled_cons_cons, hentry, hboundary, hothers]

theorem not_doubled_spelled : ¬['_', '_'] <:+: spelled entries := by
  induction entries with
  | nil => simp [spelled]
  | cons entry others ih =>
    have hentry := foldChar_ne_underscore (hentries entry (by simp))
    have hothers := ih fun other hother => hentries other (by simp [hother])
    cases others with
    | nil => simp [spelled_singleton, List.infix_cons_iff, Ne.symm hentry]
    | cons next others =>
      have hnext := foldChar_ne_underscore (hentries next (by simp))
      obtain ⟨tail, htail⟩ := List.head?_eq_some_iff.mp (head?_spelled next others)
      rw [spelled_cons_cons, List.infix_cons_iff, not_or]
      refine ⟨by simp [Ne.symm hentry], ?_⟩
      rcases boundary_cases entry next with hnone | hline
      · rwa [hnone, List.nil_append]
      · rw [hline, List.singleton_append, List.infix_cons_iff, not_or]
        exact ⟨by simp [htail, Ne.symm hnext], hothers⟩

theorem trimEnds_spelled (hne : entries ≠ []) (tail : List Char) (htail : ∀ c ∈ tail, c = '_') :
    trimEnds (· == '_') (spelled entries ++ tail) = spelled entries := by
  have hspelled : spelled entries ≠ [] := by
    obtain ⟨entry, others, rfl⟩ := List.exists_cons_of_ne_nil hne
    exact spelled_cons_ne_nil entry others
  have hfirst := head?_spelled_ne hentries
  have hlast := getLast?_spelled_ne hentries
  apply trimEnds_append hspelled
  · rintro c hc
    rw [beq_eq_false_iff_ne]
    rintro rfl
    exact hfirst hc
  · rintro c hc
    rw [beq_eq_false_iff_ne]
    rintro rfl
    exact hlast hc
  · intro c hc
    simpa using htail c hc

end

theorem snakeChars_eq_spelled (text : List Char) : snakeChars text = spelled (placed 0 text) := by
  have hend := (SpellsSoFar.outset rfl rfl rfl : SpellsSoFar [] ⟨[], false⟩).run text
  have hwords : ∀ entry ∈ placed 0 text, isWordChar entry.1 = true :=
    fun _ => isWordChar_of_mem_placed
  rw [snakeChars]
  cases hend with
  | outset hplaced hwritten hflag =>
    rw [List.nil_append] at hplaced
    rw [hwritten, hplaced]
    rfl
  | behindWord others last place hplaced hplace hwritten hflag =>
    rw [List.nil_append] at hplaced hwritten
    have htrimmed := trimEnds_spelled hwords (by simp [hplaced]) [] (by simp)
    rw [List.append_nil] at htrimmed
    rw [hwritten, htrimmed]
  | behindSeparator others last place hplaced hplace hwritten hflag =>
    -- The underscore at the end stands before nothing, and trimming takes it away.
    rw [List.nil_append] at hplaced hwritten
    rw [hwritten]
    exact trimEnds_spelled hwords (by simp [hplaced]) ['_'] (by simp)

theorem filter_snakeChars (text : List Char) :
    (snakeChars text).filter (· != '_') = (text.filter isWordChar).map foldChar := by
  have hwords : ∀ entry ∈ placed 0 text, isWordChar entry.1 = true :=
    fun _ => isWordChar_of_mem_placed
  rw [snakeChars_eq_spelled, filter_spelled hwords, ← map_placed 0, List.map_map]
  rfl

/-- A snake-case text has the characters of words in their order, written small, and an underscore
exactly where two of them have something between them or a capital follows a small letter. -/
theorem snakeCase_boundaries (text : String) :
    (snakeCase text).toList = spelled (placed 0 text.toList) ∧
      (snakeCase text).toList.filter (· != '_') =
        (text.toList.filter fun c => isUpper c || isAlphanumeric c).map
          (fun c => if isUpper c then lowerChar c else c) ∧
      (snakeCase text).toList.head? ≠ some '_' ∧ (snakeCase text).toList.getLast? ≠ some '_' ∧
      ¬['_', '_'] <:+: (snakeCase text).toList := by
  have hwords : ∀ entry ∈ placed 0 text.toList, isWordChar entry.1 = true :=
    fun _ => isWordChar_of_mem_placed
  have hfilter := filter_snakeChars text.toList
  have hspelled := snakeChars_eq_spelled text.toList
  rw [snakeCase, String.toList_ofList]
  refine ⟨hspelled, hfilter, ?_⟩
  rw [hspelled]
  exact ⟨head?_spelled_ne hwords, getLast?_spelled_ne hwords, not_doubled_spelled hwords⟩

theorem goesOn_iff {d : Char} {start place : Nat} {others : List (Char × Nat)}
    (h : placed (start + 1) text = (d, place) :: others) :
    goesOn c text = true ↔ boundary (c, start) (d, place) = [] := by
  cases text with
  | nil => cases h
  | cons e rest =>
    cases he : isWordChar e with
    | true =>
      rw [placed_cons_of_word he] at h
      obtain ⟨hentry, -⟩ := List.cons.inj h
      cases hentry
      cases hlower : isLower c <;> cases hupper : isUpper c <;>
        simp [goesOn, he, boundary, endsBetween, hlower, hupper]
    | false =>
      rw [placed_cons_of_separator he] at h
      have hmem : (d, place) ∈ placed (start + 1 + 1) rest := by
        rw [h]
        exact List.mem_cons_self
      have hplace : start + 1 + 1 ≤ place := le_of_mem_placed hmem
      have hbetween : start + 1 < place := by omega
      simp [goesOn, he, boundary, hbetween]

theorem goesOn_of_placed_nil {start : Nat} (h : placed start text = []) :
    goesOn c text = false := by
  cases text with
  | nil => rfl
  | cons e rest =>
    cases he : isWordChar e with
    | true =>
      rw [placed_cons_of_word he] at h
      cases h
    | false => simp [goesOn, he]

theorem joinWith_words (start : Nat) (text : List Char) :
    joinWith ['_'] (words text) = spelled (placed start text) := by
  induction text generalizing start with
  | nil => rfl
  | cons c rest ih =>
    rw [words]
    cases hc : isWordChar c with
    | false =>
      rw [placed_cons_of_separator hc]
      exact ih (start + 1)
    | true =>
      have hrest := ih (start + 1)
      rw [placed_cons_of_word hc, if_pos rfl]
      cases hplaced : placed (start + 1) rest with
      | nil =>
        have hwords : words rest = [] := by
          rw [hplaced] at hrest
          exact eq_nil_of_joinWith hrest fun word hword => (mem_words hword).1
        rw [goesOn_of_placed_nil hplaced, hwords]
        rfl
      | cons next others =>
        rw [hplaced] at hrest
        rw [spelled_cons_cons, ← hrest]
        by_cases hgoes : goesOn c rest = true
        · rw [if_pos hgoes, joinWith_extendFirst, (goesOn_iff hplaced).mp hgoes]
          rfl
        · have hwords : words rest ≠ [] := by
            intro hnil
            rw [hnil] at hrest
            exact spelled_cons_ne_nil next others hrest.symm
          have hboundary : boundary (c, start) next = ['_'] :=
            (boundary_cases (c, start) next).resolve_left (mt (goesOn_iff hplaced).mpr hgoes)
          rw [if_neg hgoes, joinWith_cons hwords, hboundary]
          rfl

theorem snakeChars_eq_joinWith (text : List Char) :
    snakeChars text = joinWith ['_'] (words text) := by
  rw [snakeChars_eq_spelled, joinWith_words 0]

end TypedClient.Text
