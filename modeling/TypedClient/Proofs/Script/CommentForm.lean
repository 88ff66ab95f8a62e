import TypedClient.Proofs.Script.CommentBlock

/-!
The form that free text has in a comment: one line of single spaces between words, without
typographic marks and without the sequence that closes a comment. Text of this form is left as it
is, so flattening it twice does no more than once.
-/

namespace TypedClient

namespace Text

def typographicMarks : List Char := ['\u2018', '\u2019', '\u201c', '\u201d', '\u2014']

structure IsCommentForm (text : List Char) : Prop where
  closer : ¬['*', '/'] <:+: text
  spaces : ∀ front c rest, text = front ++ c :: rest → isSpace c = true → c = ' ' ∧
    (∃ left ∈ front.getLast?, isSpace left = false) ∧ ∃ right ∈ rest.head?, isSpace right = false
  marks : ∀ c ∈ text, c ∉ typographicMarks

/-- White space in a text that follows a character: each is a space between two characters that are
not white space. -/
inductive SpacedAfter : Option Char → List Char → Prop
  | nil (before : Option Char) : SpacedAfter before []
  | char {before : Option Char} {c : Char} {rest : List Char} (hc : isSpace c = false)
      (hrest : SpacedAfter (some c) rest) : SpacedAfter before (c :: rest)
  | space {left right : Char} {rest : List Char} (hleft : isSpace left = false)
      (hright : isSpace right = false) (hrest : SpacedAfter (some right) rest) :
      SpacedAfter (some left) (' ' :: right :: rest)

theorem spacedAfter_of_forall {before : Option Char} {text : List Char}
    (h : ∀ front c rest, text = front ++ c :: rest → isSpace c = true → c = ' ' ∧
      (∃ left ∈ (before.toList ++ front).getLast?, isSpace left = false) ∧
      ∃ right ∈ rest.head?, isSpace right = false) : SpacedAfter before text := by
  induction text generalizing before with
  | nil => exact .nil before
  | cons c rest ih =>
    have hrest : SpacedAfter (some c) rest := by
      apply ih
      intro front d tail hsplit hd
      have := h (c :: front) d tail (by rw [hsplit]; rfl) hd
      simpa [List.getLast?_append] using this
    cases hc : isSpace c with
    | false => exact .char hc hrest
    | true =>
      obtain ⟨rfl, ⟨left, hleft, hl⟩, right, hright, hr⟩ := h [] c rest rfl hc
      cases before with
      | none => cases hleft
      | some left' =>
        obtain rfl : left' = left := by simpa using hleft
        obtain ⟨tail, rfl⟩ := List.head?_eq_some_iff.mp hright
        cases hrest with
        | char _ hrest => exact .space hl hr hrest
        | space => cases hr

theorem SpacedAfter.spaces {before : Option Char} {text : List Char} (h : SpacedAfter before text) :
    ∀ front c rest, text = front ++ c :: rest → isSpace c = true → c = ' ' ∧
      (∃ left ∈ (before.toList ++ front).getLast?, isSpace left = false) ∧
      ∃ right ∈ rest.head?, isSpace right = false := by
  induction h with
  | nil => simp
  | @char before c text hc hrest ih =>
    intro front d rest hsplit hd
    cases front with
    | nil =>
      rw [← (List.cons.inj hsplit).1, hc] at hd
      cases hd
    | cons e front =>
      obtain ⟨rfl, htail⟩ := List.cons.inj hsplit
      have := ih front d rest htail hd
      simpa [List.getLast?_append] using this
  | @space left right text hleft hright hrest ih =>
    intro front d rest hsplit hd
    match front with
    | [] =>
      obtain ⟨rfl, rfl⟩ := List.cons.inj hsplit
      exact ⟨rfl, ⟨left, by simp, hleft⟩, right, by simp, hright⟩
    | [e] =>
      obtain ⟨-, htail⟩ := List.cons.inj hsplit
      rw [← (List.cons.inj htail).1, hright] at hd
      cases hd
    | e :: f :: front =>
      obtain ⟨-, htail⟩ := List.cons.inj hsplit
      obtain ⟨hf, hrest⟩ := List.cons.inj htail
      subst hf
      have := ih front d rest hrest hd
      simpa [List.getLast?_append, List.getLast?_cons] using this

theorem SpacedAfter.append {before : Option Char} {front rest : List Char}
    (hfront : ∀ c ∈ front, isSpace c = false) (hne : front ≠ [])
    (hrest : ∀ c, isSpace c = false → SpacedAfter (some c) rest) :
    SpacedAfter before (front ++ rest) := by
  induction front generalizing before with
  | nil => exact absurd rfl hne
  | cons c front ih =>
    have hc := hfront c (by simp)
    apply SpacedAfter.char hc
    by_cases hempty : front = []
    · subst hempty
      exact hrest c hc
    · exact ih (fun d hd => hfront d (by simp [hd])) hempty

theorem spacedAfter_joinWith {before : Option Char} {parts : List (List Char)}
    (h : ∀ part ∈ parts, part ≠ [] ∧ ∀ c ∈ part, isSpace c = false) :
    SpacedAfter before (joinWith [' '] parts) := by
  induction parts generalizing before with
  | nil => exact .nil before
  | cons part parts ih =>
    obtain ⟨hne, hpart⟩ := h part (by simp)
    have hothers := fun other hother => h other (List.mem_cons_of_mem part hother)
    cases parts with
    | nil =>
      have hall : SpacedAfter before (part ++ []) := .append hpart hne fun c _ => .nil (some c)
      rwa [List.append_nil] at hall
    | cons next parts =>
      rw [joinWith, List.append_assoc]
      · apply SpacedAfter.append hpart hne
        intro c hc
        obtain ⟨hnext, hchars⟩ := h next (by simp)
        obtain ⟨d, tail, rfl⟩ := List.exists_cons_of_ne_nil hnext
        have hrest : SpacedAfter none (joinWith [' '] ((d :: tail) :: parts)) := ih hothers
        obtain ⟨more, hmore⟩ : ∃ more, joinWith [' '] ((d :: tail) :: parts) = d :: more := by
          cases parts with
          | nil => exact ⟨tail, rfl⟩
          | cons => exact ⟨_, rfl⟩
        rw [hmore] at hrest ⊢
        cases hrest with
        | char hd hrest => exact .space hc hd hrest
      · simp

theorem SpacedAfter.separateCloser {before : Option Char} {text : List Char}
    (h : SpacedAfter before text) : SpacedAfter before (separateCloser text) := by
  fun_induction Text.separateCloser text generalizing before with
  | case1 rest ih =>
    have hrest : SpacedAfter (some '/') rest := by
      cases h with
      | char _ h =>
        cases h with
        | char _ h => exact h
    exact .char (by decide) (.space (by decide) (by decide) (ih hrest))
  | case2 c rest hne ih =>
    cases h with
    | char hc h => exact .char hc (ih h)
    | @space left right tail hleft hright h =>
      have hrest : SpacedAfter (some ' ') (Text.separateCloser (right :: tail)) :=
        ih (.char hright h)
      have hhead := head_separateCloser right tail
      obtain ⟨more, hmore⟩ := List.head?_eq_some_iff.mp hhead
      rw [hmore] at hrest ⊢
      cases hrest with
      | char _ hrest => exact .space hleft hright hrest
      | space => cases hright
  | case3 => exact .nil before

theorem singleSpaced_cons {c : Char} {rest : List Char} (hc : isSpace c = false)
    (hrest : SpacedAfter (some c) rest) (h : singleSpaced rest = rest.dropWhile isSpace) :
    singleSpaced (c :: rest) = c :: rest := by
  unfold singleSpaced at h ⊢
  rw [partsBetween.eq_def]
  dsimp only
  rw [if_neg (by simp [hc])]
  cases hrest with
  | nil => rfl
  | @char _ d rest hd hrest =>
    dsimp only
    rw [if_neg (by simp [hd]), joinWith_extendFirst, h, List.dropWhile_cons_of_neg (by simp [hd])]
  | @space _ right rest hleft hright hrest =>
    have hdrop : (' ' :: right :: rest).dropWhile isSpace = right :: rest := by
      rw [List.dropWhile_cons_of_pos (by decide), List.dropWhile_cons_of_neg (by simp [hright])]
    rw [hdrop] at h
    have hne : partsBetween isSpace (' ' :: right :: rest) ≠ [] := by
      intro hnil
      rw [hnil] at h
      cases h
    dsimp only
    rw [if_pos (by decide), joinWith_cons hne, h]
    rfl

theorem SpacedAfter.singleSpaced_eq {before : Option Char} {text : List Char}
    (h : SpacedAfter before text) : singleSpaced text = text.dropWhile isSpace := by
  induction h with
  | nil => rfl
  | @char before c rest hc hrest ih =>
    rw [singleSpaced_cons hc hrest ih, List.dropWhile_cons_of_neg (by simp [hc])]
  | @space left right rest hleft hright hrest ih =>
    have hskip : singleSpaced (' ' :: right :: rest) = singleSpaced (right :: rest) := by
      unfold singleSpaced
      rw [partsBetween.eq_def]
      exact congrArg _ (if_pos (by decide))
    rw [hskip, singleSpaced_cons hright hrest ih, List.dropWhile_cons_of_pos (by decide),
      List.dropWhile_cons_of_neg (by simp [hright])]

theorem infix_of_closes {text : List Char} (h : closes text = true) : ['*', '/'] <:+: text := by
  fun_induction closes text with
  | case1 rest => exact ⟨[], rest, rfl⟩
  | case2 c rest hne ih => exact List.infix_cons (ih h)
  | case3 => cases h

theorem closes_of_infix {text : List Char} (h : ['*', '/'] <:+: text) : closes text = true := by
  obtain ⟨front, rest, rfl⟩ := h
  induction front with
  | nil => rfl
  | cons c front ih =>
    rw [List.cons_append, List.cons_append, closes.eq_def]
    split
    · rfl
    next heq =>
      rw [← (List.cons.inj heq).2]
      exact ih
    next heq => cases heq

theorem closes_eq_false_iff {text : List Char} : closes text = false ↔ ¬['*', '/'] <:+: text := by
  rw [← Bool.not_eq_true]
  exact not_congr ⟨infix_of_closes, closes_of_infix⟩

theorem separateCloser_eq {text : List Char} (h : closes text = false) :
    separateCloser text = text := by
  fun_induction separateCloser text with
  | case1 rest => cases h
  | case2 c rest hne ih =>
    by_cases hc : c = '*'
    · subst hc
      rw [ih]
      rwa [closes_star] at h
      intro hhead
      obtain ⟨tail, rfl⟩ := List.head?_eq_some_iff.mp hhead
      exact hne tail rfl rfl
    · rw [closes_cons hc] at h
      rw [ih h]
  | case3 => rfl

theorem plainMark_eq {c : Char} (h : c ∉ typographicMarks) : plainMark c = c := by
  simp only [typographicMarks, List.mem_cons, List.not_mem_nil, or_false, not_or] at h
  obtain ⟨hopen, hclose, hopens, hcloses, hdash⟩ := h
  unfold plainMark
  rw [if_neg (by simp [hopen, hclose]), if_neg (by simp [hopens, hcloses]), if_neg hdash]

theorem plainMark_not_mem (c : Char) : plainMark c ∉ typographicMarks := by
  have hplain : (typographicMarks.all fun c => plainMark c ∉ typographicMarks) = true := by decide
  by_cases hc : c ∈ typographicMarks
  · simpa using List.all_eq_true.mp hplain c hc
  · rw [plainMark_eq hc]
    exact hc

theorem isCommentForm_commentChars (text : List Char) : IsCommentForm (commentChars text) where
  closer := closes_eq_false_iff.mp (closes_commentChars text)
  spaces := by
    have hparts : ∀ part ∈ partsBetween isSpace (text.map plainMark),
        part ≠ [] ∧ ∀ c ∈ part, isSpace c = false := by
      intro part hpart
      obtain ⟨hne, hchars⟩ := mem_partsBetween hpart
      exact ⟨hne, fun c hc => (hchars c hc).2⟩
    have hspaced : SpacedAfter none (singleSpaced (text.map plainMark)) :=
      spacedAfter_joinWith hparts
    exact hspaced.separateCloser.spaces
  marks c hc := by
    rcases mem_separateCloser hc with rfl | hc
    · decide
    rcases mem_joinWith hc with hc | ⟨part, hpart, hc⟩
    · rw [List.mem_singleton.mp hc]
      decide
    · obtain ⟨d, -, rfl⟩ := List.mem_map.mp ((mem_partsBetween hpart).2 c hc).1
      exact plainMark_not_mem d

theorem commentChars_eq {text : List Char} (h : IsCommentForm text) : commentChars text = text := by
  have hmarks : text.map plainMark = text := by
    rw [List.map_congr_left fun c hc => plainMark_eq (h.marks c hc), List.map_id']
  have hspaced : SpacedAfter none text := spacedAfter_of_forall h.spaces
  have hhead : text.dropWhile isSpace = text := by
    cases hspaced with
    | nil => rfl
    | char hc => rw [List.dropWhile_cons_of_neg (by simp [hc])]
  rw [commentChars, hmarks, hspaced.singleSpaced_eq, hhead,
    separateCloser_eq (closes_eq_false_iff.mpr h.closer)]

theorem comment_eq_self_iff (text : String) : comment text = text ↔ IsCommentForm text.toList := by
  rw [← String.toList_inj, comment, String.toList_ofList]
  constructor
  · intro h
    rw [← h]
    exact isCommentForm_commentChars text.toList
  · exact commentChars_eq

end Text

structure IsDocLine (line : String) : Prop where
  star : ∃ text, line = " *" ++ text
  closer : ¬['*', '/'] <:+: line.toList
  oneLine : ∀ c ∈ line.toList, Script.isLineTerminator c = false

theorem isDocLine_comment (raw : String) :
    IsDocLine (if (Text.comment raw).isEmpty then " *" else " * " ++ Text.comment raw) where
  star := by
    split
    · exact ⟨"", rfl⟩
    · exact ⟨" " ++ Text.comment raw, rfl⟩
  closer := Text.closes_eq_false_iff.mp (closes_docLine (Text.closes_comment raw))
  oneLine c hc := by
    split at hc
    · exact eq_of_beq (List.all_eq_true.mp (by decide : (" *".toList.all fun c =>
        Script.isLineTerminator c == false) = true) c hc)
    · rw [String.toList_append, List.mem_append] at hc
      rcases hc with hc | hc
      · exact eq_of_beq (List.all_eq_true.mp (by decide : (" * ".toList.all fun c =>
          Script.isLineTerminator c == false) = true) c hc)
      · exact Text.isLineTerminator_of_mem_comment hc

theorem docLines_eq_nil_iff (summary description : Option String) (deprecated : Bool) :
    docLines summary description deprecated = [] ↔
      deprecated = false ∧ ∀ text ∈ [summary, description], ∀ raw ∈ text, Text.comment raw = "" := by
  let texts := ([summary, description].filterMap (·.map Text.comment)).filter (!·.isEmpty)
  have htexts : texts = [] ↔
      ∀ text ∈ [summary, description], ∀ raw ∈ text, Text.comment raw = "" := by
    simp only [texts, List.filter_eq_nil_iff, List.mem_filterMap, Option.map_eq_some_iff]
    constructor
    · intro h text htext raw hraw
      simpa using h _ ⟨text, htext, raw, hraw, rfl⟩
    · rintro h _ ⟨text, htext, raw, hraw, rfl⟩
      simp [h text htext raw hraw]
  have hdistinct : distinct texts = [] ↔ texts = [] := by
    simp only [List.eq_nil_iff_forall_not_mem, mem_distinct]
  have hbody : (distinct texts).intersperse "" = [] ↔ distinct texts = [] := by
    cases distinct texts with
    | nil => simp
    | cons first others => cases others <;> simp
  rw [← htexts, ← hdistinct, ← hbody]
  unfold docLines
  dsimp only
  cases deprecated <;> simp [texts]

/-- Free text becomes one line of single-spaced words, and is left alone where it is one. What stands
above a callable is a block of such lines, or nothing where there is nothing to say. -/
theorem comments_normalForm :
    (∀ text, Text.IsCommentForm (Text.comment text).toList ∧
      Text.comment (Text.comment text) = Text.comment text ∧
      (Text.comment text = text ↔ Text.IsCommentForm text.toList)) ∧
    ∀ summary description deprecated,
      (docLines summary description deprecated = [] ↔ deprecated = false ∧
        ∀ text ∈ [summary, description], ∀ raw ∈ text, Text.comment raw = "") ∧
      (docLines summary description deprecated = [] ∨
        ∃ lines, docLines summary description deprecated = "/**" :: lines ++ [" */"] ∧
          ∀ line ∈ lines, IsDocLine line) := by
  constructor
  · intro text
    have hform : Text.IsCommentForm (Text.comment text).toList := by
      rw [Text.comment, String.toList_ofList]
      exact Text.isCommentForm_commentChars text.toList
    exact ⟨hform, (Text.comment_eq_self_iff _).mpr hform, Text.comment_eq_self_iff text⟩
  · intro summary description deprecated
    refine ⟨docLines_eq_nil_iff summary description deprecated, ?_⟩
    rcases docLines_texts summary description deprecated with hnone | ⟨texts, hlines, htexts⟩
    · exact .inl hnone
    refine .inr ⟨_, hlines, ?_⟩
    intro line hline
    obtain ⟨text, htext, rfl⟩ := List.mem_map.mp hline
    -- a blank line and the mark are flattened texts as well
    rcases htexts text htext with rfl | rfl | ⟨raw, rfl⟩
    · exact isDocLine_comment ""
    · exact isDocLine_comment "@deprecated"
    · exact isDocLine_comment raw

end TypedClient
