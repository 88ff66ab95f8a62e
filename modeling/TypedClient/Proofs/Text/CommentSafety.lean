import Mathlib.Tactic.Tauto
import TypedClient.Text.Comment
import TypedClient.Proofs.Text.WordCharacters

namespace TypedClient.Text

def closes : List Char → Bool
  | '*' :: '/' :: _ => true
  | _ :: rest => closes rest
  | [] => false

theorem closes_cons {c : Char} (hc : c ≠ '*') (rest : List Char) :
    closes (c :: rest) = closes rest := by
  rw [closes.eq_def]
  split
  next h => exact absurd (List.cons.inj h).1 hc
  next h => rw [(List.cons.inj h).2]
  next h => cases h

theorem closes_star {rest : List Char} (h : rest.head? ≠ some '/') :
    closes ('*' :: rest) = closes rest := by
  rw [closes.eq_def]
  split
  next he =>
    obtain ⟨-, rfl⟩ := List.cons.inj he
    exact absurd rfl h
  next he => rw [(List.cons.inj he).2]
  next he => cases he

theorem closes_append {front rest : List Char} (hfront : closes front = false)
    (hrest : closes rest = false) (hhead : rest.head? ≠ some '/') :
    closes (front ++ rest) = false := by
  induction front with
  | nil => exact hrest
  | cons c front ih =>
    by_cases hc : c = '*'
    · subst hc
      cases front with
      | nil => rwa [List.singleton_append, closes_star hhead]
      | cons d front =>
        have hd : d ≠ '/' := by
          rintro rfl
          cases hfront
        have hne : (d :: (front ++ rest)).head? ≠ some '/' := by simpa using hd
        rw [closes_star (by simpa using hd)] at hfront
        rw [List.cons_append, List.cons_append, closes_star hne]
        exact ih hfront
    · rw [closes_cons hc] at hfront
      rw [List.cons_append, closes_cons hc]
      exact ih hfront

theorem closes_separateCloser (text : List Char) : closes (separateCloser text) = false := by
  fun_induction separateCloser text with
  | case1 rest ih => rwa [closes_star (by simp), closes_cons (by decide), closes_cons (by decide)]
  | case2 c rest hne ih =>
    by_cases hc : c = '*'
    · subst hc
      have hhead : (separateCloser rest).head? ≠ some '/' := by
        cases rest with
        | nil => simp [separateCloser]
        | cons d rest =>
          have hd : d ≠ '/' := by
            rintro rfl
            exact hne rest rfl rfl
          rw [separateCloser.eq_def]
          split <;> simp_all
      rwa [closes_star hhead]
    · rwa [closes_cons hc]
  | case3 => rfl

theorem closes_commentChars (text : List Char) : closes (commentChars text) = false :=
  closes_separateCloser _

theorem mem_separateCloser {text : List Char} {c : Char} (h : c ∈ separateCloser text) :
    c = ' ' ∨ c ∈ text := by
  fun_induction separateCloser text with
  | case1 rest ih =>
    simp only [List.mem_cons] at h ⊢
    tauto
  | case2 d rest _ ih =>
    simp only [List.mem_cons] at h ⊢
    tauto
  | case3 => cases h

theorem eq_space_of_mem_commentChars {text : List Char} {c : Char} (h : c ∈ commentChars text)
    (hspace : isSpace c = true) : c = ' ' := by
  rcases mem_separateCloser h with h | h
  · exact h
  · rcases mem_joinWith h with h | ⟨part, hpart, hc⟩
    · simpa using h
    · have hnot := ((mem_partsBetween hpart).2 c hc).2
      rw [hspace] at hnot
      cases hnot

theorem head_partsBetween {isSeparator : Char → Bool} {c : Char} (hc : isSeparator c = false)
    (rest : List Char) : ∃ part parts, partsBetween isSeparator (c :: rest) = (c :: part) :: parts := by
  rw [partsBetween.eq_def]
  dsimp only
  rw [if_neg (by simp [hc])]
  split
  · exact ⟨_, _, rfl⟩
  next d rest =>
    split
    · exact ⟨_, _, rfl⟩
    · cases hparts : partsBetween isSeparator (d :: rest) with
      | nil => exact ⟨_, _, rfl⟩
      | cons part parts => exact ⟨_, _, rfl⟩

theorem head_separateCloser (c : Char) (rest : List Char) :
    (separateCloser (c :: rest)).head? = some c := by
  rw [separateCloser.eq_def]
  split
  next h => simp [(List.cons.inj h).1]
  next h => simp [(List.cons.inj h).1]
  next h => cases h

theorem head_comment {text : String} {c : Char} {rest : List Char} (htext : text.toList = c :: rest)
    (hmark : plainMark c = c) (hspace : isSpace c = false) :
    (comment text).toList.head? = some c := by
  obtain ⟨part, parts, hparts⟩ := head_partsBetween hspace (rest.map plainMark)
  rw [comment, String.toList_ofList, commentChars, htext, List.map_cons, hmark, singleSpaced, hparts]
  cases parts with
  | nil => exact head_separateCloser _ _
  | cons next parts => exact head_separateCloser _ _

end TypedClient.Text
