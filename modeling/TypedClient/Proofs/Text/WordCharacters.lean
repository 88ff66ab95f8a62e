import Mathlib.Data.List.TakeDrop
import TypedClient.Proofs.Text.CaseMapping

namespace TypedClient.Text

section

variable {p : Char → Bool} {front rest : List Char}

theorem takeWhile_append_stretch (hfront : ∀ c ∈ front, p c = true)
    (hrest : ∀ c ∈ rest.head?, p c = false) : (front ++ rest).takeWhile p = front := by
  rw [List.takeWhile_append_of_pos hfront]
  cases rest with
  | nil => simp
  | cons c rest => simp [hrest c (by simp)]

theorem dropWhile_append_stretch (hfront : ∀ c ∈ front, p c = true)
    (hrest : ∀ c ∈ rest.head?, p c = false) : (front ++ rest).dropWhile p = rest := by
  rw [List.dropWhile_append_of_pos hfront]
  cases rest with
  | nil => rfl
  | cons c rest => simp [hrest c (by simp)]

theorem span_append_stretch (hfront : ∀ c ∈ front, p c = true)
    (hrest : ∀ c ∈ rest.head?, p c = false) : (front ++ rest).span p = (front, rest) := by
  rw [List.span_eq_takeWhile_dropWhile, takeWhile_append_stretch hfront hrest,
    dropWhile_append_stretch hfront hrest]

end

def endsBetween (left right : Char) : Bool :=
  isLower left && !isUpper left && isUpper right

def goesOn (left : Char) : List Char → Bool
  | [] => false
  | right :: _ => isWordChar right && !endsBetween left right

/-- The words that snake case joins, each found by looking one character ahead. -/
def words : List Char → List (List Char)
  | [] => []
  | c :: rest =>
    if isWordChar c then
      if goesOn c rest then extendFirst (foldChar c) (words rest)
      else [foldChar c] :: words rest
    else words rest

theorem mem_extendFirst {c : Char} {parts : List (List Char)} {part : List Char}
    (h : part ∈ extendFirst c parts) :
    (∃ first ∈ parts, part = c :: first) ∨ part = [c] ∨ part ∈ parts := by
  cases parts with
  | nil =>
    right; left
    simpa [extendFirst] using h
  | cons first parts =>
    rcases List.mem_cons.mp h with rfl | hrest
    · exact .inl ⟨first, by simp, rfl⟩
    · exact .inr (.inr (by simp [hrest]))

theorem mem_words {text word : List Char} (hword : word ∈ words text) :
    word ≠ [] ∧ ∀ c ∈ word, ∃ d, isWordChar d = true ∧ c = foldChar d := by
  induction text generalizing word with
  | nil => simp [words] at hword
  | cons d rest ih =>
    rw [words] at hword
    split at hword
    next hd =>
      have hsingle : [foldChar d] ≠ [] ∧ ∀ c ∈ [foldChar d], ∃ d, isWordChar d = true ∧
          c = foldChar d :=
        ⟨by simp, by simpa using ⟨d, hd, rfl⟩⟩
      split at hword
      · rcases mem_extendFirst hword with ⟨first, hfirst, rfl⟩ | rfl | hmem
        · refine ⟨by simp, ?_⟩
          intro c hc
          rcases List.mem_cons.mp hc with rfl | hc
          · exact ⟨d, hd, rfl⟩
          · exact (ih hfirst).2 c hc
        · exact hsingle
        · exact ih hmem
      · rcases List.mem_cons.mp hword with rfl | hmem
        · exact hsingle
        · exact ih hmem
    next => exact ih hword

theorem isWordChar_of_mem_words {text word : List Char} (hword : word ∈ words text) :
    ∀ c ∈ word, isWordChar c = true := by
  intro c hc
  obtain ⟨d, hd, rfl⟩ := (mem_words hword).2 c hc
  exact isWordChar_foldChar hd

theorem mem_joinWith {separator : List Char} {parts : List (List Char)} {c : Char}
    (h : c ∈ joinWith separator parts) : c ∈ separator ∨ ∃ part ∈ parts, c ∈ part := by
  induction parts with
  | nil => simp [joinWith] at h
  | cons part parts ih =>
    cases parts with
    | nil => exact .inr ⟨part, by simp, h⟩
    | cons next parts =>
      rw [joinWith, List.mem_append, List.mem_append] at h
      · rcases h with (h | h) | h
        · exact .inr ⟨part, by simp, h⟩
        · exact .inl h
        · rcases ih h with h | ⟨part, hpart, hc⟩
          · exact .inl h
          · exact .inr ⟨part, List.mem_cons_of_mem _ hpart, hc⟩
      · simp

theorem joinWith_extendFirst (separator : List Char) (c : Char) (parts : List (List Char)) :
    joinWith separator (extendFirst c parts) = c :: joinWith separator parts := by
  cases parts with
  | nil => rfl
  | cons part parts => cases parts <;> rfl

theorem joinWith_cons {separator part : List Char} {parts : List (List Char)} (h : parts ≠ []) :
    joinWith separator (part :: parts) = part ++ separator ++ joinWith separator parts := by
  obtain ⟨next, parts, rfl⟩ := List.exists_cons_of_ne_nil h
  rfl

theorem eq_nil_of_joinWith {separator : List Char} {parts : List (List Char)}
    (h : joinWith separator parts = []) (hparts : ∀ part ∈ parts, part ≠ []) : parts = [] := by
  cases parts with
  | nil => rfl
  | cons part parts =>
    have hne := hparts part (by simp)
    cases parts with
    | nil => exact absurd h hne
    | cons next parts => simp [joinWith, hne] at h

theorem mem_partsBetween {isSeparator : Char → Bool} {text part : List Char}
    (h : part ∈ partsBetween isSeparator text) :
    part ≠ [] ∧ ∀ c ∈ part, c ∈ text ∧ isSeparator c = false := by
  induction text generalizing part with
  | nil => simp [partsBetween] at h
  | cons c rest ih =>
    have hweaken {part : List Char} (hpart : part ∈ partsBetween isSeparator rest) :
        part ≠ [] ∧ ∀ d ∈ part, d ∈ c :: rest ∧ isSeparator d = false := by
      obtain ⟨hne, hchars⟩ := ih hpart
      exact ⟨hne, fun d hd => ⟨List.mem_cons_of_mem _ (hchars d hd).1, (hchars d hd).2⟩⟩
    rw [partsBetween.eq_def] at h
    dsimp only at h
    split at h
    · exact hweaken h
    next hc =>
      have hsingle : [c] ≠ [] ∧ ∀ d ∈ [c], d ∈ c :: rest ∧ isSeparator d = false :=
        ⟨by simp, by simpa using hc⟩
      split at h
      · rw [List.mem_singleton] at h
        exact h ▸ hsingle
      · split at h
        · rcases List.mem_cons.mp h with rfl | h
          · exact hsingle
          · exact hweaken h
        · rcases mem_extendFirst h with ⟨first, hfirst, rfl⟩ | rfl | hmem
          · obtain ⟨-, hchars⟩ := hweaken hfirst
            refine ⟨by simp, ?_⟩
            intro d hd
            rcases List.mem_cons.mp hd with rfl | hd
            · exact hsingle.2 d (by simp)
            · exact hchars d hd
          · exact hsingle
          · exact hweaken hmem

end TypedClient.Text
