import TypedClient.Proofs.Naming.Names
import TypedClient.Proofs.Text.CommentSafety
import TypedClient.Text.Literal

namespace TypedClient.Script

open Text (closes escapeChar escapeChars)

inductive Token where
  | word (text : List Char)
  | key (name : List Char)
  | note (text : List Char)
  | mark (c : Char)

def isTokenChar (c : Char) : Bool := Naming.isNameChar c || c == '.'

def takeQuoted : List Char → List Char × List Char
  | [] => ([], [])
  | '"' :: rest => ([], rest)
  | '\\' :: '\\' :: rest => ('\\' :: (takeQuoted rest).1, (takeQuoted rest).2)
  | '\\' :: '"' :: rest => ('"' :: (takeQuoted rest).1, (takeQuoted rest).2)
  | '\\' :: 'n' :: rest => ('\n' :: (takeQuoted rest).1, (takeQuoted rest).2)
  | '\\' :: 'r' :: rest => ('\r' :: (takeQuoted rest).1, (takeQuoted rest).2)
  | '\\' :: 'u' :: '2' :: '0' :: '2' :: '8' :: rest =>
    ('\u2028' :: (takeQuoted rest).1, (takeQuoted rest).2)
  | '\\' :: 'u' :: '2' :: '0' :: '2' :: '9' :: rest =>
    ('\u2029' :: (takeQuoted rest).1, (takeQuoted rest).2)
  | c :: rest => (c :: (takeQuoted rest).1, (takeQuoted rest).2)

def takeNote : List Char → List Char × List Char
  | [] => ([], [])
  | '*' :: '/' :: rest => ([], rest)
  | c :: rest => (c :: (takeNote rest).1, (takeNote rest).2)

theorem takeQuoted_escapeChar (c : Char) (rest : List Char) :
    takeQuoted (escapeChar c ++ rest) = (c :: (takeQuoted rest).1, (takeQuoted rest).2) := by
  have hescape := Text.isEscape_escapeChar c
  generalize escapeChar c = written at hescape
  cases hescape with
  | plain hescape hquote =>
    rw [List.singleton_append, takeQuoted.eq_def]
    split <;> simp_all
  | _ => rfl

theorem takeQuoted_escapeChars (text rest : List Char) :
    takeQuoted (escapeChars text ++ '"' :: rest) = (text, rest) := by
  induction text with
  | nil => rfl
  | cons c text ih =>
    rw [escapeChars] at ih ⊢
    rw [List.flatMap_cons, List.append_assoc, takeQuoted_escapeChar, ih]

theorem takeNote_cons {c : Char} {rest : List Char} (h : c = '*' → rest.head? ≠ some '/') :
    takeNote (c :: rest) = (c :: (takeNote rest).1, (takeNote rest).2) := by
  rw [takeNote.eq_def]
  split
  next he => cases he
  next he =>
    obtain ⟨rfl, rfl⟩ := List.cons.inj he
    exact absurd rfl (h rfl)
  next he =>
    obtain ⟨rfl, rfl⟩ := List.cons.inj he
    rfl

theorem takeNote_append {text : List Char} (h : closes text = false) (rest : List Char) :
    takeNote (text ++ ' ' :: '*' :: '/' :: rest) = (text ++ [' '], rest) := by
  induction text with
  | nil => rfl
  | cons c text ih =>
    have htext : closes text = false ∧ (c = '*' → text.head? ≠ some '/') := by
      by_cases hc : c = '*'
      · subst hc
        have hhead : text.head? ≠ some '/' := by
          intro he
          obtain ⟨tail, rfl⟩ := List.head?_eq_some_iff.mp he
          cases h
        exact ⟨by rwa [Text.closes_star hhead] at h, fun _ => hhead⟩
      · exact ⟨by rwa [Text.closes_cons hc] at h, fun he => absurd he hc⟩
    have hhead : c = '*' → (text ++ ' ' :: '*' :: '/' :: rest).head? ≠ some '/' := by
      intro hc
      have := htext.2 hc
      cases text with
      | nil => simp
      | cons d text => simpa using this
    rw [List.cons_append, takeNote_cons hhead, ih htext.1, List.cons_append]

theorem length_takeQuoted (text : List Char) : (takeQuoted text).2.length ≤ text.length := by
  fun_induction takeQuoted text <;> simp_all <;> omega

theorem length_takeNote (text : List Char) : (takeNote text).2.length ≤ text.length := by
  fun_induction takeNote text <;> simp_all <;> omega

def scan : List Char → List Token
  | [] => []
  | c :: rest =>
    if isTokenChar c then
      .word (c :: rest.takeWhile isTokenChar) :: scan (rest.dropWhile isTokenChar)
    else if c = '"' then .key (takeQuoted rest).1 :: scan (takeQuoted rest).2
    else if c = '/' then .note (takeNote rest).1 :: scan (takeNote rest).2
    else if c = ' ' then scan rest
    else .mark c :: scan rest
termination_by text => text.length
decreasing_by
  · have := (List.dropWhile_sublist isTokenChar (l := rest)).length_le
    simp only [List.length_cons]
    omega
  · have := length_takeQuoted rest
    simp only [List.length_cons]
    omega
  · have := length_takeNote rest
    simp only [List.length_cons]
    omega
  · simp
  · simp

def EndsWord (rest : List Char) : Prop := ∀ c ∈ rest.head?, isTokenChar c = false

theorem scan_word {text rest : List Char} (hne : text ≠ [])
    (htext : ∀ c ∈ text, isTokenChar c = true) (hrest : EndsWord rest) :
    scan (text ++ rest) = .word text :: scan rest := by
  cases text with
  | nil => exact absurd rfl hne
  | cons c text =>
    have htail : ∀ d ∈ text, isTokenChar d = true := fun d hd => htext d (List.mem_cons_of_mem _ hd)
    have htake : rest.takeWhile isTokenChar = [] := by
      cases rest with
      | nil => rfl
      | cons d rest => rw [List.takeWhile_cons_of_neg (by simp [hrest d (by simp)])]
    have hdrop : rest.dropWhile isTokenChar = rest := by
      cases rest with
      | nil => rfl
      | cons d rest => rw [List.dropWhile_cons_of_neg (by simp [hrest d (by simp)])]
    rw [List.cons_append, scan, if_pos (htext c (by simp)), List.takeWhile_append_of_pos htail,
      List.dropWhile_append_of_pos htail, htake, hdrop, List.append_nil]

def marks : List Char := ['\x7b', '\x7d', '(', ')', '[', ']', '|', ';', '?', ':']

theorem isTokenChar_eq_false {c : Char} (h : c ∈ '"' :: '/' :: ' ' :: marks) :
    isTokenChar c = false := by
  have hothers : (('"' :: '/' :: ' ' :: marks).all fun c => isTokenChar c == false) = true := by
    decide
  exact eq_of_beq (List.all_eq_true.mp hothers c h)

theorem endsWord_cons {c : Char} (h : c ∈ '"' :: '/' :: ' ' :: marks) (rest : List Char) :
    EndsWord (c :: rest) := by
  intro d hd
  obtain rfl : c = d := by simpa using hd
  exact isTokenChar_eq_false h

theorem scan_quoted (name rest : List Char) :
    scan ('"' :: (escapeChars name ++ '"' :: rest)) = .key name :: scan rest := by
  have htoken := isTokenChar_eq_false (show '"' ∈ '"' :: '/' :: ' ' :: marks by decide)
  rw [scan, if_neg (by simp [htoken]), if_pos rfl, takeQuoted_escapeChars]

theorem scan_note {note : List Char} (h : closes note = false) (rest : List Char) :
    scan ('/' :: '*' :: ' ' :: (note ++ ' ' :: '*' :: '/' :: rest)) =
      .note ('*' :: ' ' :: note ++ [' ']) :: scan rest := by
  have hclosed : closes ('*' :: ' ' :: note) = false := by
    rwa [Text.closes_star (by simp), Text.closes_cons (by decide)]
  have htake := takeNote_append hclosed rest
  rw [List.cons_append, List.cons_append] at htake
  have htoken := isTokenChar_eq_false (show '/' ∈ '"' :: '/' :: ' ' :: marks by decide)
  rw [scan, if_neg (by simp [htoken]), if_neg (by decide), if_pos rfl, htake]

theorem scan_space (rest : List Char) : scan (' ' :: rest) = scan rest := by
  have htoken := isTokenChar_eq_false (show ' ' ∈ '"' :: '/' :: ' ' :: marks by decide)
  rw [scan, if_neg (by simp [htoken]), if_neg (by decide), if_neg (by decide), if_pos rfl]

theorem scan_mark {c : Char} (h : c ∈ marks) (rest : List Char) :
    scan (c :: rest) = .mark c :: scan rest := by
  have hothers : (marks.all fun c => c != '"' && c != '/' && c != ' ') = true := by decide
  have hc := List.all_eq_true.mp hothers c h
  simp only [Bool.and_eq_true, bne_iff_ne] at hc
  obtain ⟨⟨hquote, hslash⟩, hspace⟩ := hc
  have htoken : isTokenChar c = false := isTokenChar_eq_false (by simp [h])
  rw [scan, if_neg (by simp [htoken]), if_neg hquote, if_neg hslash, if_neg hspace]

end TypedClient.Script
