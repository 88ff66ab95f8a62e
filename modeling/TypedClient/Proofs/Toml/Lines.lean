import Mathlib.Data.Bool.AllAny
import TypedClient.Config.Basic
import TypedClient.Proofs.Text.WordCharacters
import TypedClient.Proofs.Toml.Strings
import TypedClient.Toml.Document

namespace TypedClient.Toml

open Config (IsName nameChars)

variable {name rest text : List Char}

theorem skipWhite_of_head (h : ∀ c ∈ text.head?, isWhite c = false) : skipWhite text = text := by
  cases text with
  | nil => rfl
  | cons c text =>
    rw [skipWhite, List.dropWhile_cons_of_neg]
    rw [h c rfl]
    decide

theorem nameChar_facts : ∀ c ∈ nameChars, isBareChar c = true ∧ isWhite c = false ∧ c ≠ '"' ∧
    c ≠ '\'' ∧ c ≠ '[' ∧ c ≠ '#' ∧ c ≠ '\n' ∧ c ≠ '\r' ∧ c ≠ '\ufeff' :=
  List.all_iff_forall_prop.mp (by decide)

theorem keyPart_name (h : IsName name) (rest : List Char) :
    keyPart (name ++ ' ' :: rest) = some (String.ofList name, ' ' :: rest) := by
  have hspan : (name ++ ' ' :: rest).span isBareChar = (name, ' ' :: rest) := by
    apply Text.span_append_stretch fun c hc => (nameChar_facts c (h.2 c hc)).1
    rintro c hc
    cases hc
    decide
  obtain ⟨c, front, rfl, hc, -⟩ := h.exists_cons
  obtain ⟨-, -, hdouble, hsingle, -⟩ := nameChar_facts c hc
  rw [keyPart.eq_3, hspan]
  · rfl
  · exact fun _ he => hdouble (List.cons.inj he).1
  · exact fun _ he => hsingle (List.cons.inj he).1

theorem key?_name (h : IsName name) (rest : List Char) :
    key? (name ++ ' ' :: '=' :: rest) = some ([], String.ofList name, '=' :: rest) := by
  have hkey : dottedKey maxDepth (name ++ ' ' :: '=' :: rest) =
      some ([String.ofList name], '=' :: rest) := by
    have hwhite : skipWhite (name ++ ' ' :: '=' :: rest) = name ++ ' ' :: '=' :: rest := by
      obtain ⟨c, front, rfl, hc, -⟩ := h.exists_cons
      apply skipWhite_of_head
      rintro d hd
      cases hd
      exact (nameChar_facts c hc).2.1
    rw [maxDepth, dottedKey, hwhite, keyPart_name h]
    rfl
  rw [key?, hkey]
  rfl

theorem head?_of_string {read : List Char × List Char} (h : string text = some read) :
    text.head? = some '"' ∨ text.head? = some '\'' := by
  unfold string at h
  split at h
  · exact .inl rfl
  · exact .inr rfl
  · exact .inl rfl
  · exact .inr rfl
  · cases h

theorem value_of_string {content : List Char} (h : string text = some (content, rest))
    (depth limit : Nat) :
    value depth (limit + 1) text = some (.text (String.ofList content), rest) := by
  have hhead := head?_of_string h
  rw [value.eq_4, h]
  · rintro _ _ _ rfl
    simp at hhead
  · rintro _ _ _ rfl
    simp at hhead

inductive IsValue : List Char → SettingValue → Prop
  | text (content : String) : IsValue (stringLiteral content).toList (.text content)
  | flag (content : Bool) :
    IsValue (if content then ['t', 'r', 'u', 'e'] else ['f', 'a', 'l', 's', 'e']) (.flag content)

theorem wordValue_flag (content : Bool) (rest : List Char) :
    wordValue ((if content then ['t', 'r', 'u', 'e'] else ['f', 'a', 'l', 's', 'e']) ++
      '\n' :: rest) = some (.flag content, '\n' :: rest) := by
  have hspan : ∀ {word : List Char}, (∀ c ∈ word, isWordChar c = true) →
      (word ++ '\n' :: rest).span isWordChar = (word, '\n' :: rest) := by
    intro word hword
    apply Text.span_append_stretch hword
    rintro c hc
    cases hc
    decide
  cases content with
  | true =>
    rw [wordValue, if_pos rfl, hspan (List.all_eq_true.mp (by decide))]
    exact if_pos (by decide)
  | false =>
    rw [wordValue, if_neg Bool.false_ne_true, hspan (List.all_eq_true.mp (by decide))]
    exact (if_neg (by decide)).trans (if_pos (by decide))

theorem value_of_isValue {content : SettingValue} (h : IsValue text content) (depth limit : Nat)
    (rest : List Char) :
    value depth (limit + 1) (text ++ '\n' :: rest) = some (content, '\n' :: rest) := by
  cases h with
  | text content =>
    rw [value_of_string (string_stringLiteral content rest), String.ofList_toList]
  | flag content =>
    have hword := wordValue_flag content rest
    rw [value.eq_4]
    · cases content <;> exact hword
    · cases content <;> nofun
    · cases content <;> nofun

theorem IsValue.skipWhite {content : SettingValue} (h : IsValue text content) (rest : List Char) :
    skipWhite (' ' :: (text ++ '\n' :: rest)) = text ++ '\n' :: rest := by
  have hhead : ∀ c ∈ (text ++ '\n' :: rest).head?, isWhite c = false := by
    intro c hc
    cases h with
    | text content =>
      rcases head?_of_string (string_stringLiteral content rest) with he | he
      · cases he.symm.trans hc
        decide
      · cases he.symm.trans hc
        decide
    | flag content =>
      cases content
      · cases hc
        decide
      · cases hc
        decide
  exact skipWhite_of_head hhead

variable {seen : List (String × Item)} {content : SettingValue}

theorem takeLine_line (hname : IsName name) (hcontent : IsValue text content)
    (hnew : Mapping.has seen (String.ofList name) = false) (rest : List Char) :
    takeLine ⟨.table false false seen, []⟩
        (name ++ ' ' :: '=' :: ' ' :: (text ++ '\n' :: rest)) =
      some (⟨.table false false (seen ++ [(String.ofList name, .value content)]), []⟩, rest) := by
  have hadd : (Item.table false false seen).update false []
      (Item.addValue [] (String.ofList name) (.value content)) =
        some (.table false false (seen ++ [(String.ofList name, .value content)])) := by
    show (if _ then _ else _) = _
    rw [if_neg (by simp [hnew])]
  have hkey := key?_name hname (' ' :: (text ++ '\n' :: rest))
  obtain ⟨c, front, rfl, hc, -⟩ := hname.exists_cons
  have hbracket := (nameChar_facts c hc).2.2.2.2.1
  rw [takeLine.eq_3, hkey, Option.bind_eq_bind, Option.bind_some]
  · simp only
    rw [hcontent.skipWhite, value_of_isValue hcontent, Option.bind_eq_bind, Option.bind_some]
    simp only
    rw [hadd]
    rfl
  · exact fun _ he => hbracket (List.cons.inj he).1
  · exact fun _ he => hbracket (List.cons.inj he).1

theorem takeLines_line (hname : IsName name) (hcontent : IsValue text content)
    (hnew : Mapping.has seen (String.ofList name) = false) (limit : Nat) (rest : List Char) :
    takeLines (limit + 1) ⟨.table false false seen, []⟩
        (name ++ ' ' :: '=' :: ' ' :: (text ++ '\n' :: rest)) =
      takeLines limit ⟨.table false false (seen ++ [(String.ofList name, .value content)]), []⟩
        rest := by
  have hstep := takeLine_line hname hcontent hnew rest
  obtain ⟨c, front, rfl, hc, -⟩ := hname.exists_cons
  obtain ⟨-, hwhite, -, -, -, hmark, hfeed, hreturn, -⟩ := nameChar_facts c hc
  rw [List.cons_append] at hstep
  rw [List.cons_append, takeLines, skipFiller.eq_3 false c _ (fun _ he _ => hreturn he),
    if_neg hfeed, if_neg Bool.false_ne_true, if_neg (by simp [hwhite]), if_neg hmark]
  simp only
  rw [hstep]
  rfl

def written? : String × Json → Option (String × Item)
  | (key, .text value) => some (key, .value (.text value))
  | (key, .bool value) => some (key, .value (.flag value))
  | _ => none

theorem entryLine_cases (entry : String × Json) :
    written? entry = none ∧ entryLine entry = "" ∨
      ∃ text content, written? entry = some (entry.1, .value content) ∧ IsValue text content ∧
        (entryLine entry).toList = entry.1.toList ++ ' ' :: '=' :: ' ' :: (text ++ ['\n']) := by
  obtain ⟨key, value⟩ := entry
  match value with
  | .text value => exact .inr ⟨_, _, rfl, .text value, by simp [entryLine]⟩
  | .bool value =>
    refine .inr ⟨_, _, rfl, .flag value, ?_⟩
    cases value <;> simp [entryLine]
  | .null => exact .inl ⟨rfl, rfl⟩
  | .number _ => exact .inl ⟨rfl, rfl⟩
  | .array _ => exact .inl ⟨rfl, rfl⟩
  | .object _ => exact .inl ⟨rfl, rfl⟩

variable {entries : List (String × Json)} {limit : Nat}

theorem toList_lines_cons (entry : String × Json) (entries : List (String × Json)) :
    (lines (entry :: entries)).toList = (entryLine entry).toList ++ (lines entries).toList := by
  rw [lines, List.map_cons, String.join_cons, String.toList_append]
  rfl

theorem takeLines_lines (hnames : ∀ entry ∈ entries, IsName entry.1.toList)
    (hnodup : (entries.map (·.1)).Nodup)
    (hnew : ∀ entry ∈ entries, Mapping.has seen entry.1 = false)
    (hlimit : (lines entries).toList.length < limit) :
    takeLines limit ⟨.table false false seen, []⟩ (lines entries).toList =
      some (.table false false (seen ++ entries.filterMap written?)) := by
  induction entries generalizing seen limit with
  | nil =>
    obtain ⟨limit, rfl⟩ := Nat.exists_eq_succ_of_ne_zero (Nat.ne_zero_of_lt hlimit)
    rw [List.filterMap_nil, List.append_nil]
    rfl
  | cons entry entries ih =>
    obtain ⟨hname, hnames⟩ := List.forall_mem_cons.mp hnames
    obtain ⟨hfresh, hnew⟩ := List.forall_mem_cons.mp hnew
    rw [List.map_cons, List.nodup_cons] at hnodup
    rw [toList_lines_cons] at hlimit ⊢
    rcases entryLine_cases entry with ⟨hwritten, hline⟩ | ⟨text, content, hwritten, hcontent, hline⟩
    · rw [hline, String.toList_empty, List.nil_append] at hlimit ⊢
      rw [List.filterMap_cons_none hwritten]
      exact ih hnames hnodup.2 hnew hlimit
    · rw [hline] at hlimit ⊢
      simp only [List.append_assoc, List.cons_append, List.nil_append, List.length_append,
        List.length_cons] at hlimit ⊢
      obtain ⟨limit, rfl⟩ := Nat.exists_eq_succ_of_ne_zero (Nat.ne_zero_of_lt hlimit)
      rw [takeLines_line hname hcontent (by rwa [String.ofList_toList]), String.ofList_toList, ih]
      · rw [List.filterMap_cons_some hwritten, List.append_assoc]
        rfl
      · exact hnames
      · exact hnodup.2
      · intro other hmem
        have hne : entry.1 ≠ other.1 := fun he => hnodup.1 (he ▸ List.mem_map_of_mem hmem)
        have hother := hnew other hmem
        rw [Mapping.has] at hother ⊢
        simp [hother, hne]
      · omega

theorem lines_head (hnames : ∀ entry ∈ entries, IsName entry.1.toList) :
    (lines entries).toList.head? ≠ some '\ufeff' := by
  induction entries with
  | nil => nofun
  | cons entry entries ih =>
    obtain ⟨hname, hnames⟩ := List.forall_mem_cons.mp hnames
    rw [toList_lines_cons]
    rcases entryLine_cases entry with ⟨-, hline⟩ | ⟨_, _, -, -, hline⟩
    · rw [hline]
      exact ih hnames
    · obtain ⟨c, front, he, hc, -⟩ := hname.exists_cons
      rw [hline, he]
      exact fun h => (nameChar_facts c hc).2.2.2.2.2.2.2.2 (Option.some.inj h)

theorem entries?_lines (hnames : ∀ entry ∈ entries, IsName entry.1.toList)
    (hnodup : (entries.map (·.1)).Nodup) :
    entries? (lines entries) = some (entries.filterMap written?) := by
  have hnew : ∀ entry ∈ entries, Mapping.has ([] : List (String × Item)) entry.1 = false :=
    fun _ _ => rfl
  rw [entries?, if_neg (lines_head hnames), Item.empty,
    takeLines_lines hnames hnodup hnew (Nat.lt_succ_self _)]
  rfl

end TypedClient.Toml
