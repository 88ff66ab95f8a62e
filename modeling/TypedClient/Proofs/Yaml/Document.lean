import TypedClient.Proofs.Yaml.Tokens

namespace TypedClient.Yaml

open Config (IsName)

namespace Line

def nodes {α : Type} (line : Line) : Node α × Node α :=
  (.scalar none none true (String.ofList line.name),
    .scalar none none line.isPlain (String.ofList line.text))

def pair (line : Line) : String × Tree :=
  (String.ofList line.name, .scalar none line.isPlain (String.ofList line.text))

theorem length_flatMap_tokens (lines : List Line) :
    (lines.flatMap tokens).length = 4 * lines.length := by
  induction lines with
  | nil => rfl
  | cons line lines ih =>
    rw [List.flatMap_cons, List.length_append, ih, List.length_cons]
    exact Nat.add_comm 4 (4 * lines.length)

end Line

theorem blockEntries_line (handles : Handles) (seen : List (Node String × Node String))
    (line : Line) (rest : List Token) (limit : Nat) :
    blockEntries handles seen (limit + 3) (line.tokens ++ rest) =
      blockEntries handles (line.nodes :: seen) (limit + 2) rest :=
  rfl

theorem blockEntries_lines (handles : Handles) (seen : List (Node String × Node String))
    (lines : List Line) (rest : List Token) (limit : Nat) :
    blockEntries handles seen (lines.length + limit + 2)
        (lines.flatMap Line.tokens ++ .blockEnd :: rest) =
      some (seen.reverse ++ lines.map Line.nodes, rest) := by
  induction lines generalizing seen with
  | nil =>
    rw [List.map_nil, List.append_nil]
    rfl
  | cons line lines ih =>
    rw [List.flatMap_cons, List.append_assoc, List.length_cons,
      Nat.add_right_comm lines.length 1 limit, blockEntries_line, ih, List.reverse_cons,
      List.append_assoc]
    rfl

theorem documents_lines (lines : List Line) :
    documents (.blockMapping :: (lines.flatMap Line.tokens ++ [.blockEnd])) =
      some [.mapping none none (lines.map Line.nodes)] := by
  obtain ⟨limit, hlimit⟩ : ∃ limit, 2 * (lines.flatMap Line.tokens ++ [Token.blockEnd]).length + 3 =
      lines.length + limit + 2 := by
    refine ⟨7 * lines.length + 3, ?_⟩
    rw [List.length_append, Line.length_flatMap_tokens, List.length_singleton]
    omega
  have hnode : node standardHandles .block
      (2 * (lines.flatMap Line.tokens ++ [Token.blockEnd]).length + 4)
      (.blockMapping :: (lines.flatMap Line.tokens ++ [.blockEnd])) =
        some (.mapping none none (lines.map Line.nodes), []) := by
    show (blockEntries standardHandles [] (2 * _ + 3) _).bind _ = _
    rw [hlimit, blockEntries_lines]
    rfl
  show (node standardHandles .block (2 * _ + 4) _).bind _ = _
  rw [hnode]
  rfl

theorem numberedEntries_lines (lines : List Line) (numbers : AnchorNumbers) :
    (numberedEntries (lines.map Line.nodes)).run numbers =
      some (lines.map Line.nodes, numbers) := by
  induction lines with
  | nil => rfl
  | cons line lines ih =>
    rw [List.map_cons, Line.nodes, numberedEntries]
    show ((numberedEntries (lines.map Line.nodes)).run numbers).bind _ = _
    rw [ih]
    rfl

-- An alias is followed before the recursion on the depth, and no equations are derived for such a
-- definition; it is opened as it is here, and only here.
theorem expand_scalar (targets : List (Nat × Node Nat)) (depth : Nat) (tag : Option String)
    (isPlain : Bool) (text : String) :
    (Node.scalar none tag isPlain text).expand targets depth = pure (.scalar tag isPlain text) := by
  delta Node.expand
  cases depth <;> rfl

theorem expand_mapping (targets : List (Nat × Node Nat)) (depth : Nat) (tag : Option String)
    (entries : List (Node Nat × Node Nat)) :
    (Node.mapping none tag entries).expand targets (depth + 1) = do
      let entries ← entries.mapM fun (key, value) => do
        return (← key.expand targets depth, ← value.expand targets depth)
      return .mapping tag entries := by
  delta Node.expand
  rfl

def mappingOf (entries : List (String × Tree)) : Tree :=
  .mapping none (entries.map fun (name, tree) => (.scalar none true name, tree))

theorem expand_nodes (targets : List (Nat × Node Nat)) (depth : Nat) (lines : List Line) :
    (Node.mapping none none (lines.map Line.nodes)).expand targets (depth + 1) =
      pure (mappingOf (lines.map Line.pair)) := by
  rw [expand_mapping, List.mapM_map]
  simp only [Function.comp_def, Line.nodes, expand_scalar, pure_bind, List.mapM_pure]
  rw [mappingOf, List.map_map]
  rfl

theorem tree?_nodes (lines : List Line) :
    (Node.mapping none none (lines.map Line.nodes)).tree? =
      some (mappingOf (lines.map Line.pair)) := by
  have hnumbered : (Node.numbered (.mapping none none (lines.map Line.nodes))).run [] =
      some (.mapping none none (lines.map Line.nodes), []) := by
    show ((numberedEntries (lines.map Line.nodes)).run []).bind _ = _
    rw [numberedEntries_lines]
    rfl
  rw [Node.tree?, hnumbered]
  simp only [Option.bind_eq_bind, Option.bind_some]
  rw [maxDepth, expand_nodes]
  rfl

theorem float?_ne_text (text : List Char) (other : String) : float? text ≠ some (.text other) := by
  unfold float?
  split
  · nofun
  · intro h
    obtain ⟨value, -, h⟩ := Option.map_eq_some_iff.mp h
    cases h

theorem of_plainValue? {text other : String} (h : plainValue? text = some (.text other)) :
    (text.isEmpty || isNull text) = false ∧ other = text := by
  unfold plainValue? at h
  split at h
  · cases h
  next hfull =>
    refine ⟨by simpa using hfull, ?_⟩
    split at h
    · cases h
    split at h
    · unfold wordValue? at h
      split at h <;> cases h
    split at h
    · cases h
      rfl
    · cases hfloat : float? text.toList with
      | none =>
        rw [hfloat] at h
        cases h
        rfl
      | some value =>
        rw [hfloat] at h
        cases h
        exact absurd hfloat (float?_ne_text text.toList other)

theorem plainValue?_of_isReadAsText {text : String} (h : isReadAsText text = true) :
    (text.isEmpty || isNull text) = false ∧ plainValue? text = some (.text text) := by
  rw [isReadAsText, Bool.and_eq_true] at h
  obtain ⟨-, h⟩ := h
  split at h
  next other hvalue =>
    obtain ⟨hfull, rfl⟩ := of_plainValue? hvalue
    exact ⟨hfull, hvalue⟩
  · cases h

def isWrittenPlain (value : String) : Bool :=
  !value.toList.contains '\n' && (isReadAsText value && canBePlain value.toList)

def written? : String × Json → Option (String × Tree)
  | (name, .null) => some (name, .scalar none true "null")
  | (name, .bool value) => some (name, .scalar none true (if value then "true" else "false"))
  | (name, .text value) => some (name, .scalar none (isWrittenPlain value) value)
  | _ => none

theorem ne_nil_of_isReadAsText {value : String} (h : isReadAsText value = true) :
    value.toList ≠ [] := by
  intro hnil
  rw [String.toList_eq_nil_iff] at hnil
  subst hnil
  exact absurd h (by decide)

theorem isScalar_singleQuotedText {text : List Char} (hfeed : '\n' ∉ text) :
    IsScalar (singleQuotedText text ++ ['\n']) false text := by
  rw [singleQuotedText]
  split
  next htext =>
    have h := IsScalar.singleQuoted htext hfeed
    simpa using h
  · have h := IsScalar.doubleQuoted text
    simpa [doubleQuotedText] using h

theorem exists_isScalar (value : String) : ∃ written,
    writtenText value = ' ' :: written ∧ IsScalar written (isWrittenPlain value) value.toList := by
  unfold writtenText isWrittenPlain
  dsimp only
  split
  next hfeed =>
    have hne : value.toList ≠ [] := List.ne_nil_of_mem (List.contains_iff_mem.mp hfeed)
    rw [hfeed, Bool.not_true, Bool.false_and]
    split
    next htext => exact ⟨_, by simp [blockEnding], .block htext hne⟩
    · exact ⟨_, by simp [doubleQuotedText], .doubleQuoted value.toList⟩
  next hfeed =>
    rw [Bool.not_eq_true] at hfeed
    rw [hfeed, Bool.not_false, Bool.true_and]
    split
    next hplain =>
      rw [hplain]
      rw [Bool.and_eq_true] at hplain
      exact ⟨_, rfl, .plain hplain.2 (ne_nil_of_isReadAsText hplain.1)⟩
    next hplain =>
      rw [Bool.not_eq_true] at hplain
      rw [hplain]
      have hnot : '\n' ∉ value.toList := fun hmem =>
        Bool.false_ne_true (hfeed.symm.trans (List.contains_iff_mem.mpr hmem))
      exact ⟨_, rfl, isScalar_singleQuotedText hnot⟩

theorem isScalar_word {word : String} (h : word = "null" ∨ word = "true" ∨ word = "false") :
    IsScalar (word.toList ++ ['\n']) true word.toList := by
  have hplain : ∀ text ∈ [['n', 'u', 'l', 'l'], ['t', 'r', 'u', 'e'], ['f', 'a', 'l', 's', 'e']],
      canBePlain text = true := by
    simp only [List.forall_mem_cons, canBePlain, hasMark, isMark, String.contains_char_eq]
    decide
  rcases h with rfl | rfl | rfl
  · exact .plain (hplain _ (by decide)) (by decide)
  · exact .plain (hplain _ (by decide)) (by decide)
  · exact .plain (hplain _ (by decide)) (by decide)

theorem entryLine_cases (entry : String × Json) :
    (written? entry = none ∧ entryLine entry = "") ∨ ∃ written isPlain text,
      written? entry = some (entry.1, .scalar none isPlain text) ∧
      IsScalar written isPlain text.toList ∧
      (entryLine entry).toList = entry.1.toList ++ ':' :: ' ' :: written := by
  obtain ⟨name, value⟩ := entry
  cases value with
  | null =>
    refine .inr ⟨_, true, "null", rfl, isScalar_word (by decide), ?_⟩
    rw [entryLine, String.toList_append]
    rfl
  | bool value =>
    refine .inr ⟨_, true, if value then "true" else "false", rfl,
      isScalar_word (by cases value <;> decide), ?_⟩
    rw [entryLine]
    simp only [String.toList_append, List.append_assoc]
    rfl
  | text value =>
    obtain ⟨written, htext, hscalar⟩ := exists_isScalar value
    refine .inr ⟨written, isWrittenPlain value, value, rfl, hscalar, ?_⟩
    simp only [entryLine, htext, String.toList_append, String.toList_ofList, List.append_assoc]
    rfl
  | number => exact .inl ⟨rfl, rfl⟩
  | array => exact .inl ⟨rfl, rfl⟩
  | object => exact .inl ⟨rfl, rfl⟩

theorem toList_lines_cons (entry : String × Json) (entries : List (String × Json)) :
    (lines (entry :: entries)).toList = (entryLine entry).toList ++ (lines entries).toList := by
  rw [lines, List.map_cons, String.join_cons, String.toList_append]
  rfl

theorem exists_lines {entries : List (String × Json)}
    (hnames : ∀ entry ∈ entries, IsName entry.1.toList)
    (hlength : ∀ entry ∈ entries, entry.1.toList.length ≤ Scanner.longestKey) :
    ∃ written : List Line, written.flatMap Line.chars = (lines entries).toList ∧
      written.map Line.pair = entries.filterMap written? := by
  induction entries with
  | nil => exact ⟨[], rfl, rfl⟩
  | cons entry entries ih =>
    obtain ⟨hname, hnames⟩ := List.forall_mem_cons.mp hnames
    obtain ⟨hshort, hlength⟩ := List.forall_mem_cons.mp hlength
    obtain ⟨written, hchars, hpairs⟩ := ih hnames hlength
    rcases entryLine_cases entry with ⟨hnone, hline⟩ | ⟨value, isPlain, text, hsome, hscalar, hline⟩
    · refine ⟨written, ?_, ?_⟩
      · rw [toList_lines_cons, hline, hchars]
        rfl
      · rw [List.filterMap_cons_none hnone, hpairs]
    · refine ⟨⟨entry.1.toList, value, isPlain, text.toList, hname, hshort, hscalar⟩ :: written,
        ?_, ?_⟩
      · rw [toList_lines_cons, hline, ← hchars]
        rfl
      · rw [List.filterMap_cons_some hsome, List.map_cons, hpairs, Line.pair, String.ofList_toList,
          String.ofList_toList]

theorem tree?_lines {entries : List (String × Json)}
    (hnames : ∀ entry ∈ entries, IsName entry.1.toList)
    (hlength : ∀ entry ∈ entries, entry.1.toList.length ≤ Scanner.longestKey)
    (hne : entries.filterMap written? ≠ []) :
    tree? (lines entries) = some (mappingOf (entries.filterMap written?)) := by
  obtain ⟨written, hchars, hpairs⟩ := exists_lines hnames hlength
  have hwritten : written ≠ [] := by
    rintro rfl
    exact hne hpairs.symm
  rw [tree?, ← hchars, tokens_lines hwritten]
  simp only [Option.bind_eq_bind, Option.bind_some]
  rw [documents_lines]
  simp only [Option.bind_some]
  rw [tree?_nodes, hpairs]

end TypedClient.Yaml
