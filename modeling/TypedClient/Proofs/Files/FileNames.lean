import TypedClient.Files.Path
import TypedClient.Proofs.Naming.Freshness

namespace TypedClient

namespace Text

variable {separator : Char} {text : List Char}

theorem split_of_not_mem (h : separator ∉ text) : split separator text = [text] := by
  induction text with
  | nil => rfl
  | cons c text ih =>
    obtain ⟨hc, htext⟩ := not_or.mp (fun hor => h (List.mem_cons.mpr hor))
    rw [split, if_neg (Ne.symm hc), ih htext]

theorem split_append (separator : Char) (front back : List Char) :
    split separator (front ++ separator :: back) = split separator front ++ split separator back := by
  induction front with
  | nil => simp [split]
  | cons c front ih =>
    rw [List.cons_append, split, split, ih]
    by_cases hc : c = separator
    · rw [if_pos hc, if_pos hc, List.cons_append]
    · rw [if_neg hc, if_neg hc]
      cases hfront : split separator front with
      | nil => exact absurd hfront (split_ne_nil separator front)
      | cons part parts => rfl

end Text

namespace Path

structure IsFileName (name : String) : Prop where
  ne_empty : name ≠ ""
  slash : '/' ∉ name.toList
  ne_dot : name ≠ "."
  ne_dots : name ≠ ".."

variable {name : String}

theorem names_append (front back : String) : names (front ++ "/" ++ back) = names front ++ names back := by
  have hlist : (front ++ "/" ++ back).toList = front.toList ++ '/' :: back.toList := by simp
  rw [names, hlist, Text.split_append, List.filter_append, List.map_append]
  rfl

theorem names_of_isFileName (h : IsFileName name) : names name = [name] := by
  have hne : name.toList ≠ [] := by simpa using h.ne_empty
  rw [names, Text.split_of_not_mem h.slash, List.filter_cons_of_pos (by simpa using hne)]
  simp

theorem isAbsolute_eq_false (h : IsFileName name) : isAbsolute name = false := by
  unfold isAbsolute
  cases hname : name.toList with
  | nil => rfl
  | cons c rest =>
    have hc : c ≠ '/' := by
      rintro rfl
      exact h.slash (by simp [hname])
    simpa using hc

theorem join_of_isFileName (h : IsFileName name) (directory : String) : join directory name =
    if directory.isEmpty || endsInSlash directory then directory ++ name
    else directory ++ "/" ++ name := by
  rw [join, isAbsolute_eq_false h, if_neg (by decide)]

theorem exists_of_endsInSlash {directory : String} (h : endsInSlash directory = true) :
    ∃ front : String, directory = front ++ "/" := by
  unfold endsInSlash at h
  rw [beq_iff_eq, List.getLast?_eq_some_iff] at h
  obtain ⟨front, hfront⟩ := h
  refine ⟨String.ofList front, ?_⟩
  rw [← String.toList_inj, hfront]
  simp

theorem names_join (h : IsFileName name) (directory : String) :
    names (join directory name) = names directory ++ [name] := by
  rw [join_of_isFileName h]
  by_cases hempty : directory.isEmpty = true
  · obtain rfl : directory = "" := by simpa using hempty
    rw [if_pos (by simp), String.empty_append, names_of_isFileName h]
    rfl
  by_cases hslash : endsInSlash directory = true
  · obtain ⟨front, rfl⟩ := exists_of_endsInSlash hslash
    have hnames := names_append front ""
    rw [String.append_empty] at hnames
    rw [if_pos (by simp [hslash]), names_append, hnames, names_of_isFileName h]
    simp [names, Text.split]
  · rw [if_neg (by simp [hempty, hslash]), names_append, names_of_isFileName h]

theorem isAbsolute_append {front : String} (h : front ≠ "") (back : String) :
    isAbsolute (front ++ back) = isAbsolute front := by
  have hne : front.toList ≠ [] := by simpa using h
  unfold isAbsolute
  rw [String.toList_append, List.head?_append_of_ne_nil _ hne]

theorem isAbsolute_join (h : IsFileName name) (directory : String) :
    isAbsolute (join directory name) = isAbsolute directory := by
  rw [join_of_isFileName h]
  by_cases hempty : directory = ""
  · subst hempty
    rw [if_pos (by simp), String.empty_append, isAbsolute_eq_false h]
    rfl
  · split
    · exact isAbsolute_append hempty name
    · rw [String.append_assoc]
      exact isAbsolute_append hempty _

theorem endsInSlash_join (h : IsFileName name) (directory : String) :
    endsInSlash (join directory name) = false := by
  have hne : name.toList ≠ [] := by simpa using h.ne_empty
  have hlast : ∀ front : String, endsInSlash (front ++ name) = false := by
    intro front
    unfold endsInSlash
    rw [String.toList_append, List.getLast?_append_of_ne_nil _ hne, List.getLast?_eq_some_getLast hne]
    have hmem := List.getLast_mem hne
    have hc : name.toList.getLast hne ≠ '/' := fun he => h.slash (he ▸ hmem)
    simpa using hc
  rw [join_of_isFileName h]
  split
  · exact hlast directory
  · exact hlast (directory ++ "/")

end Path

namespace Text

structure IsStem (stem : String) : Prop where
  ne_nil : stem.toList ≠ []
  chars : ∀ c ∈ stem.toList, isAsciiAlphanumeric c = true ∨ c = '_' ∨ c = '-'

variable {base stem : String}

theorem isStem_fileStem (text : String) : IsStem (fileStem text) := by
  unfold fileStem fileStemChars
  split
  · constructor
    · simp
    · simp
  next hne =>
    constructor
    · simpa using hne
    · intro c hc
      rw [String.toList_ofList, List.mem_map] at hc
      obtain ⟨d, -, rfl⟩ := hc
      by_cases hd : isStemChar d = true
      · rw [if_pos hd]
        simpa [isStemChar, or_assoc] using hd
      · rw [if_neg hd]
        exact .inr (.inl rfl)

theorem isAsciiAlphanumeric_digitChar : ∀ d < 10,
    isAsciiAlphanumeric (Decimal.digitChar d) = true := by
  decide

theorem isStem_of_numbers (hbase : IsStem base) (h : Naming.Allocator.Numbers base stem) :
    IsStem stem := by
  rcases h with rfl | ⟨n, -, rfl⟩
  · exact hbase
  · constructor
    · simp [Naming.Allocator.numbered, hbase.ne_nil]
    · intro c hc
      rw [Naming.Allocator.numbered, String.toList_append, String.toList_ofList,
        List.mem_append] at hc
      rcases hc with hc | hc
      · exact hbase.chars c hc
      · obtain ⟨d, hd, rfl⟩ := Decimal.mem_digits hc
        exact .inl (isAsciiAlphanumeric_digitChar d hd)

theorem IsStem.slash (h : IsStem stem) : '/' ∉ stem.toList := by
  intro hmem
  rcases h.chars '/' hmem with hc | hc | hc
  · exact absurd hc (by decide)
  · exact absurd hc (by decide)
  · exact absurd hc (by decide)

end Text

end TypedClient
