import TypedClient.Files.Store

namespace TypedClient

inductive Node where
  | file (text : String)
  | directory
  deriving DecidableEq

namespace Entry

def node : Entry → Node
  | .file text => .file text
  | .directory _ => .directory

def node? (root : Entry) (place : List String) : Option Node :=
  (root.descend? place).map node

def IsLeaf (entry : Entry) : Prop := ∀ name names, entry.node? (name :: names) = none

variable {content root : Entry} {entries : List (String × Entry)} {place : List String}

theorem isLeaf_file (text : String) : IsLeaf (.file text) := fun _ _ => rfl

theorem isLeaf_directory : IsLeaf (.directory []) := fun _ _ => rfl

theorem node?_nil (root : Entry) : root.node? [] = some root.node := by
  simp [node?, descend?]

theorem node?_cons (entries : List (String × Entry)) (name : String) (names : List String) :
    node? (.directory entries) (name :: names) =
      (Mapping.get? entries name).bind fun entry => entry.node? names := by
  unfold node?
  rw [descend?, Option.map_bind]
  rfl

theorem isLeaf_of_node (h : root.node ≠ .directory) : IsLeaf root := by
  cases root with
  | file text => exact isLeaf_file text
  | directory entries => exact absurd rfl h

theorem node?_of_append {front back : List String} {node : Node} (hback : back ≠ [])
    (h : root.node? (front ++ back) = some node) : root.node? front = some .directory := by
  induction front generalizing root with
  | nil =>
    cases root with
    | file text =>
      obtain ⟨name, names, rfl⟩ := List.exists_cons_of_ne_nil hback
      cases h
    | directory entries => rfl
  | cons name front ih =>
    cases root with
    | file text => cases h
    | directory entries =>
      rw [List.cons_append, node?_cons] at h
      obtain ⟨entry, hentry, h⟩ := Option.bind_eq_some_iff.mp h
      rw [node?_cons, hentry]
      exact ih h

theorem node?_below {name second : String} {rest : List String} {node : Node}
    (h : root.node? (name :: second :: rest) = some node) : root.node? [name] = some .directory :=
  node?_of_append (List.cons_ne_nil second rest) h

section

variable (content : Entry) (entries : List (String × Entry))

theorem node?_put_last (name : String) (rest : List String) :
    (put content [name] (.directory entries)).node? (name :: rest) = content.node? rest := by
  have hput : put content [name] (.directory entries) =
      .directory (Mapping.insert entries name content) := rfl
  rw [hput, node?_cons, Mapping.get?_insert_self, Option.bind_some]

theorem node?_put_below {names : List String} (hnames : names ≠ []) (name : String)
    (rest : List String) : (put content (name :: names) (.directory entries)).node? (name :: rest) =
      (Mapping.get? entries name).bind fun entry => (put content names entry).node? rest := by
  rw [put, if_neg (by simpa using hnames)]
  cases hentry : Mapping.get? entries name with
  | none =>
    dsimp only
    rw [node?_cons, hentry]
    rfl
  | some entry =>
    dsimp only
    rw [node?_cons, Mapping.get?_insert_self, Option.bind_some, Option.bind_some]

theorem node?_put_beside {name first : String} (h : first ≠ name) (names rest : List String) :
    (put content (name :: names) (.directory entries)).node? (first :: rest) =
      node? (.directory entries) (first :: rest) := by
  rw [put]
  split
  · rw [node?_cons, node?_cons, Mapping.get?_insert_of_ne entries h]
  · split
    · rw [node?_cons, node?_cons, Mapping.get?_insert_of_ne entries h]
    · rfl

theorem node?_put_nil (name : String) (names : List String) :
    (put content (name :: names) (.directory entries)).node? [] = some .directory := by
  rw [put]
  split
  · rfl
  · split <;> rfl

end

/-- A leaf that takes the place of no directory changes its own place at most. -/
theorem node?_put (hleaf : content.IsLeaf) (hplace : root.node? place ≠ some .directory)
    (other : List String) : (put content place root).node? other = root.node? other ∨
      other = place ∧ (put content place root).node? other = some content.node := by
  induction place generalizing root other with
  | nil =>
    rw [put]
    cases other with
    | nil => exact .inr ⟨rfl, node?_nil content⟩
    | cons name names =>
      rw [node?_nil] at hplace
      have hroot := isLeaf_of_node fun he => hplace (congrArg some he)
      exact .inl ((hleaf name names).trans (hroot name names).symm)
  | cons name names ih =>
    cases root with
    | file text => exact .inl rfl
    | directory entries =>
      cases other with
      | nil => exact .inl (node?_put_nil content entries name names)
      | cons first rest =>
        by_cases hfirst : first = name
        · subst hfirst
          by_cases hnames : names = []
          · subst hnames
            rw [node?_put_last]
            cases rest with
            | nil => exact .inr ⟨rfl, node?_nil content⟩
            | cons second rest =>
              -- nothing is below the leaf, and nothing was below what it replaces
              refine .inl ((hleaf second rest).trans ?_)
              cases hnode : node? (.directory entries) (first :: second :: rest) with
              | none => rfl
              | some node => exact absurd (node?_below hnode) hplace
          · rw [node?_put_below content entries hnames, node?_cons]
            rw [node?_cons] at hplace
            cases hentry : Mapping.get? entries first with
            | none => exact .inl rfl
            | some entry =>
              rw [hentry, Option.bind_some] at hplace
              rw [Option.bind_some, Option.bind_some]
              rcases ih hplace rest with h | ⟨rfl, h⟩
              · exact .inl h
              · exact .inr ⟨rfl, h⟩
        · exact .inl (node?_put_beside content entries hfirst names rest)

theorem node?_put_self (content : Entry) {parent : List String} (name : String)
    (h : root.node? parent = some .directory) :
    (put content (parent ++ [name]) root).node? (parent ++ [name]) = some content.node := by
  induction parent generalizing root with
  | nil =>
    cases root with
    | file text => cases h
    | directory entries => exact (node?_put_last content entries name []).trans (node?_nil content)
  | cons first parent ih =>
    cases root with
    | file text => cases h
    | directory entries =>
      rw [node?_cons] at h
      obtain ⟨entry, hentry, h⟩ := Option.bind_eq_some_iff.mp h
      rw [List.cons_append, node?_put_below content entries (by simp), hentry, Option.bind_some]
      exact ih h

end Entry

end TypedClient
