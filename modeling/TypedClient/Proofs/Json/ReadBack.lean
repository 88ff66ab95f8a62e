import Mathlib.Tactic.SplitIfs
import TypedClient.Json.Parse
import TypedClient.Json.Print
import TypedClient.Proofs.Decimal.HexDigits

/-!
Printed objects read back. What a stretch of text does to the reader is a relation between two
readings, and the relations of stretches beside each other compose.
-/

namespace TypedClient.Json

variable {c e : Char} {rest text : List Char} {n : Nat}

theorem pieces_short (hne : e ≠ 'u') (h : shortEscape? e = some c) (rest : List Char) :
    pieces ('\\' :: e :: rest) = (pieces rest).map fun (more, after) => (.char c :: more, after) := by
  rw [pieces.eq_4 e rest (fun _ _ _ _ _ he _ => hne he), h, Option.bind_eq_bind, Option.bind_some]
  cases pieces rest <;> rfl

theorem pieces_hexDigits (h : n < 16 ^ 4) (rest : List Char) :
    pieces ('\\' :: 'u' :: Decimal.hexDigits 'a' 4 n ++ rest) =
      (pieces rest).map fun (more, after) => (.unit n :: more, after) := by
  have hdigits := Decimal.ofDigits?_hexDigits (.inl rfl : 'a' = 'a' ∨ 'a' = 'A') (by decide) h
  obtain ⟨p, q, r, s, he⟩ : ∃ p q r s, Decimal.hexDigits 'a' 4 n = [p, q, r, s] :=
    ⟨_, _, _, _, rfl⟩
  rw [he] at hdigits ⊢
  show pieces ('\\' :: 'u' :: p :: q :: r :: s :: rest) = _
  rw [pieces, hdigits, Option.bind_eq_bind, Option.bind_some]
  cases pieces rest <;> rfl

theorem pieces_char (hquote : c ≠ '"') (hbackslash : c ≠ '\\') (hcontrol : ¬c.toNat < 0x20)
    (rest : List Char) :
    pieces (c :: rest) = (pieces rest).map fun (more, after) => (.char c :: more, after) := by
  rw [pieces.eq_5 c rest hquote (fun _ _ _ _ _ he _ => hbackslash he)
    (fun _ _ he _ => hbackslash he), if_neg (not_or.mpr ⟨hcontrol, hbackslash⟩)]
  cases pieces rest <;> rfl

theorem joinPieces_char (c : Char) (more : List Piece) :
    joinPieces (.char c :: more) = (joinPieces more).map (c :: ·) := by
  rw [joinPieces]

theorem joinPieces_unit (h : n < 0x20) (more : List Piece) :
    joinPieces (.unit n :: more) = (joinPieces more).map (Char.ofNat n :: ·) := by
  have hhigh : isHighUnit n = false := by
    rw [isHighUnit, Bool.and_eq_false_iff]
    exact .inl (decide_eq_false (by omega))
  have hlow : isLowUnit n = false := by
    rw [isLowUnit, Bool.and_eq_false_iff]
    exact .inl (decide_eq_false (by omega))
  match more with
  | [] => rw [joinPieces.eq_4 n [] nofun, hhigh, hlow]; rfl
  | .char d :: more => rw [joinPieces.eq_4 n (.char d :: more) nofun, hhigh, hlow]; rfl
  | .unit low :: more => rw [joinPieces, hhigh, hlow]; rfl

theorem exists_piece (c : Char) : ∃ piece,
    (∀ rest, pieces (escapeChar c ++ rest) =
      (pieces rest).map fun (more, after) => (piece :: more, after)) ∧
    ∀ more, joinPieces (piece :: more) = (joinPieces more).map (c :: ·) := by
  unfold escapeChar
  split_ifs with h1 h2 h3 h4 h5 h6 h7 hcontrol
  · exact ⟨.char c, pieces_short (by decide) (by rw [h1]; rfl), joinPieces_char c⟩
  · exact ⟨.char c, pieces_short (by decide) (by rw [h2]; rfl), joinPieces_char c⟩
  · exact ⟨.char c, pieces_short (by decide) (h3 ▸ rfl), joinPieces_char c⟩
  · exact ⟨.char c, pieces_short (by decide) (h4 ▸ rfl), joinPieces_char c⟩
  · exact ⟨.char c, pieces_short (by decide) (h5 ▸ rfl), joinPieces_char c⟩
  · exact ⟨.char c, pieces_short (by decide) (h6 ▸ rfl), joinPieces_char c⟩
  · exact ⟨.char c, pieces_short (by decide) (h7 ▸ rfl), joinPieces_char c⟩
  · refine ⟨.unit c.toNat, pieces_hexDigits (by omega), fun more => ?_⟩
    rw [joinPieces_unit hcontrol, Char.ofNat_toNat]
  · exact ⟨.char c, pieces_char h1 h2 hcontrol, joinPieces_char c⟩

theorem pieces_escaped (text rest : List Char) : ∃ parts,
    pieces (text.flatMap escapeChar ++ '"' :: rest) = some (parts, rest) ∧
      joinPieces parts = some text := by
  induction text with
  | nil => exact ⟨[], rfl, rfl⟩
  | cons c text ih =>
    obtain ⟨parts, hparts, hjoin⟩ := ih
    obtain ⟨piece, hpiece, hchar⟩ := exists_piece c
    refine ⟨piece :: parts, ?_, ?_⟩
    · rw [List.flatMap_cons, List.append_assoc, hpiece, hparts]
      rfl
    · rw [hchar, hjoin]
      rfl

theorem scanToken_literal (value : String) (rest : List Char) :
    scanToken ((literal value).toList ++ rest) = some (.text value, rest) := by
  obtain ⟨parts, hparts, hjoin⟩ := pieces_escaped value.toList rest
  rw [literal, String.toList_ofList]
  show scanToken ('"' :: (value.toList.flatMap escapeChar ++ ['"'] ++ rest)) = _
  rw [List.append_assoc, List.singleton_append, scanToken, hparts]
  show (joinPieces parts).bind _ = _
  rw [hjoin, Option.bind_some, String.ofList_toList]
  rfl

/-- A stretch of text takes the reader from one reading to another, whatever follows it. -/
def Takes (front : List Char) (before after : Reading) : Prop :=
  ∃ steps ≤ front.length, ∃ found, found.foldlM Reading.step before = some after ∧
    ∀ limit rest, scanTokens (limit + steps) (front ++ rest) =
      (scanTokens limit rest).map (found ++ ·)

variable {front back : List Char} {before between after : Reading}

theorem Takes.append (h : Takes front before between) (h' : Takes back between after) :
    Takes (front ++ back) before after := by
  obtain ⟨steps, hsteps, found, hfold, hscan⟩ := h
  obtain ⟨steps', hsteps', found', hfold', hscan'⟩ := h'
  refine ⟨steps' + steps, by rw [List.length_append]; omega, found ++ found', ?_, ?_⟩
  · rw [List.foldlM_append, hfold]
    exact hfold'
  · intro limit rest
    rw [List.append_assoc, ← Nat.add_assoc, hscan, hscan', Option.map_map]
    congr 1
    funext more
    exact (List.append_assoc found found' more).symm

theorem Takes.white (h : ∀ c ∈ front, isWhite c = true) (reading : Reading) :
    Takes front reading reading := by
  refine ⟨front.length, Nat.le_refl _, [], rfl, fun limit rest => ?_⟩
  induction front with
  | nil => exact Option.map_id'.symm
  | cons c front ih =>
    show scanTokens (limit + front.length + 1) (c :: (front ++ rest)) = _
    rw [scanTokens, if_pos (h c List.mem_cons_self)]
    exact ih fun d hd => h d (List.mem_cons_of_mem c hd)

theorem Takes.token {found : Token} (hwhite : isWhite c = false)
    (hscan : ∀ rest, scanToken (c :: front ++ rest) = some (found, rest))
    (hstep : before.step found = some after) : Takes (c :: front) before after := by
  refine ⟨1, by simp, [found], ?_, fun limit rest => ?_⟩
  · rw [List.foldlM_cons, hstep]
    rfl
  · show scanTokens (limit + 1) (c :: (front ++ rest)) = _
    have hscan : scanToken (c :: (front ++ rest)) = some (found, rest) := hscan rest
    rw [scanTokens, if_neg (by simp [hwhite]), hscan, Option.bind_eq_bind, Option.bind_some]
    dsimp only
    cases scanTokens limit rest <;> rfl

theorem Takes.literal {value : String} (hstep : before.step (.text value) = some after) :
    Takes (literal value).toList before after := by
  have hscan := scanToken_literal value
  have he : (Json.literal value).toList = '"' :: (value.toList.flatMap escapeChar ++ ['"']) := by
    rw [Json.literal, String.toList_ofList]
    rfl
  rw [he] at hscan ⊢
  exact .token (by decide) hscan hstep

theorem parseRepeated?_of_takes {value : Json} {text : String}
    (h : Takes text.toList (.value []) (.done value)) : parseRepeated? text = some value := by
  obtain ⟨steps, hsteps, found, hfold, hscan⟩ := h
  have htokens : tokens text.toList = some found := by
    have hscan := hscan (text.toList.length - steps) []
    rw [Nat.sub_add_cancel hsteps, List.append_nil] at hscan
    rw [tokens, hscan, scanTokens, Option.map_some, List.append_nil]
  rw [parseRepeated?, htokens, Option.bind_eq_bind, Option.bind_some, hfold]
  rfl

def isFlat : Json → Bool
  | .null => true
  | .bool _ => true
  | .text _ => true
  | _ => false

variable {name : String} {value : Json} {members seen : List (String × Json)} {stack : List Frame}

theorem takes_flat (level : Nat) (hflat : value.isFlat = true) (stack : List Frame) :
    Takes (value.prettyAt level).toList (.value stack) (.complete value stack) := by
  match value, hflat with
  | .null, _ =>
    have h : Takes ['n', 'u', 'l', 'l'] (.value stack) (.complete .null stack) :=
      .token (by decide) (fun _ => rfl) rfl
    simpa [prettyAt, compact] using h
  | .bool true, _ =>
    have h : Takes ['t', 'r', 'u', 'e'] (.value stack) (.complete (.bool true) stack) :=
      .token (by decide) (fun _ => rfl) rfl
    simpa [prettyAt, compact] using h
  | .bool false, _ =>
    have h : Takes ['f', 'a', 'l', 's', 'e'] (.value stack) (.complete (.bool false) stack) :=
      .token (by decide) (fun _ => rfl) rfl
    simpa [prettyAt, compact] using h
  | .text words, _ => exact Takes.literal (rfl : (Reading.value stack).step (.text words) = _)

theorem takes_member (level : Nat) (hflat : value.isFlat = true)
    (hbefore : before.step (.text name) = some (.colon stack seen name)) :
    Takes (literal name ++ ": " ++ value.prettyAt level).toList before
      (.afterValue stack (.members ((name, value) :: seen))) := by
  have hcolon : Takes [':'] (.colon stack seen name) (.value (.members seen name :: stack)) :=
    .token (by decide) (fun _ => rfl) rfl
  have hspace : Takes [' '] (.value (.members seen name :: stack))
      (.value (.members seen name :: stack)) :=
    .white (List.forall_mem_singleton.mpr rfl) _
  rw [String.toList_append, String.toList_append]
  exact ((Takes.literal hbefore).append (hcolon.append hspace)).append
    (takes_flat level hflat (.members seen name :: stack))

theorem takes_newLine (level : Nat) (reading : Reading) :
    Takes (newLine level).toList reading reading := by
  apply Takes.white
  intro c hc
  rw [newLine, String.toList_ofList, List.mem_cons] at hc
  rcases hc with rfl | hc
  · decide
  · rw [List.eq_of_mem_replicate hc]
    decide

theorem takes_members (level : Nat) (hne : members ≠ [])
    (hflat : ∀ member ∈ members, member.2.isFlat = true)
    (hbefore : ∀ name, before.step (.text name) = some (.colon stack seen name)) :
    Takes (("," ++ newLine level).intercalate (prettyMembers level members)).toList before
      (.afterValue stack (.members (members.reverse ++ seen))) := by
  induction members generalizing before seen with
  | nil => exact absurd rfl hne
  | cons member members ih =>
    obtain ⟨name, value⟩ := member
    have hfirst := takes_member level (hflat _ List.mem_cons_self) (hbefore name)
    cases members with
    | nil =>
      rw [prettyMembers, prettyMembers, String.intercalate_singleton]
      exact hfirst
    | cons next members =>
      have hcomma : Takes [','] (.afterValue stack (.members ((name, value) :: seen)))
          (.key stack ((name, value) :: seen)) :=
        .token (by decide) (fun _ => rfl) rfl
      have hrest := ih (List.cons_ne_nil next members)
        (fun member hmem => hflat member (List.mem_cons_of_mem _ hmem))
        (fun _ => rfl : ∀ key, (Reading.key stack ((name, value) :: seen)).step (.text key) = _)
      rw [prettyMembers, prettyMembers, String.intercalate_cons_cons, ← prettyMembers,
        List.reverse_cons, List.append_assoc _ [_]]
      simp only [String.toList_append] at hfirst ⊢
      exact (hfirst.append (hcomma.append (takes_newLine level _))).append hrest

theorem parseRepeated?_pretty (hflat : ∀ member ∈ members, member.2.isFlat = true) :
    parseRepeated? (object members).pretty = some (.object members) := by
  apply parseRepeated?_of_takes
  have hopen : Takes ['{'] (.value []) (.firstKey []) := .token (by decide) (fun _ => rfl) rfl
  by_cases hne : members = []
  · subst hne
    have hclose : Takes ['}'] (.firstKey []) (.done (.object [])) :=
      .token (by decide) (fun _ => rfl) rfl
    exact hopen.append hclose
  · have hmembers := takes_members 1 hne hflat
      (fun _ => rfl : ∀ name, (Reading.firstKey []).step (.text name) = _)
    have hclose : Takes ['}'] (.afterValue [] (.members (members.reverse ++ [])))
        (.done (.object members)) := by
      refine .token (by decide) (fun _ => rfl) ?_
      rw [List.append_nil, Reading.step, List.reverse_reverse]
      rfl
    rw [pretty, prettyAt]
    · simp only [String.toList_append]
      exact (((hopen.append (takes_newLine 1 _)).append hmembers).append
        (takes_newLine 0 _)).append hclose
    · exact hne

end TypedClient.Json
