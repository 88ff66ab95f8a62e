import TypedClient.Json.Pointer
import TypedClient.Proofs.Files.FileNames

/-!
Where a pointer leads, one token after the other. Each token is read once from left to right, and
names a member of an object or, as a plain numeral, an item of an array.
-/

namespace TypedClient

namespace Decimal

theorem digitChar_of_digitValue? {c : Char} {d : Nat} (h : digitValue? 10 c = some d) :
    d < 10 ∧ c = digitChar d := by
  obtain ⟨hvalue, hlt⟩ := Option.filter_eq_some_iff.mp h
  have hd : d < 10 := of_decide_eq_true hlt
  refine ⟨hd, ?_⟩
  split at hvalue
  next hdigit =>
    have hle : '0'.toNat ≤ c.toNat := hdigit.1
    have he : c.toNat - '0'.toNat = d := Option.some.inj hvalue
    rw [← he, digitChar, Nat.add_sub_cancel' hle]
    exact (Char.ofNat_toNat c).symm
  -- The other two ranges hold the digits from ten on.
  split at hvalue
  next =>
    have he : c.toNat - 'a'.toNat + 10 = d := Option.some.inj hvalue
    omega
  split at hvalue
  next =>
    have he : c.toNat - 'A'.toNat + 10 = d := Option.some.inj hvalue
    omega
  next => cases hvalue

theorem digits_zero : digits 0 = ['0'] := by
  rw [digits]
  rfl

theorem digits_concat {n d : Nat} (hn : 0 < n) (hd : d < 10) :
    digits (n * 10 + d) = digits n ++ [digitChar d] := by
  have hquotient : (n * 10 + d) / 10 = n := by omega
  have hremainder : (n * 10 + d) % 10 = d := by omega
  rw [digits, if_neg (by omega), hquotient, hremainder]

theorem digits_append_of_foldlM {front n : Nat} {rest : List Char} (hfront : 0 < front)
    (h : rest.foldlM (fun n c => (digitValue? 10 c).map (n * 10 + ·)) front = some n) :
    digits front ++ rest = digits n := by
  induction rest generalizing front with
  | nil =>
    cases h
    simp
  | cons c rest ih =>
    rw [List.foldlM_cons] at h
    obtain ⟨next, hnext, hrest⟩ := Option.bind_eq_some_iff.mp h
    obtain ⟨d, hvalue, rfl⟩ := Option.map_eq_some_iff.mp hnext
    obtain ⟨hd, rfl⟩ := digitChar_of_digitValue? hvalue
    rw [← ih (by omega) hrest, digits_concat hfront hd, List.append_assoc, List.singleton_append]

theorem digits_of_ofDigits? {c : Char} {rest : List Char} {n : Nat} (hc : c ≠ '0')
    (h : ofDigits? 10 (c :: rest) = some n) : c :: rest = digits n := by
  obtain ⟨first, hfirst, hrest⟩ := Option.bind_eq_some_iff.mp h
  obtain ⟨d, hvalue, rfl⟩ := Option.map_eq_some_iff.mp hfirst
  obtain ⟨hd, rfl⟩ := digitChar_of_digitValue? hvalue
  rw [Nat.zero_mul, Nat.zero_add] at hrest
  have hpos : 0 < d := by
    apply Nat.pos_of_ne_zero
    rintro rfl
    exact hc rfl
  have hdigits := digits_append_of_foldlM hpos hrest
  rwa [digits, if_pos hd, List.singleton_append] at hdigits

theorem digits_head_ne_zero {n : Nat} (hn : 0 < n) : ∃ c rest, digits n = c :: rest ∧ c ≠ '0' := by
  induction n using digits.induct with
  | case1 n hsmall =>
    have hne : ∀ d < 10, 0 < d → digitChar d ≠ '0' := by decide
    exact ⟨digitChar n, [], by rw [digits, if_pos hsmall], hne n hsmall hn⟩
  | case2 n hlarge ih =>
    obtain ⟨c, rest, hdigits, hc⟩ := ih (by omega)
    refine ⟨c, rest ++ [digitChar (n % 10)], ?_, hc⟩
    rw [digits, if_neg hlarge, hdigits, List.cons_append]

end Decimal

namespace Text

theorem split_eq_cons {separator : Char} {text part : List Char} {parts : List (List Char)}
    (h : split separator text = part :: parts) : separator ∉ part ∧
      (parts = [] ∧ text = part ∨
        ∃ rest, text = part ++ separator :: rest ∧ split separator rest = parts) := by
  induction text generalizing part with
  | nil =>
    cases h
    exact ⟨List.not_mem_nil, .inl ⟨rfl, rfl⟩⟩
  | cons c text ih =>
    rw [split] at h
    by_cases hc : c = separator
    · rw [if_pos hc] at h
      cases h
      exact ⟨List.not_mem_nil, .inr ⟨text, by rw [hc, List.nil_append], rfl⟩⟩
    · rw [if_neg hc] at h
      cases hsplit : split separator text with
      | nil => exact absurd hsplit (split_ne_nil separator text)
      | cons first others =>
        rw [hsplit] at h
        cases h
        obtain ⟨hfirst, hrest⟩ := ih hsplit
        refine ⟨by simp [hfirst, Ne.symm hc], ?_⟩
        rcases hrest with ⟨hnone, rfl⟩ | ⟨rest, rfl, hothers⟩
        · exact .inl ⟨hnone, rfl⟩
        · exact .inr ⟨rest, rfl, hothers⟩

end Text

namespace Json

open Decimal (digits ofDigits? fitsUnsigned wordCount)

theorem index?_eq_some_iff {segment : String} {index : Nat} :
    index? segment = some index ↔ segment.toList = digits index ∧ index < wordCount 64 := by
  unfold index?
  constructor
  · intro h
    split at h
    next hzero =>
      cases h
      exact ⟨by rw [hzero, Decimal.digits_zero], by decide⟩
    next => cases h
    next hzero hleading =>
      obtain ⟨hread, hfits⟩ := Option.filter_eq_some_iff.mp h
      refine ⟨?_, of_decide_eq_true hfits⟩
      cases hsegment : segment.toList with
      | nil =>
        rw [hsegment] at hread
        cases hread
      | cons c rest =>
        rw [hsegment] at hread
        apply Decimal.digits_of_ofDigits? _ hread
        rintro rfl
        exact hleading rest hsegment
  · rintro ⟨hdigits, hlt⟩
    have hfits : fitsUnsigned 64 index = true := decide_eq_true hlt
    rcases Nat.eq_zero_or_pos index with rfl | hpos
    · rw [hdigits, Decimal.digits_zero]
      rfl
    · obtain ⟨c, rest, hhead, hc⟩ := Decimal.digits_head_ne_zero hpos
      have hread : (ofDigits? 10 (digits index)).filter (fitsUnsigned 64) = some index := by
        rw [Decimal.ofDigits?_digits, Option.filter_some, if_pos hfits]
      rw [hdigits]
      rw [hhead] at hread ⊢
      split
      next he => exact absurd (List.cons.inj he).1 hc
      next he => exact absurd (List.cons.inj he).1 hc
      next => exact hread

def readToken : List Char → List Char
  | '~' :: '1' :: rest => '/' :: readToken rest
  | '~' :: '0' :: rest => '~' :: readToken rest
  | c :: rest => c :: readToken rest
  | [] => []

theorem replaceSlashes_head {text rest : List Char} {c : Char} (hc : c ≠ '/')
    (h : replaceSlashes text = c :: rest) : ∃ rest', text = c :: rest' := by
  unfold replaceSlashes at h
  split at h
  · exact absurd (List.cons.inj h).1.symm hc
  · cases h
    exact ⟨_, rfl⟩
  · cases h

theorem replaceTildes_replaceSlashes (token : List Char) :
    replaceTildes (replaceSlashes token) = readToken token := by
  fun_induction readToken token with
  | case1 rest ih => simp [replaceSlashes, replaceTildes, ih]
  | case2 rest ih => simp [replaceSlashes, replaceTildes, ih]
  | case3 c rest hslash htilde ih =>
    rw [replaceSlashes, replaceTildes, ih]
    · intro rest' hc hrest
      obtain ⟨rest'', rfl⟩ := replaceSlashes_head (by decide) hrest
      exact htilde rest'' hc rfl
    · exact hslash
  | case4 => rfl

theorem unescapeSegment_toList (token : List Char) :
    (unescapeSegment token).toList = readToken token := by
  rw [unescapeSegment, String.toList_ofList, replaceTildes_replaceSlashes]

theorem readToken_eq_self {token word : List Char} (h : readToken token = word)
    (hslash : '/' ∉ word) (htilde : '~' ∉ word) : token = word := by
  induction token using readToken.induct generalizing word with
  | case1 rest ih =>
    subst h
    exact absurd (by simp [readToken]) hslash
  | case2 rest ih =>
    subst h
    exact absurd (by simp [readToken]) htilde
  | case3 c rest hone hzero ih =>
    rw [readToken] at h
    · subst h
      have hrest := ih rfl (fun hmem => hslash (List.mem_cons_of_mem _ hmem))
        fun hmem => htilde (List.mem_cons_of_mem _ hmem)
      exact congrArg (c :: ·) hrest
    · exact hone
    · exact hzero
  | case4 => exact h

theorem pointerSegments?_eq_some_cons_iff {pointer : List Char} {segment : String}
    {segments : List String} : pointerSegments? pointer = some (segment :: segments) ↔
      ∃ token rest, pointer = '/' :: (token ++ rest) ∧ '/' ∉ token ∧
        segment.toList = readToken token ∧ pointerSegments? rest = some segments := by
  constructor
  · intro h
    unfold pointerSegments? at h
    split at h
    · cases h
    next text =>
      cases hsplit : Text.split '/' text with
      | nil => exact absurd hsplit (Text.split_ne_nil '/' text)
      | cons token tokens =>
        rw [hsplit] at h
        cases h
        obtain ⟨htoken, hrest⟩ := Text.split_eq_cons hsplit
        have hsegment := unescapeSegment_toList token
        rcases hrest with ⟨rfl, rfl⟩ | ⟨rest, rfl, rfl⟩
        · exact ⟨text, [], by rw [List.append_nil], htoken, hsegment, rfl⟩
        · exact ⟨token, '/' :: rest, rfl, htoken, hsegment, rfl⟩
    · cases h
  · rintro ⟨token, rest, rfl, htoken, hsegment, hrest⟩
    have he : unescapeSegment token = segment := by
      rw [← String.toList_inj, unescapeSegment_toList, hsegment]
    unfold pointerSegments? at hrest
    split at hrest
    · cases hrest
      rw [List.append_nil, pointerSegments?, Text.split_of_not_mem htoken, List.map_singleton, he]
    · cases hrest
      rw [pointerSegments?, Text.split_append, Text.split_of_not_mem htoken, List.singleton_append,
        List.map_cons, he]
    · cases hrest

theorem pointerSegments?_eq_some_nil_iff {pointer : List Char} :
    pointerSegments? pointer = some [] ↔ pointer = [] := by
  constructor
  · intro h
    unfold pointerSegments? at h
    split at h
    · rfl
    next text =>
      have hsegments := List.map_eq_nil_iff.mp (Option.some.inj h)
      exact absurd hsegments (Text.split_ne_nil '/' text)
    · cases h
  · rintro rfl
    rfl

/-- Where a pointer leads. An item is named by the plain numeral of its position. -/
inductive Leads : Json → List Char → Json → Prop
  | here (value : Json) : Leads value [] value
  | member {members : Mapping Json} {name : String} {token rest : List Char} {value target : Json} :
      '/' ∉ token → name.toList = readToken token → members.get? name = some value →
      Leads value rest target → Leads (.object members) ('/' :: (token ++ rest)) target
  | item {items : List Json} {index : Nat} {token rest : List Char} {value target : Json} :
      '/' ∉ token → digits index = readToken token → index < wordCount 64 → items[index]? = some value →
      Leads value rest target → Leads (.array items) ('/' :: (token ++ rest)) target

theorem Leads.of_segments {value target : Json} {pointer : List Char} {segments : List String}
    (hpointer : pointerSegments? pointer = some segments)
    (h : value.descend? segments = some target) : value.Leads pointer target := by
  induction segments generalizing value pointer with
  | nil =>
    cases h
    obtain rfl := pointerSegments?_eq_some_nil_iff.mp hpointer
    exact .here _
  | cons segment segments ih =>
    obtain ⟨token, rest, rfl, htoken, hsegment, hrest⟩ :=
      pointerSegments?_eq_some_cons_iff.mp hpointer
    rw [descend?, List.foldlM_cons] at h
    obtain ⟨below, hchild, hbelow⟩ := Option.bind_eq_some_iff.mp h
    have hleads := ih hrest hbelow
    cases value with
    | object members => exact .member htoken hsegment hchild hleads
    | array items =>
      obtain ⟨index, hindex, hitem⟩ := Option.bind_eq_some_iff.mp hchild
      obtain ⟨hdigits, hlt⟩ := index?_eq_some_iff.mp hindex
      exact .item htoken (hdigits.symm.trans hsegment) hlt hitem hleads
    | _ => cases hchild

theorem Leads.segments {value target : Json} {pointer : List Char}
    (h : value.Leads pointer target) : ∃ segments, pointerSegments? pointer = some segments ∧
      value.descend? segments = some target := by
  induction h with
  | here value => exact ⟨[], rfl, rfl⟩
  | @member members name token rest value target htoken hname hvalue _ ih =>
    obtain ⟨segments, hrest, hbelow⟩ := ih
    refine ⟨name :: segments,
      pointerSegments?_eq_some_cons_iff.mpr ⟨token, rest, rfl, htoken, hname, hrest⟩, ?_⟩
    exact Option.bind_eq_some_iff.mpr ⟨value, hvalue, hbelow⟩
  | @item items index token rest value target htoken hdigits hlt hvalue _ ih =>
    obtain ⟨segments, hrest, hbelow⟩ := ih
    let name := String.ofList (digits index)
    have hname : name.toList = digits index := String.toList_ofList
    have hindex : index? name = some index := index?_eq_some_iff.mpr ⟨hname, hlt⟩
    refine ⟨name :: segments, pointerSegments?_eq_some_cons_iff.mpr
      ⟨token, rest, rfl, htoken, hname.trans hdigits, hrest⟩, ?_⟩
    apply Option.bind_eq_some_iff.mpr
    exact ⟨value, Option.bind_eq_some_iff.mpr ⟨index, hindex, hvalue⟩, hbelow⟩

theorem pointer?_eq_some_iff {value target : Json} {pointer : List Char} :
    value.pointer? pointer = some target ↔ value.Leads pointer target := by
  constructor
  · intro h
    obtain ⟨segments, hsegments, hbelow⟩ := Option.bind_eq_some_iff.mp h
    exact .of_segments hsegments hbelow
  · intro h
    exact Option.bind_eq_some_iff.mpr h.segments

end Json

end TypedClient
