import TypedClient.Proofs.Naming.Freshness

/-!
A scope over any sequence of calls. Names are given that no call has taken before; a name that is
taken gets the least free number, or is refused and leaves the scope as it was.
-/

namespace TypedClient.Naming

inductive Call where
  | reserve (name : String)
  | allocate (base : String)

inductive Event where
  | reserved (name : String)
  | given (name : String)
  | refused (collision : NameCollision)

def Event.name? : Event → Option String
  | .reserved name => some name
  | .given name => some name
  | .refused _ => none

def Event.Apart (key : String → String) (earlier later : Event) : Prop :=
  ∀ used ∈ earlier.name?, ∀ name, later = .given name → key used ≠ key name

namespace Allocator

variable {allocator next : Allocator} {base name : String}

def answer (allocator : Allocator) : Call → Event × Allocator
  | .reserve name => (.reserved name, allocator.reserve name)
  | .allocate base =>
    match allocator.allocate base with
    | .ok (name, next) => (.given name, next)
    | .error collision => (.refused collision, allocator)

def answers (allocator : Allocator) : List Call → List Event × Allocator
  | [] => ([], allocator)
  | call :: calls =>
    let (event, next) := allocator.answer call
    let (events, last) := next.answers calls
    (event :: events, last)

theorem answers_append (allocator : Allocator) (front back : List Call) :
    allocator.answers (front ++ back) =
      ((allocator.answers front).1 ++ ((allocator.answers front).2.answers back).1,
        ((allocator.answers front).2.answers back).2) := by
  induction front generalizing allocator with
  | nil => rfl
  | cons call front ih =>
    simp only [List.cons_append, answers, ih]

theorem answer_of_ok (h : allocator.allocate base = .ok (name, next)) :
    allocator.answer (.allocate base) = (.given name, next) := by
  rw [answer, h]

theorem answer_of_error {collision : NameCollision}
    (h : allocator.allocate base = .error collision) :
    allocator.answer (.allocate base) = (.refused collision, allocator) := by
  rw [answer, h]

def claim (allocator : Allocator) (name : String) : Bool × Allocator :=
  (!allocator.isTaken name, allocator.reserve name)

/-- Numbered names are claimed one after the other, with no bound, until one was free; the last
argument counts the names that are tried. -/
inductive Numbering (base : String) : Allocator → Nat → String → Allocator → Nat → Prop
  | free {allocator next : Allocator} {n : Nat} : allocator.claim (numbered base n) = (true, next) →
      Numbering base allocator n (numbered base n) next 1
  | taken {allocator middle next : Allocator} {n tries : Nat} {name : String} :
      allocator.claim (numbered base n) = (false, middle) →
      Numbering base middle (n + 1) name next tries →
      Numbering base allocator n name next (tries + 1)

theorem reserve_of_taken (h : allocator.isTaken name = true) : allocator.reserve name = allocator := by
  rw [isTaken_eq_true] at h
  rw [reserve, List.insert_of_mem h]

theorem claim_of_taken (h : allocator.isTaken name = true) :
    allocator.claim name = (false, allocator) := by
  rw [claim, h, reserve_of_taken h]
  rfl

theorem claim_of_free (h : allocator.isTaken name = false) :
    allocator.claim name = (true, allocator.reserve name) := by
  rw [claim, h]
  rfl

theorem numbering_of_least {first n : Nat} (hfirst : first ≤ n)
    (hfree : allocator.isTaken (numbered base n) = false)
    (hleast : ∀ m, first ≤ m → m < n → allocator.isTaken (numbered base m) = true) :
    Numbering base allocator first (numbered base n) (allocator.reserve (numbered base n))
      (n - first + 1) := by
  induction hgap : n - first generalizing first with
  | zero =>
    obtain rfl : first = n := by omega
    exact .free (claim_of_free hfree)
  | succ gap ih =>
    have htaken := hleast first (Nat.le_refl first) (by omega)
    apply Numbering.taken (claim_of_taken htaken)
    exact ih (by omega) (fun m hm hlt => hleast m (by omega) hlt) (by omega)

theorem allocate_of_free (h : allocator.isTaken base = false) :
    allocator.allocate base = .ok (base, allocator.reserve base) := by
  rw [allocate, if_neg (by simp [h])]

theorem allocate_of_strict (h : allocator.isTaken base = true) (hstrict : allocator.strict = true) :
    allocator.allocate base = .error ⟨allocator.scope, base⟩ := by
  rw [allocate, if_pos h, if_pos hstrict]

theorem allocate_of_loose (h : allocator.isTaken base = true) (hloose : allocator.strict = false) :
    ∃ n tries, 2 ≤ n ∧ allocator.isTaken (numbered base n) = false ∧
      (∀ m, 2 ≤ m → m < n → allocator.isTaken (numbered base m) = true) ∧
      Numbering base allocator 2 (numbered base n) (allocator.reserve (numbered base n)) tries ∧
      tries ≤ allocator.taken.length + 1 ∧
      allocator.allocate base = .ok (numbered base n, allocator.reserve (numbered base n)) := by
  obtain ⟨n, hn, hbound, hname, hfree, hleast⟩ := allocator.firstFree_spec base
  refine ⟨n, n - 2 + 1, hn, hfree, hleast, numbering_of_least hn hfree hleast, by omega, ?_⟩
  rw [allocate, if_pos h, if_neg (by simp [hloose]), hname]

/-- A scope after some events: its settings are those it began with, it has taken what they took,
and no name was given that was taken before. -/
structure Records (start : Allocator) (events : List Event) (allocator : Allocator) : Prop where
  settings : { allocator with taken := [] } = start
  nodup : allocator.taken.Nodup
  taken : ∀ key, key ∈ allocator.taken ↔
    ∃ event ∈ events, ∃ name ∈ event.name?, start.key name = key
  apart : events.Pairwise (Event.Apart start.key)

variable {start : Allocator} {events : List Event}

theorem Records.key_eq (h : Records start events allocator) : allocator.key = start.key := by
  rw [← h.settings]
  rfl

theorem records_nil (hstart : start.taken = []) : Records start [] start := by
  constructor
  · rw [← hstart]
  · simp [hstart]
  · simp [hstart]
  · exact .nil

theorem Records.reserve (h : Records start events allocator) {event : Event}
    (hname : event.name? = some name)
    (hfree : ∀ given, event = .given given → allocator.isTaken given = false) :
    Records start (events ++ [event]) (allocator.reserve name) := by
  constructor
  · exact h.settings
  · exact h.nodup.insert
  · intro key
    rw [mem_taken_reserve, h.taken, h.key_eq]
    constructor
    · rintro (rfl | ⟨earlier, hearlier, used, hused, hkey⟩)
      · exact ⟨event, by simp, name, hname, rfl⟩
      · exact ⟨earlier, by simp [hearlier], used, hused, hkey⟩
    · rintro ⟨earlier, hearlier, used, hused, hkey⟩
      rcases List.mem_append.mp hearlier with hearlier | hearlier
      · exact .inr ⟨earlier, hearlier, used, hused, hkey⟩
      · obtain rfl := List.mem_singleton.mp hearlier
        obtain rfl := Option.some.inj (hname.symm.trans hused)
        exact .inl hkey.symm
  · apply List.pairwise_append.mpr
    refine ⟨h.apart, List.pairwise_singleton _ _, ?_⟩
    intro earlier hearlier later hlater used hused given hgiven hkey
    obtain rfl := List.mem_singleton.mp hlater
    have hnot := (isTaken_eq_false allocator given).mp (hfree given hgiven)
    rw [h.key_eq, h.taken] at hnot
    exact hnot ⟨earlier, hearlier, used, hused, hkey⟩

theorem Records.refused (h : Records start events allocator) (collision : NameCollision) :
    Records start (events ++ [.refused collision]) allocator := by
  constructor
  · exact h.settings
  · exact h.nodup
  · intro key
    simp only [h.taken, List.mem_append, List.mem_singleton, or_and_right, exists_or,
      exists_eq_left, Event.name?, Option.mem_def, reduceCtorEq, false_and, exists_false, or_false]
  · apply List.pairwise_append.mpr
    refine ⟨h.apart, List.pairwise_singleton _ _, ?_⟩
    intro earlier _ later hlater used _ given hgiven
    obtain rfl := List.mem_singleton.mp hlater
    cases hgiven

theorem Records.answer (h : Records start events allocator) (call : Call) :
    Records start (events ++ [(allocator.answer call).1]) (allocator.answer call).2 := by
  cases call with
  | reserve name =>
    apply h.reserve rfl
    intro given hgiven
    cases hgiven
  | allocate base =>
    cases hallocate : allocator.allocate base with
    | error collision =>
      rw [answer_of_error hallocate]
      exact h.refused collision
    | ok result =>
      obtain ⟨name, next⟩ := result
      obtain ⟨hfree, -, rfl⟩ := allocate_ok hallocate
      rw [answer_of_ok hallocate]
      apply h.reserve rfl
      intro given hgiven
      cases hgiven
      exact hfree

theorem Records.answers (h : Records start events allocator) (calls : List Call) :
    Records start (events ++ (allocator.answers calls).1) (allocator.answers calls).2 := by
  induction calls generalizing events allocator with
  | nil => simpa [Allocator.answers] using h
  | cons call calls ih =>
    have hrest := ih (h.answer call)
    rw [List.append_assoc] at hrest
    exact hrest

theorem Records.isTaken_iff (h : Records start events allocator) (name : String) :
    allocator.isTaken name = true ↔
      ∃ event ∈ events, ∃ used ∈ event.name?, start.key used = start.key name := by
  rw [isTaken_eq_true, h.key_eq, h.taken]

/-- Calls may come in any order and in any number. At each point of a run what is taken is what the
calls so far have taken, and this decides what the next call is answered. -/
theorem names_of_calls (scope : String) (strict ignoresCase : Bool) (calls : List Call) :
    let start : Allocator := ⟨scope, strict, ignoresCase, []⟩
    let events := (start.answers calls).1
    let last := (start.answers calls).2
    (events.Pairwise fun earlier later => ∀ used ∈ earlier.name?, ∀ name, later = .given name →
      start.key used ≠ start.key name) ∧
    last.taken.Nodup ∧
    (∀ name, last.isTaken name = true ↔
      ∃ event ∈ events, ∃ used ∈ event.name?, start.key used = start.key name) ∧
    ∀ base,
      (last.isTaken base = false → last.allocate base = .ok (base, last.reserve base)) ∧
      (last.isTaken base = true → strict = false →
        ∃ n tries, 2 ≤ n ∧ last.isTaken (numbered base n) = false ∧
          (∀ m, 2 ≤ m → m < n → last.isTaken (numbered base m) = true) ∧
          Numbering base last 2 (numbered base n) (last.reserve (numbered base n)) tries ∧
          tries ≤ last.taken.length + 1 ∧
          last.allocate base = .ok (numbered base n, last.reserve (numbered base n))) ∧
      (last.isTaken base = true → strict = true →
        last.claim base = (false, last) ∧ last.allocate base = .error ⟨scope, base⟩ ∧
        ∀ later,
          start.answers (calls ++ later) =
            (events ++ (last.answers later).1, (last.answers later).2) ∧
          start.answers (calls ++ .allocate base :: later) =
            (events ++ .refused ⟨scope, base⟩ :: (last.answers later).1,
              (last.answers later).2)) := by
  intro start events last
  have hrecords : Records start events last := by
    have h := (records_nil (rfl : start.taken = [])).answers calls
    rwa [List.nil_append] at h
  have hscope : last.scope = scope := congrArg Allocator.scope hrecords.settings
  have hstrictness : last.strict = strict := congrArg Allocator.strict hrecords.settings
  refine ⟨hrecords.apart, hrecords.nodup, hrecords.isTaken_iff, fun base => ⟨?_, ?_, ?_⟩⟩
  · exact allocate_of_free
  · intro htaken hloose
    exact allocate_of_loose htaken (hstrictness.trans hloose)
  · intro htaken hstrict
    have hrefused := allocate_of_strict htaken (hstrictness.trans hstrict)
    rw [hscope] at hrefused
    refine ⟨claim_of_taken htaken, hrefused, fun later => ⟨answers_append start calls later, ?_⟩⟩
    have hrest : last.answers (.allocate base :: later) =
        (.refused ⟨scope, base⟩ :: (last.answers later).1, (last.answers later).2) := by
      rw [answers, answer_of_error hrefused]
    have hsplit := answers_append start calls (.allocate base :: later)
    rwa [hrest] at hsplit

theorem names_of_calls_folded :
    let loose : Allocator := ⟨"pets.ts", false, true, []⟩
    let calls : List Call := [.reserve "Types", .allocate "A2", .allocate "a"]
    let strict : Allocator := ⟨"pets.ts", true, true, []⟩
    (∃ next, (loose.answers calls).2.allocate "A" = .ok ("A3", next)) ∧
      (strict.answers [.allocate "Pets"]).2.allocate "PETS" = .error ⟨"pets.ts", "PETS"⟩ := by
  intro loose calls strict
  constructor
  · obtain ⟨-, -, -, hnext⟩ := names_of_calls "pets.ts" false true calls
    obtain ⟨n, tries, hn, hfree, hleast, -, -, hallocate⟩ :=
      (hnext "A").2.1 (by decide +kernel) rfl
    have htwo : (loose.answers calls).2.isTaken (numbered "A" 2) = true := by decide +kernel
    have hthree : (loose.answers calls).2.isTaken (numbered "A" 3) = false := by decide +kernel
    have hne : n ≠ 2 := by
      rintro rfl
      exact absurd (htwo.symm.trans hfree) (by decide)
    have hle : n ≤ 3 := by
      by_contra hlt
      have htaken := hleast 3 (by omega) (by omega)
      exact absurd (htaken.symm.trans hthree) (by decide)
    obtain rfl : n = 3 := by omega
    have hname : numbered "A" 3 = "A3" := by decide +kernel
    rw [hname] at hallocate
    exact ⟨_, hallocate⟩
  · obtain ⟨-, -, -, hnext⟩ := names_of_calls "pets.ts" true true [.allocate "Pets"]
    exact ((hnext "PETS").2.2 (by decide +kernel) rfl).2.1

end Allocator

end TypedClient.Naming
