import Mathlib.Logic.Function.Iterate
import Telemetry.Pattern.Basic

/-!
What a pattern matches, said as a relation between the positions where a match may begin and end.
The sets of positions that `ends` goes through are exactly those that the relation reaches.
-/

namespace Telemetry.Pattern

/-- Exactly `n` steps of a relation. -/
def Steps (R : Nat → Nat → Prop) : Nat → Nat → Nat → Prop
  | 0, i, j => j = i
  | n + 1, i, k => ∃ j, R i j ∧ Steps R n j k

/-- The pattern matches the part of the text from one position to another. -/
def Spans [Dialect] (text : Array Char) : Pattern → Nat → Nat → Prop
  | .empty, i, j => j = i
  | .char cls, i, j => (∃ c, text[i]? = some c ∧ cls.contains c) ∧ j = i + 1
  | .look l, i, j => l.holdsAt text i ∧ j = i
  | .group p, i, j => Spans text p i j
  | .seq p q, i, k => ∃ j, Spans text p i j ∧ Spans text q j k
  | .alt p q, i, j => Spans text p i j ∨ Spans text q i j
  | .repeated p least most, i, j =>
    ∃ more, (∀ n ∈ most, more ≤ n - least) ∧ Steps (Spans text p) (least + more) i j

/-- The pattern matches all of the text. -/
def MatchesWhole [Dialect] (p : Pattern) (text : String) : Prop :=
  p.Spans text.toList.toArray 0 text.toList.length

/-- The pattern matches some part of the text. -/
def MatchesWithin [Dialect] (p : Pattern) (text : String) : Prop :=
  ∃ i j, i ≤ text.toList.length ∧ p.Spans text.toList.toArray i j

variable {R : Nat → Nat → Prop} {text : Array Char} {p : Pattern} {step : List Nat → List Nat}
  {s frontier reached : List Nat} {x i j k m n : Nat}

/-! ### Steps -/

theorem Steps.append (h : Steps R m i j) (h' : Steps R n j k) : Steps R (m + n) i k := by
  induction m generalizing i with
  | zero =>
    cases h
    rwa [Nat.zero_add]
  | succ m ih =>
    obtain ⟨x, first, rest⟩ := h
    rw [Nat.add_right_comm]
    exact ⟨x, first, ih rest⟩

theorem Steps.split (h : Steps R (m + n) i k) : ∃ j, Steps R m i j ∧ Steps R n j k := by
  induction m generalizing i with
  | zero => exact ⟨i, rfl, by rwa [Nat.zero_add] at h⟩
  | succ m ih =>
    rw [Nat.add_right_comm] at h
    obtain ⟨x, first, rest⟩ := h
    obtain ⟨j, left, right⟩ := ih rest
    exact ⟨j, ⟨x, first, left⟩, right⟩

theorem Steps.bounded (forward : ∀ i j, i ≤ k → R i j → i ≤ j ∧ j ≤ k) (hi : i ≤ k)
    (h : Steps R n i j) : i ≤ j ∧ j ≤ k := by
  induction n generalizing i with
  | zero =>
    cases h
    exact ⟨Nat.le_refl _, hi⟩
  | succ n ih =>
    obtain ⟨x, first, rest⟩ := h
    have one := forward i x hi first
    have more := ih one.2 rest
    exact ⟨Nat.le_trans one.1 more.1, more.2⟩

/-- Steps that do not move can be left out, and all others go at least one position further. -/
theorem Steps.shorten (forward : ∀ i j, i ≤ k → R i j → i ≤ j ∧ j ≤ k) (hi : i ≤ k)
    (h : Steps R n i j) : ∃ m ≤ j - i, Steps R m i j := by
  induction n generalizing i with
  | zero => exact ⟨0, Nat.zero_le _, h⟩
  | succ n ih =>
    obtain ⟨x, first, rest⟩ := h
    have one := forward i x hi first
    obtain ⟨m, hm, steps⟩ := ih one.2 rest
    by_cases stays : x = i
    · subst stays
      exact ⟨m, hm, steps⟩
    · have further := (Steps.bounded forward one.2 rest).1
      exact ⟨m + 1, by omega, x, first, steps⟩

/-- Every step from a position of the set that is not in the frontier stays in the set. -/
def Explored (R : Nat → Nat → Prop) (frontier reached : List Nat) : Prop :=
  ∀ i ∈ reached, i ∉ frontier → ∀ j, R i j → j ∈ reached

/-- A way out of the set goes through the frontier. -/
theorem Explored.leaves (explored : Explored R frontier reached) (hi : i ∈ reached)
    (h : Steps R n i j) : j ∈ reached ∨ ∃ m ≤ n, ∃ i ∈ frontier, Steps R m i j := by
  induction n generalizing i with
  | zero =>
    cases h
    exact .inl hi
  | succ n ih =>
    by_cases edge : i ∈ frontier
    · exact .inr ⟨n + 1, Nat.le_refl _, i, edge, h⟩
    · obtain ⟨x, first, rest⟩ := h
      rcases ih (explored i hi edge x first) rest with inside | ⟨m, hm, i, edge, steps⟩
      · exact .inl inside
      · exact .inr ⟨m, Nat.le_succ_of_le hm, i, edge, steps⟩

theorem Spans.bounded [Dialect] (hi : i ≤ text.size) (h : Spans text p i j) : i ≤ j ∧ j ≤ text.size := by
  induction p generalizing i j with
  | empty =>
    cases h
    exact ⟨Nat.le_refl _, hi⟩
  | char cls =>
    obtain ⟨⟨c, hc, -⟩, rfl⟩ := h
    have := (Array.getElem?_eq_some_iff.mp hc).1
    omega
  | look l =>
    cases h.2
    exact ⟨Nat.le_refl _, hi⟩
  | group p ih => exact ih hi h
  | seq p q ihp ihq =>
    obtain ⟨x, left, right⟩ := h
    have one := ihp hi left
    have two := ihq one.2 right
    exact ⟨Nat.le_trans one.1 two.1, two.2⟩
  | alt p q ihp ihq => exact h.elim (ihp hi) (ihq hi)
  | repeated p least most ih =>
    obtain ⟨more, -, steps⟩ := h
    exact steps.bounded (fun i j hi => ih hi) hi

/-! ### Sets of positions -/

@[simp] theorem mem_insert {y : Nat} : x ∈ insert y s ↔ x = y ∨ x ∈ s := by
  induction s with
  | nil => simp [insert]
  | cons z s ih =>
    rw [insert]
    split
    · simp
    · split
      · next same => simp [same]
      · simp only [List.mem_cons, ih]
        exact or_left_comm

@[simp] theorem mem_union {t : List Nat} : x ∈ union s t ↔ x ∈ s ∨ x ∈ t := by
  induction s with
  | nil => simp [union]
  | cons y s ih =>
    have unfolded : union (y :: s) t = insert y (union s t) := rfl
    rw [unfolded, mem_insert, ih, List.mem_cons, or_assoc]

@[simp] theorem mem_minus {t : List Nat} : x ∈ minus s t ↔ x ∈ s ∧ x ∉ t := by
  simp [minus]

theorem times_eq_iterate (step : List Nat → List Nat) (n : Nat) (s : List Nat) :
    times step n s = step^[n] s := by
  induction n generalizing s with
  | zero => rfl
  | succ n ih =>
    rw [times]
    split
    · next fixed => exact (Function.iterate_fixed fixed (n + 1)).symm
    · rw [ih, Function.iterate_succ_apply]

/-- A step on positions up to `k`, taken as a function of sets, does what the relation says. -/
def Follows (step : List Nat → List Nat) (R : Nat → Nat → Prop) (k : Nat) : Prop :=
  ∀ s, (∀ i ∈ s, i ≤ k) → ∀ j, j ∈ step s ↔ ∃ i ∈ s, R i j

section Follows

variable (follows : Follows step R k) (forward : ∀ i j, i ≤ k → R i j → i ≤ j ∧ j ≤ k)
include follows forward

theorem Follows.bounded (hs : ∀ i ∈ s, i ≤ k) (hj : j ∈ step s) : j ≤ k := by
  obtain ⟨i, hi, one⟩ := (follows s hs j).mp hj
  exact (forward i j (hs i hi) one).2

theorem Follows.iterate (n : Nat) : Follows step^[n] (Steps R n) k := by
  intro s hs j
  induction n generalizing s with
  | zero => simp [Steps]
  | succ n ih =>
    rw [Function.iterate_succ_apply, ih (step s) fun i => follows.bounded forward hs]
    constructor
    · rintro ⟨x, hx, rest⟩
      obtain ⟨i, hi, first⟩ := (follows s hs x).mp hx
      exact ⟨i, hi, x, first, rest⟩
    · rintro ⟨i, hi, x, first, rest⟩
      exact ⟨x, (follows s hs x).mpr ⟨i, hi, first⟩, rest⟩

omit forward in
theorem Follows.onward (hf : ∀ i ∈ frontier, i ≤ k) (explored : Explored R frontier reached)
    (hi : i ∈ reached) (one : R i j) : j ∈ union (minus (step frontier) reached) reached := by
  rw [mem_union]
  by_cases known : j ∈ reached
  · exact .inr known
  · by_cases edge : i ∈ frontier
    · exact .inl (mem_minus.mpr ⟨(follows frontier hf j).mpr ⟨i, edge, one⟩, known⟩)
    · exact .inr (explored i hi edge j one)

omit forward in
/-- What is fresh is the next frontier. -/
theorem Follows.explored (hf : ∀ i ∈ frontier, i ≤ k) (explored : Explored R frontier reached) :
    Explored R (minus (step frontier) reached) (union (minus (step frontier) reached) reached) :=
  fun _ hi old _ one => follows.onward hf explored ((mem_union.mp hi).resolve_left old) one

theorem Follows.mem_within (n : Nat) (hr : ∀ i ∈ reached, i ≤ k) (sub : ∀ i ∈ frontier, i ∈ reached)
    (explored : Explored R frontier reached) :
    j ∈ within step n frontier reached ↔
      j ∈ reached ∨ ∃ m ≤ n, ∃ i ∈ frontier, Steps R m i j := by
  induction n generalizing frontier reached with
  | zero =>
    refine ⟨.inl, ?_⟩
    rintro (inside | ⟨m, hm, i, hi, steps⟩)
    · exact inside
    · cases Nat.le_zero.mp hm
      cases steps
      exact sub _ hi
  | succ n ih =>
    -- The new frontier is one step from the old one, so that one step less is left from it.
    have hf : ∀ i ∈ frontier, i ≤ k := fun i hi => hr i (sub i hi)
    have explored' := follows.explored hf explored
    rw [within]
    split
    · next none =>
      have stays : Explored R [] reached := by simpa [none, union] using explored'
      refine ⟨.inl, ?_⟩
      rintro (inside | ⟨m, -, i, hi, steps⟩)
      · exact inside
      · simpa using stays.leaves (sub i hi) steps
    · have hr' : ∀ i ∈ union (minus (step frontier) reached) reached, i ≤ k := by
        intro i hi
        rcases mem_union.mp hi with fresh | old
        · exact follows.bounded forward hf (mem_minus.mp fresh).1
        · exact hr i old
      rw [ih hr' (fun i hi => mem_union.mpr (.inl hi)) explored']
      constructor
      · rintro (inside | ⟨m, hm, x, fresh, steps⟩)
        · rcases mem_union.mp inside with fresh | old
          · obtain ⟨i, hi, one⟩ := (follows frontier hf j).mp (mem_minus.mp fresh).1
            exact .inr ⟨1, by omega, i, hi, j, one, rfl⟩
          · exact .inl old
        · obtain ⟨i, hi, one⟩ := (follows frontier hf x).mp (mem_minus.mp fresh).1
          exact .inr ⟨m + 1, Nat.succ_le_succ hm, i, hi, x, one, steps⟩
      · rintro (inside | ⟨m, hm, i, hi, steps⟩)
        · exact .inl (mem_union.mpr (.inr inside))
        · cases m with
          | zero =>
            cases steps
            exact .inl (mem_union.mpr (.inr (sub _ hi)))
          | succ m =>
            obtain ⟨x, first, rest⟩ := steps
            have hx := follows.onward hf explored (sub i hi) first
            rcases explored'.leaves hx rest with inside | ⟨l, hl, way⟩
            · exact .inl inside
            · exact .inr ⟨l, by omega, way⟩

/-- As many steps as there are positions lead wherever any number of them leads. -/
theorem Follows.mem_repeated (least : Nat) (most : Option Nat) (hs : ∀ i ∈ s, i ≤ k) :
    j ∈ within step (most.elim (k + 1) (· - least)) (times step least s) (times step least s) ↔
      ∃ i ∈ s, ∃ more, (∀ n ∈ most, more ≤ n - least) ∧ Steps R (least + more) i j := by
  have start := follows.iterate forward least s hs
  have hr : ∀ i ∈ step^[least] s, i ≤ k := by
    intro x hx
    obtain ⟨i, hi, steps⟩ := (start x).mp hx
    exact (steps.bounded forward (hs i hi)).2
  have explored : Explored R (step^[least] s) (step^[least] s) := fun i hi other => absurd hi other
  rw [times_eq_iterate, follows.mem_within forward _ hr (fun _ => id) explored]
  constructor
  · rintro (inside | ⟨m, hm, x, hx, steps⟩)
    · obtain ⟨i, hi, steps⟩ := (start j).mp inside
      exact ⟨i, hi, 0, fun _ _ => Nat.zero_le _, steps⟩
    · obtain ⟨i, hi, before⟩ := (start x).mp hx
      refine ⟨i, hi, m, ?_, before.append steps⟩
      rintro n rfl
      exact hm
  · rintro ⟨i, hi, more, few, steps⟩
    obtain ⟨x, before, after⟩ := steps.split
    have hx := (start x).mpr ⟨i, hi, before⟩
    cases most with
    | none =>
      obtain ⟨m, hm, short⟩ := after.shorten forward (hr x hx)
      have hj := (after.bounded forward (hr x hx)).2
      exact .inr ⟨m, by simp only [Option.elim_none]; omega, x, hx, short⟩
    | some n => exact .inr ⟨more, few n rfl, x, hx, after⟩

end Follows

/-- The positions that are computed are those where matches end. -/
theorem follows_ends [Dialect] (text : Array Char) (p : Pattern) :
    Follows (ends text p) (Spans text p) text.size := by
  induction p with
  | empty => simp [Follows, ends, Spans]
  | char cls =>
    intro s _ j
    simp only [ends, Spans, List.mem_filterMap]
    refine exists_congr fun i => and_congr_right fun _ => ?_
    cases text[i]? with
    | none => simp
    | some c =>
      simp only [Option.any_some, Option.ite_none_right_eq_some, Option.some.injEq,
        exists_eq_left', @eq_comm _ j]
  | look l =>
    intro s _ j
    simp only [ends, Spans, List.mem_filter]
    constructor
    · rintro ⟨hj, holds⟩
      exact ⟨j, hj, holds, rfl⟩
    · rintro ⟨i, hi, holds, rfl⟩
      exact ⟨hi, holds⟩
  | group p ih => exact ih
  | seq p q ihp ihq =>
    intro s hs j
    rw [ends, ihq _ fun i => ihp.bounded (fun _ _ => Spans.bounded) hs]
    constructor
    · rintro ⟨x, hx, right⟩
      obtain ⟨i, hi, left⟩ := (ihp s hs x).mp hx
      exact ⟨i, hi, x, left, right⟩
    · rintro ⟨i, hi, x, left, right⟩
      exact ⟨x, (ihp s hs x).mpr ⟨i, hi, left⟩, right⟩
  | alt p q ihp ihq =>
    intro s hs j
    simp only [ends, mem_union, ihp s hs, ihq s hs, Spans, ← exists_or, ← and_or_left]
  | repeated p least most ih =>
    intro s hs j
    exact ih.mem_repeated (fun _ _ => Spans.bounded) least most hs

theorem matchesWithin_iff [Dialect] (p : Pattern) (text : String) :
    p.matchesWithin text = true ↔ p.MatchesWithin text := by
  have found := follows_ends text.toList.toArray p
    (List.range (text.toList.length + 1)) fun i hi => Nat.lt_succ_iff.mp (List.mem_range.mp hi)
  rw [matchesWithin, bne_iff_ne]
  constructor
  · intro some
    obtain ⟨j, hj⟩ := List.exists_mem_of_ne_nil _ some
    obtain ⟨i, hi, spans⟩ := (found j).mp hj
    exact ⟨i, j, Nat.lt_succ_iff.mp (List.mem_range.mp hi), spans⟩
  · rintro ⟨i, j, hi, spans⟩
    exact List.ne_nil_of_mem ((found j).mpr ⟨i, List.mem_range.mpr (Nat.lt_succ_of_le hi), spans⟩)

end Telemetry.Pattern
