import Mathlib.Algebra.BigOperators.Group.List.Basic
import Mathlib.Algebra.Ring.Nat
import Telemetry.Metric.OneSecond

/-!
What two buckets know of all that was ever marked. Marks come in any order, and a late one counts in
the latest second so far, so the rate is read off the marks as they are placed in time. Seconds
beyond 32 bits are placed by their low bits; for a clock that does not go back this tells them apart
unless an early mark looks as late as the second before now.
-/

namespace Telemetry

namespace OneSecond

def cap : Nat := 2 ^ 32 - 1

/-- Marks with the latest second so far in place of their own, from `top` on. -/
def placed (top : Nat) : List (Nat × Nat) → List (Nat × Nat)
  | [] => []
  | (second, n) :: marks => (max top second, n) :: placed (max top second) marks

/-- The latest second of all marks, or `top` if that is later. -/
def latest (top : Nat) : List (Nat × Nat) → Nat
  | [] => top
  | (second, _) :: marks => latest (max top second) marks

/-- The number of events in the second before `now`. -/
def eventsBefore (now : Nat) (marks : List (Nat × Nat)) : Nat :=
  ((marks.filter (·.1 + 1 = now)).map (·.2)).sum

/-- What a counter of these marks shows at `now`. -/
def rateAfter (marks : List (Nat × Nat)) (now : Nat) : Nat :=
  if 1 ≤ now ∧ latest 0 marks ≤ now then min cap (eventsBefore now (placed 0 marks)) else 0

/-- A mark with no more of its second than a bucket holds. -/
def low (m : Nat × Nat) : Nat × Nat := (m.1 % 2 ^ 32, m.2)

@[simp] theorem toNat_clamp (n : Nat) : (clamp n).toNat = min cap n := by
  have small : min n (UInt32.size - 1) < 2 ^ 32 :=
    Nat.lt_of_le_of_lt (Nat.min_le_right ..) (by decide)
  rw [clamp, UInt32.toNat_ofNat_of_lt' small, Nat.min_comm]
  rfl

/-! ### Events before a second -/

variable {now top : Nat} {marks : List (Nat × Nat)}

@[simp] theorem eventsBefore_nil (now : Nat) : eventsBefore now [] = 0 := rfl

theorem eventsBefore_append (now : Nat) (past marks : List (Nat × Nat)) :
    eventsBefore now (past ++ marks) = eventsBefore now past + eventsBefore now marks := by
  simp [eventsBefore]

theorem eventsBefore_cons (now : Nat) (m : Nat × Nat) (marks : List (Nat × Nat)) :
    eventsBefore now (m :: marks) =
      (if m.1 + 1 = now then m.2 else 0) + eventsBefore now marks := by
  by_cases h : m.1 + 1 = now <;> simp [eventsBefore, h]

theorem eventsBefore_eq_zero (h : ∀ m ∈ marks, m.1 + 1 ≠ now) : eventsBefore now marks = 0 := by
  have none_left : marks.filter (·.1 + 1 = now) = [] := by
    simpa [List.filter_eq_nil_iff] using h
  rw [eventsBefore, none_left]
  rfl

theorem latest_le {bound : Nat} (ht : top ≤ bound) (h : ∀ m ∈ marks, m.1 ≤ bound) :
    latest top marks ≤ bound := by
  induction marks generalizing top with
  | nil => exact ht
  | cons m marks ih =>
    rw [List.forall_mem_cons] at h
    exact ih (Nat.max_le.mpr ⟨ht, h.1⟩) h.2

end OneSecond

open OneSecond

namespace OneSecondCounter

def markAll (c : OneSecondCounter) (marks : List (UInt64 × UInt64)) : OneSecondCounter :=
  marks.foldl (fun c m => c.mark m.1 m.2) c

def toNats (m : UInt64 × UInt64) : Nat × Nat := (m.1.toNat, m.2.toNat)

theorem toNat_rate (c : OneSecondCounter) (now : UInt64) :
    (c.rate now).toNat =
      if c.current.second.toNat + 1 = now.toNat % 2 ^ 32 then c.current.count.toNat
      else if c.current.second.toNat = now.toNat % 2 ^ 32 ∧
        c.previous.second.toNat + 1 = now.toNat % 2 ^ 32 then c.previous.count.toNat
      else 0 := by
  rw [rate, ← UInt64.toNat_toUInt32]
  generalize now.toUInt32 = second
  by_cases start : second = 0
  · simp [start]
  · have pos : 1 ≤ second.toNat := by
      rw [Nat.one_le_iff_ne_zero]
      exact fun h => start (UInt32.toNat_inj.mp h)
    have pred : (second - 1).toNat = second.toNat - 1 :=
      UInt32.toNat_sub_of_le second 1 (UInt32.le_iff_toNat_le.mpr pos)
    have last (b : Bucket) : b.second = second - 1 ↔ b.second.toNat + 1 = second.toNat := by
      rw [← UInt32.toNat_inj, pred]
      omega
    rw [if_neg start]
    simp only [last, ← UInt32.toNat_inj, apply_ite UInt32.toNat]
    rfl

/-! ### What the buckets tell -/

/-- The current bucket tells of the latest second `top` of the marks, and the previous one of the
second before, if it is of that second at all. -/
structure Tells (c : OneSecondCounter) (top : Nat) (marks : List (Nat × Nat)) : Prop where
  second : c.current.second.toNat = top
  count : c.current.count.toNat = min cap (eventsBefore (top + 1) marks)
  before : (if c.previous.second.toNat + 1 = top then c.previous.count.toNat else 0) =
    min cap (eventsBefore top marks)
  le_top : ∀ m ∈ marks, m.1 ≤ top

namespace Tells

variable {c : OneSecondCounter} {top : Nat} {past : List (Nat × Nat)}

theorem zero : OneSecondCounter.zero.Tells 0 [] where
  second := rfl
  count := rfl
  before := rfl
  le_top _ h := by cases h

theorem eventsBefore_of_lt (h : c.Tells top past) {now : Nat} (later : top + 1 < now) :
    eventsBefore now past = 0 := by
  refine eventsBefore_eq_zero fun m hm => ?_
  have := h.le_top m hm
  omega

theorem le_top_append (h : c.Tells top past) (second n : Nat) :
    ∀ m ∈ past ++ [(max top second, n)], m.1 ≤ max top second := by
  intro m hm
  rcases List.mem_append.mp hm with hm | hm
  · exact Nat.le_trans (h.le_top m hm) (Nat.le_max_left ..)
  · obtain rfl := List.mem_singleton.mp hm
    exact Nat.le_refl _

theorem rollover (h : c.Tells top past) {second n : UInt32} {k : Nat} (later : top < second.toNat)
    (hn : n.toNat = min cap k) :
    (ofBuckets c.current ⟨second, n⟩).Tells (max top second.toNat)
      (past ++ [(max top second.toNat, k)]) := by
  have hmax : max top second.toNat = second.toNat := Nat.max_eq_right (Nat.le_of_lt later)
  refine ⟨?_, ?_, ?_, h.le_top_append second.toNat k⟩
  · simp [hmax]
  · simp [hmax, eventsBefore_append, eventsBefore_cons, h.eventsBefore_of_lt, later, hn]
  · have apart : second.toNat + 1 ≠ second.toNat := Nat.succ_ne_self _
    simp only [hmax, previous_ofBuckets, eventsBefore_append, eventsBefore_cons, if_neg apart,
      h.second, eventsBefore_nil, Nat.add_zero]
    by_cases next : top + 1 = second.toNat
    · rw [if_pos next, h.count, next]
    · rw [if_neg next, h.eventsBefore_of_lt (by omega), Nat.min_zero]

theorem late (h : c.Tells top past) {second n : UInt32} {k : Nat} (now : second.toNat ≤ top)
    (hn : n.toNat = min cap k) :
    (ofBuckets c.previous ⟨c.current.second, clamp (c.current.count.toNat + n.toNat)⟩).Tells
      (max top second.toNat) (past ++ [(max top second.toNat, k)]) := by
  have hmax : max top second.toNat = top := Nat.max_eq_left now
  refine ⟨?_, ?_, ?_, h.le_top_append second.toNat k⟩
  · simp [hmax, h.second]
  · simp only [hmax, current_ofBuckets, toNat_clamp, eventsBefore_append, eventsBefore_cons,
      eventsBefore_nil, h.count, hn, if_pos]
    omega
  · have apart : top + 1 ≠ top := Nat.succ_ne_self _
    simp only [hmax, previous_ofBuckets, eventsBefore_append, eventsBefore_cons, if_neg apart,
      eventsBefore_nil, Nat.add_zero]
    exact h.before

theorem mark (h : c.Tells top past) (m : UInt64 × UInt64) :
    (c.mark m.1 m.2).Tells (max top (low (toNats m)).1)
      (past ++ [(max top (low (toNats m)).1, m.2.toNat)]) := by
  have hs : (low (toNats m)).1 = m.1.toUInt32.toNat := (UInt64.toNat_toUInt32 m.1).symm
  have hn : (clamp m.2.toNat).toNat = min cap m.2.toNat := toNat_clamp _
  rw [hs, OneSecondCounter.mark]
  split
  · next newer =>
    rw [UInt32.lt_iff_toNat_lt, h.second] at newer
    exact h.rollover newer hn
  · next older =>
    rw [UInt32.lt_iff_toNat_lt, h.second] at older
    exact h.late (Nat.le_of_not_lt older) hn

theorem markAll (h : c.Tells top past) (marks : List (UInt64 × UInt64)) :
    (c.markAll marks).Tells (latest top ((marks.map toNats).map low))
      (past ++ placed top ((marks.map toNats).map low)) := by
  -- `past` holds what is already placed; each mark moves one event list over to it.
  induction marks generalizing c top past with
  | nil => simpa [OneSecondCounter.markAll, latest, placed] using h
  | cons m marks ih =>
    have marked := ih (h.mark m)
    rw [List.append_assoc] at marked
    exact marked

theorem rate (h : c.Tells top past) (now : UInt64) :
    (c.rate now).toNat = if 1 ≤ now.toNat % 2 ^ 32 ∧ top ≤ now.toNat % 2 ^ 32 then
      min cap (eventsBefore (now.toNat % 2 ^ 32) past) else 0 := by
  rw [toNat_rate, h.second]
  generalize now.toNat % 2 ^ 32 = second
  rcases Nat.lt_trichotomy (top + 1) second with older | last | newer
  · rw [if_neg (by omega), if_neg (by omega), if_pos (by omega), h.eventsBefore_of_lt older]
    rfl
  · rw [if_pos last, if_pos (by omega), h.count, last]
  · rw [if_neg (by omega)]
    by_cases now : top = second
    · subst now
      simp only [true_and, Nat.le_refl, and_true, h.before]
      by_cases pos : 1 ≤ top
      · rw [if_pos pos]
      · rw [if_neg pos, eventsBefore_eq_zero (by omega), Nat.min_zero]
    · rw [if_neg (by omega), if_neg (by omega)]

end Tells

theorem rate_markAll_low (marks : List (UInt64 × UInt64)) (now : UInt64) :
    ((zero.markAll marks).rate now).toNat =
      rateAfter ((marks.map toNats).map low) (now.toNat % 2 ^ 32) :=
  (Tells.zero.markAll marks).rate now

/-- The rate is the number of the events that were marked when the second before `now` was the
latest so far, cut off at 32 bits, and 0 if a later second than `now` was marked. -/
theorem rate_markAll (marks : List (UInt64 × UInt64)) (now : UInt64)
    (small : ∀ m ∈ marks, m.1.toNat < 2 ^ 32) (hn : now.toNat < 2 ^ 32) :
    ((zero.markAll marks).rate now).toNat = rateAfter (marks.map toNats) now.toNat := by
  have same : (marks.map toNats).map low = marks.map toNats := by
    rw [List.map_map]
    exact List.map_congr_left fun m hm => Prod.ext (Nat.mod_eq_of_lt (small m hm)) rfl
  rw [rate_markAll_low, same, Nat.mod_eq_of_lt hn]

def crowded : List (UInt64 × UInt64) := [(20, 3), (19, 18446744073709551615), (21, 0)]

theorem rate_crowded :
    (∀ m ∈ crowded, m.1.toNat < 2 ^ 32) ∧ (21 : UInt64).toNat < 2 ^ 32 ∧
      ((zero.markAll crowded).rate 21).toNat = 4294967295 := by
  have small : ∀ m ∈ crowded, m.1.toNat < 2 ^ 32 := by simp [crowded]
  have hn : (21 : UInt64).toNat < 2 ^ 32 := by decide
  refine ⟨small, hn, ?_⟩
  rw [rate_markAll crowded 21 small hn]
  decide

end OneSecondCounter

/-! ### Seconds beyond 32 bits -/

namespace OneSecond

variable {now top : Nat} {marks : List (Nat × Nat)}

/-- A mark of another range than `now` does not look as late as the second before `now`. -/
def Apart (now : Nat) (m : Nat × Nat) : Prop :=
  m.1 / 2 ^ 32 = now / 2 ^ 32 ∨ m.1 % 2 ^ 32 + 1 < now % 2 ^ 32

/-- The latest low second has not yet come to hide what is still to be marked. -/
def Open (now top : Nat) (marks : List (Nat × Nat)) : Prop :=
  top + 1 < now % 2 ^ 32 ∨ (top + 1 = now % 2 ^ 32 ∧ ∀ m ∈ marks, now ≤ m.1 + 1) ∨
    (now % 2 ^ 32 ≤ top ∧ ∀ m ∈ marks, now ≤ m.1)

theorem Open.cons {m : Nat × Nat} (h : Open now top (m :: marks)) (later : ∀ m' ∈ marks, m.1 ≤ m'.1)
    (apart : Apart now m) (hm : m.1 ≤ now) : Open now (max top (low m).1) marks := by
  simp only [Open, List.forall_mem_cons, low, Apart] at *
  rcases Nat.lt_trichotomy (max top (m.1 % 2 ^ 32) + 1) (now % 2 ^ 32) with lt | eq | gt
  · exact .inl lt
  · refine .inr (.inl ⟨eq, fun m' hm' => ?_⟩)
    have := later m' hm'
    rcases h with h | ⟨-, -, h⟩ | h
    · omega
    · exact h m' hm'
    · omega
  · refine .inr (.inr ⟨by omega, fun m' hm' => ?_⟩)
    have := later m' hm'
    rcases h with h | h | ⟨-, -, h⟩
    · omega
    · omega
    · exact h m' hm'

theorem Open.max_low_iff {m : Nat × Nat} (h : Open now top (m :: marks)) (apart : Apart now m)
    (hm : m.1 ≤ now) (pos : 1 ≤ now % 2 ^ 32) :
    max top (low m).1 + 1 = now % 2 ^ 32 ↔ m.1 + 1 = now := by
  simp only [Open, List.forall_mem_cons, low, Apart] at *
  omega

theorem eventsBefore_placed_low (sorted : marks.Pairwise (·.1 ≤ ·.1)) (past : ∀ m ∈ marks, m.1 ≤ now)
    (apart : ∀ m ∈ marks, Apart now m) (pos : 1 ≤ now % 2 ^ 32) (h : Open now top marks) :
    eventsBefore (now % 2 ^ 32) (placed top (marks.map low)) = eventsBefore now marks := by
  induction marks generalizing top with
  | nil => rfl
  | cons m marks ih =>
    rw [List.forall_mem_cons] at past apart
    rw [List.pairwise_cons] at sorted
    have rest := ih sorted.2 past.2 apart.2 (h.cons sorted.1 apart.1 past.1)
    have first := h.max_low_iff apart.1 past.1 pos
    simp only [List.map_cons, placed, eventsBefore_cons, first, rest]
    rfl

theorem Open.start (apart : ∀ m ∈ marks, Apart now m) (pos : 1 ≤ now % 2 ^ 32) :
    Open now 0 marks := by
  rcases Nat.lt_or_eq_of_le pos with lt | eq
  · exact .inl lt
  · refine .inr (.inl ⟨eq, fun m hm => ?_⟩)
    have := apart m hm
    simp only [Apart] at this
    omega

theorem rateAfter_low (sorted : marks.Pairwise (·.1 ≤ ·.1)) (past : ∀ m ∈ marks, m.1 ≤ now)
    (apart : ∀ m ∈ marks, Apart now m) :
    rateAfter (marks.map low) (now % 2 ^ 32) = min cap (eventsBefore now marks) := by
  simp only [Apart] at apart
  by_cases pos : 1 ≤ now % 2 ^ 32
  · have reached : latest 0 (marks.map low) ≤ now % 2 ^ 32 := by
      refine latest_le (Nat.zero_le _) fun _ hl => ?_
      obtain ⟨m, hm, rfl⟩ := List.mem_map.mp hl
      have := past m hm
      have := apart m hm
      simp only [low]
      omega
    rw [rateAfter, if_pos ⟨pos, reached⟩,
      eventsBefore_placed_low sorted past apart pos (.start apart pos)]
  · have quiet : eventsBefore now marks = 0 := by
      refine eventsBefore_eq_zero fun m hm => ?_
      have := apart m hm
      omega
    rw [rateAfter, if_neg (by omega), quiet, Nat.min_zero]

end OneSecond

end Telemetry
