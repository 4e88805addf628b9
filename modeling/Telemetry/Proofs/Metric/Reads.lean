import Telemetry.Proofs.Metric.Meter

/-!
Readings of a meter between its marks. Whoever calls first catches up, so a reading may split what
the next call would catch up with at once. The parts make up the whole, except that the next call
waits if it comes on the boundary just after the reading.
-/

namespace Telemetry.Meter

/-- Whether a call makes the meter catch up only to be read. -/
def Call.isRead (c : Call) : Bool :=
  match c.action with
  | .rate _ | .snapshot => true
  | _ => false

def Call.isMark (c : Call) : Bool :=
  match c.action with
  | .mark _ => true
  | _ => false

/-- A call at `t`, some whole intervals after `origin`, comes at most one interval after the reading
at `r`. -/
def Disturbs (origin r t : Nanos) : Prop :=
  (t.toNat - origin.toNat) % 5000000000 = 0 ∧ r < t ∧ t.toNat ≤ r.toNat + 5000000000

theorem eq_of_average {m m' : Meter} (count : m.count = m'.count) (start : m.start = m'.start)
    (lastTick : m.lastTick.toNat = m'.lastTick.toNat)
    (average : ∀ span, m.average span = m'.average span) : m = m' := by
  obtain ⟨c, s, t, a₁, a₅, a₁₅⟩ := m
  obtain ⟨c', s', t', a₁', a₅', a₁₅'⟩ := m'
  obtain rfl : a₁ = a₁' := average .oneMinute
  obtain rfl : a₅ = a₅' := average .fiveMinutes
  obtain rfl : a₁₅ = a₁₅' := average .fifteenMinutes
  obtain rfl : t = t' := UInt64.toNat_inj.mp lastTick
  cases count
  cases start
  rfl

/-- Catching up twice takes all ticks that catching up once does, unless only the second one waits. -/
theorem due_add {m : Meter} {r t : Nanos} (first : m.lastTick ≤ r) (later : r ≤ t)
    (h : Disturbs m.lastTick r t → m.due t = 0 ∨ (m.catchUp r).due t ≠ 0) :
    m.due t = m.due r + (m.catchUp r).due t := by
  simp only [Disturbs, due_eq, lastTick_catchUp, UInt64.le_iff_toNat_le,
    UInt64.lt_iff_toNat_lt] at *
  grind

namespace Logged

variable {start r t upTo : Nanos} {k : Nat} {l l' : Logged}

theorem catchUp_catchUp (h : l.meter.due t = l.meter.due r + (l.meter.catchUp r).due t) :
    (l.catchUp r).catchUp t = l.catchUp t := by
  simp only [catchUp, mk.injEq]
  constructor
  · apply eq_of_average
    · simp
    · simp
    · simp only [lastTick_catchUp, h]
      omega
    · intro span
      simp only [average_catchUp, h, Average.ticks_add]
  · funext span
    rw [h, Average.taken_add, average_catchUp, List.append_assoc]

theorem catchUp_of_due (h : l.meter.due t = 0) : l.catchUp t = l := by
  obtain ⟨m, taken⟩ := l
  simp only [catchUp, h, mk.injEq]
  constructor
  · apply eq_of_average <;> simp [lastTick_catchUp, average_catchUp, h]
  · funext span
    exact List.append_nil _

theorem Accounts.disturbs (h : l.Accounts start k) (past : l.meter.lastTick ≤ t)
    (d : Disturbs l.meter.lastTick r t) : Disturbs start r t := by
  have grid := h.lastTick
  rw [UInt64.le_iff_toNat_le] at past
  refine ⟨?_, d.2⟩
  have := d.1
  omega

/-- The second meter is the first one or, until `upTo`, what a reading makes of it. -/
structure Ahead (start : Nanos) (R : Nanos → Prop) (upTo : Nanos) (l l' : Logged) : Prop where
  accounts : ∃ k, l.Accounts start k
  lastTick_le : l.meter.lastTick ≤ upTo
  read : l' = l ∨ ∃ r, R r ∧ l.meter.lastTick ≤ r ∧ r ≤ upTo ∧ l' = l.catchUp r

namespace Ahead

variable {R : Nanos → Prop}

theorem mark (h : Ahead start R upTo l l') (le : upTo ≤ t)
    (met : l'.catchUp t = l.catchUp t) (n : UInt64) :
    Ahead start R t ((l.catchUp t).add n) ((l'.catchUp t).add n) where
  accounts := by
    obtain ⟨k, accounts⟩ := h.accounts
    exact ⟨_, (accounts.catchUp t).add n⟩
  lastTick_le := UInt64.le_iff_toNat_le.mpr <| lastTick_catchUp_le
    (UInt64.le_iff_toNat_le.mp (UInt64.le_trans h.lastTick_le le)) (Nat.le_refl _)
  read := .inl (congrArg (add · n) met)

theorem later (h : Ahead start R upTo l l') (le : upTo ≤ t) : Ahead start R t l l' where
  accounts := h.accounts
  lastTick_le := UInt64.le_trans h.lastTick_le le
  read := h.read.imp id fun ⟨r, hr, first, past, eq⟩ => ⟨r, hr, first, UInt64.le_trans past le, eq⟩

theorem catchUp (h : Ahead start R upTo l l') (le : upTo ≤ t) (ht : R t) :
    Ahead start R t l (l'.catchUp t) where
  accounts := h.accounts
  lastTick_le := UInt64.le_trans h.lastTick_le le
  read := by
    have first := UInt64.le_trans h.lastTick_le le
    rcases h.read with rfl | ⟨r, hr, after, past, rfl⟩
    · exact .inr ⟨t, ht, first, UInt64.le_refl t, rfl⟩
    · have past := UInt64.le_trans past le
      by_cases waits : (l.meter.catchUp r).due t = 0
      · exact .inr ⟨r, hr, after, past, catchUp_of_due waits⟩
      · have met := catchUp_catchUp (due_add after past fun _ => .inr waits)
        exact .inr ⟨t, ht, first, UInt64.le_refl t, met⟩

/-- The two meet at a call that no reading disturbs or that the unread meter does not tick for. -/
theorem meet (h : Ahead start R upTo l l') (le : upTo ≤ t)
    (clear : ∀ r, R r → Disturbs start r t → l.meter.due t = 0) : l'.catchUp t = l.catchUp t := by
  obtain ⟨k, accounts⟩ := h.accounts
  rcases h.read with rfl | ⟨r, hr, after, past, rfl⟩
  · rfl
  · have past := UInt64.le_trans past le
    apply catchUp_catchUp
    apply due_add after past
    intro d
    exact .inl (clear r hr (accounts.disturbs (UInt64.le_trans after past) d))

/-- Of all times in `marks`, none that a reading disturbs is one that the unread meter ticks for. -/
def Clear (start : Nanos) (R : Nanos → Prop) (m : Meter) (marks : List Call) : Prop :=
  ∀ before t after, marks = before ++ t :: after →
    ∀ r, R r → Disturbs start r t.now → (m.run before).due t.now = 0

theorem run {calls : List Call} {c : Call} (h : Ahead start R upTo l l')
    (forward : Forward upTo (calls ++ [c])) (reads : ∀ d ∈ calls, d.isRead → R d.now)
    (clear : Clear start R l.meter (calls.filter Call.isMark ++ [c])) :
    (l'.run calls).catchUp c.now = (l.run (calls.filter Call.isMark)).catchUp c.now := by
  induction calls generalizing l l' upTo with
  | nil =>
    have le : upTo ≤ c.now := List.rel_of_pairwise_cons forward (by simp)
    exact h.meet le fun r hr => clear [] c [] rfl r hr
  | cons d calls ih =>
    rw [List.forall_mem_cons] at reads
    have le : upTo ≤ d.now := List.rel_of_pairwise_cons forward (by simp)
    have rest : Forward d.now (calls ++ [c]) := List.Pairwise.of_cons forward
    obtain ⟨now, action⟩ := d
    cases action with
    | mark n =>
      have met := h.meet le fun r hr => clear [] _ _ rfl r hr
      refine ih (h.mark le met n) rest reads.2 fun before t after split r hr => ?_
      exact clear (_ :: before) t after (congrArg (_ :: ·) split) r hr
    | mean => exact ih (h.later le) rest reads.2 clear
    | rate span => exact ih (h.catchUp le (reads.1 rfl)) rest reads.2 clear
    | snapshot => exact ih (h.catchUp le (reads.1 rfl)) rest reads.2 clear

end Ahead

theorem perform_of_near {c : Call} (near : c.now.toNat ≤ l.meter.lastTick.toNat + 5000000000) :
    (l.perform c).ticks = l.ticks ∧ (l.perform c).meter.lastTick = l.meter.lastTick := by
  rw [perform_eq]
  split
  · exact ⟨rfl, rfl⟩
  · have due : l.meter.due c.now = 0 := by
      rw [due_eq, if_pos (by omega)]
    rw [catchUp_of_due due]
    exact ⟨rfl, rfl⟩

theorem ticks_run_of_near {calls : List Call}
    (near : ∀ c ∈ calls, c.now.toNat ≤ l.meter.lastTick.toNat + 5000000000) :
    (l.run calls).ticks = l.ticks := by
  induction calls generalizing l with
  | nil => rfl
  | cons c calls ih =>
    rw [List.forall_mem_cons] at near
    obtain ⟨ticks, lastTick⟩ := perform_of_near near.1
    rw [← ticks]
    exact ih (lastTick ▸ near.2)

end Logged

variable {start : Nanos} {calls : List Call} {c : Call}

theorem Call.isRead_ne_mean (h : c.isRead) : c.action ≠ .mean := by
  intro mean
  simp [isRead, mean] at h

theorem perform_of_isRead (h : c.isRead) (l : Logged) : l.perform c = l.catchUp c.now := by
  obtain ⟨now, action⟩ := c
  cases action with
  | mark n => cases h
  | mean => cases h
  | rate span => rfl
  | snapshot => rfl

/-- A last reading on a boundary, with another one in the interval before it, misses a tick. -/
theorem ticks_of_disturbs {r : Call} (forward : Forward start (calls ++ [c]))
    (hr : r ∈ calls) (hread : r.isRead) (disturbs : Disturbs start r.now c.now)
    (within : c.now.toNat ≠ r.now.toNat + 5000000000) :
    start.toNat + (((Logged.startingAt start).run calls).perform c).ticks * 5000000000 +
      5000000000 = c.now.toNat := by
  obtain ⟨first, others⟩ := forward.le_last
  obtain ⟨grid, earlier, close⟩ := disturbs
  obtain ⟨before, after, rfl⟩ := List.append_of_mem hr
  have started : start ≤ r.now := List.rel_of_pairwise_cons forward (by simp)
  have untilRead : Forward start (before ++ [r]) := by
    refine List.Pairwise.sublist (List.Sublist.cons_cons start (List.Sublist.map _ ?_)) forward
    simp
  have ticks := ticks_perform (Call.isRead_ne_mean hread) untilRead
  have lastTick := (((Logged.Accounts.startingAt start).run before).perform r).lastTick
  rw [UInt64.le_iff_toNat_le] at started first
  rw [UInt64.lt_iff_toNat_lt] at earlier
  -- The reading ticked for all intervals but the last, and nobody after it ticks for that one.
  have rest : ∀ d ∈ after ++ [c], d.now.toNat ≤
      (((Logged.startingAt start).run before).perform r).meter.lastTick.toNat + 5000000000 := by
    intro d hd
    have past : d.now ≤ c.now := by
      rcases List.mem_append.mp hd with hd | hd
      · exact others d (by simp [hd])
      · exact List.mem_singleton.mp hd ▸ UInt64.le_refl _
    rw [UInt64.le_iff_toNat_le] at past
    omega
  have same := Logged.ticks_run_of_near rest
  have whole : ((Logged.startingAt start).run (before ++ r :: after)).perform c =
      (((Logged.startingAt start).run before).perform r).run (after ++ [c]) := by
    simp [Logged.run]
  rw [whole, same]
  omega

theorem ticks_of_due (read : c.isRead) (grid : (c.now.toNat - start.toNat) % 5000000000 = 0)
    (due : ((startingAt start).run calls).due c.now ≠ 0) :
    start.toNat + (((Logged.startingAt start).run calls).perform c).ticks * 5000000000 =
      c.now.toNat := by
  have accounts := (Logged.Accounts.startingAt start).run calls
  have before := accounts.lastTick
  have after := (accounts.perform c).lastTick
  rw [perform_of_isRead read] at after ⊢
  rw [← after]
  rw [← Logged.meter_run_startingAt] at due
  simp only [Logged.catchUp, lastTick_catchUp, due_eq] at due ⊢
  grind

/-- Readings on the way change nothing for a later one, unless a mark or that one comes on a
boundary, within an interval of a reading, and would have made the meter tick. Then the meter that
was read has one tick fewer. -/
theorem reads_disturb_boundaries (start : Nanos) (calls : List Call) (c : Call) (read : c.isRead)
    (forward : Forward start (calls ++ [c])) :
    let marks := calls.filter Call.isMark
    let seen := ((Logged.startingAt start).run calls).perform c
    let unseen := ((Logged.startingAt start).run marks).perform c
    ((∀ before t after, marks ++ [c] = before ++ t :: after → ∀ r ∈ calls, r.isRead →
        Disturbs start r.now t.now → ((startingAt start).run before).due t.now = 0) →
      seen = unseen ∧ ∀ span, (((startingAt start).run calls).rate c.now span).1 =
        (((startingAt start).run marks).rate c.now span).1) ∧
    ∀ r ∈ calls, r.isRead → Disturbs start r.now c.now → c.now.toNat ≠ r.now.toNat + 5000000000 →
      ((startingAt start).run marks).due c.now ≠ 0 → seen.ticks + 1 = unseen.ticks := by
  intro marks seen unseen
  refine ⟨fun clear => ?_, fun r hr hread disturbs within due => ?_⟩
  · have ahead : Logged.Ahead start (fun t => ∃ r ∈ calls, r.isRead ∧ r.now = t) start
        (.startingAt start) (.startingAt start) :=
      ⟨⟨0, .startingAt start⟩, UInt64.le_refl _, .inl rfl⟩
    have met : ((Logged.startingAt start).run calls).catchUp c.now =
        ((Logged.startingAt start).run marks).catchUp c.now := by
      apply ahead.run forward (fun r hr hread => ⟨r, hr, hread, rfl⟩)
      rintro before t after split _ ⟨r, hr, hread, rfl⟩
      exact clear before t after split r hr hread
    have meters := congrArg Logged.meter met
    simp only [Logged.catchUp, Logged.meter_run_startingAt] at meters
    refine ⟨?_, fun span => ?_⟩
    · simp only [seen, unseen, perform_of_isRead read, met]
    · simp only [rate, meters]
  · have old := ticks_of_disturbs forward hr hread disturbs within
    have new := ticks_of_due read disturbs.1 due
    change start.toNat + seen.ticks * 5000000000 + 5000000000 = _ at old
    change start.toNat + unseen.ticks * 5000000000 = _ at new
    omega

def busy : List Call :=
  [⟨0, .mark 60⟩, ⟨7000000000, .snapshot⟩, ⟨9000000000, .mark 5⟩, ⟨10000000000, .mark 2⟩]

theorem reads_disturb_boundaries_busy :
    let c : Call := ⟨12000000000, .rate .fifteenMinutes⟩
    c.isRead ∧ Forward 0 (busy ++ [c]) ∧
      (((startingAt 0).run busy).rate c.now .fifteenMinutes).1 =
        (((startingAt 0).run (busy.filter Call.isMark)).rate c.now .fifteenMinutes).1 := by
  intro c
  have forward : Forward 0 (busy ++ [c]) := by simp [Forward, busy, c]
  refine ⟨rfl, forward, ((reads_disturb_boundaries 0 busy c rfl forward).1 ?_).2 .fifteenMinutes⟩
  intro before t after split r hr hread disturbs
  have single : r = ⟨7000000000, .snapshot⟩ := by
    simp only [busy, List.mem_cons, List.not_mem_nil, or_false] at hr
    rcases hr with rfl | rfl | rfl | rfl
    · cases hread
    · rfl
    · cases hread
    · cases hread
  subst single
  -- Of the marks and the last reading only the mark at 10 s is disturbed, with nothing due for it.
  simp only [busy, List.filter, Call.isMark, List.cons_append, List.nil_append] at split
  rcases before with _ | ⟨_, _ | ⟨_, _ | ⟨_, _ | ⟨_, before⟩⟩⟩⟩ <;>
    simp only [List.nil_append, List.cons_append, List.cons.injEq, List.nil_eq,
      List.append_eq_nil_iff] at split
  · obtain ⟨rfl, -⟩ := split
    exact absurd disturbs.2.1 (by decide)
  · obtain ⟨-, rfl, -⟩ := split
    exact absurd disturbs.1 (by decide)
  · obtain ⟨rfl, rfl, rfl, -⟩ := split
    decide
  · obtain ⟨-, -, -, rfl, -⟩ := split
    exact absurd disturbs.1 (by decide)
  · simp at split

def markThenRead : List Call := [⟨0, .mark 60⟩, ⟨7000000000, .rate .oneMinute⟩]

/-- The reading at 7 s keeps the one at 10 s from a tick. -/
theorem reads_disturb_rate :
    let c : Call := ⟨10000000000, .rate .oneMinute⟩
    let marks := markThenRead.filter Call.isMark
    c.isRead ∧ Forward 0 (markThenRead ++ [c]) ∧
      (((Logged.startingAt 0).run markThenRead).perform c).taken .oneMinute = [60] ∧
      (((Logged.startingAt 0).run marks).perform c).taken .oneMinute = [60, 0] ∧
      (((startingAt 0).run markThenRead).rate c.now .oneMinute).1 ≠
        (((startingAt 0).run marks).rate c.now .oneMinute).1 := by
  refine ⟨rfl, ?_, ?_, ?_, ?_⟩
  · simp [Forward, markThenRead]
  · decide
  · decide
  · decide

end Telemetry.Meter
