import Telemetry.Metric.Meter
import Telemetry.Proofs.Metric.Average

/-!
Meters under any calls and any movement of the clock. A log beside the meter keeps what the ticks of
each average took in; the ticks are accounted for by the calls and by the time of the last tick.
-/

namespace Telemetry

theorem Nanos.toNat_since (t start : Nanos) : (t.since start).toNat = t.toNat - start.toNat := by
  rw [since]
  split
  · next h => exact UInt64.toNat_sub_of_le t start h
  · next h =>
    rw [UInt64.le_iff_toNat_le] at h
    simp
    omega

namespace Meter

@[simp] theorem toNat_tickInterval : tickInterval.toNat = 5000000000 := rfl

/-- The number of ticks that catching up takes. -/
def due (m : Meter) (now : Nanos) : Nat :=
  if now.since m.lastTick ≤ tickInterval then 0
  else (now.since m.lastTick).toNat / tickInterval.toNat

/-- Counts events in a meter that has caught up. -/
def add (m : Meter) (n : UInt64) : Meter :=
  { m with
    count := m.count + n
    oneMinute := m.oneMinute.count n
    fiveMinutes := m.fiveMinutes.count n
    fifteenMinutes := m.fifteenMinutes.count n }

@[simp] theorem average_add (m : Meter) (n : UInt64) (span : Span) :
    (m.add n).average span = (m.average span).count n := by
  cases span <;> rfl

@[simp] theorem count_add (m : Meter) (n : UInt64) : (m.add n).count = m.count + n := rfl

variable (m : Meter) (now : Nanos)

theorem due_eq : m.due now =
    if now.toNat - m.lastTick.toNat ≤ 5000000000 then 0
    else (now.toNat - m.lastTick.toNat) / 5000000000 := by
  simp [due, UInt64.le_iff_toNat_le, Nanos.toNat_since]

@[simp] theorem count_catchUp : (m.catchUp now).count = m.count := by
  rw [catchUp]
  split <;> rfl

@[simp] theorem start_catchUp : (m.catchUp now).start = m.start := by
  rw [catchUp]
  split <;> rfl

theorem average_catchUp (span : Span) :
    (m.catchUp now).average span = (m.average span).ticks (m.due now) := by
  rw [catchUp, due]
  split
  · rfl
  · rw [← UInt64.toNat_div]
    cases span <;> rfl

theorem age_mod_le : now.since m.lastTick % tickInterval ≤ now := by
  rw [UInt64.le_iff_toNat_le, UInt64.toNat_mod, Nanos.toNat_since]
  exact Nat.le_trans (Nat.mod_le ..) (Nat.sub_le ..)

theorem lastTick_catchUp :
    (m.catchUp now).lastTick.toNat = m.lastTick.toNat + m.due now * 5000000000 := by
  have within := m.age_mod_le now
  rw [catchUp, due_eq]
  simp only [UInt64.le_iff_toNat_le, Nanos.toNat_since, toNat_tickInterval]
  split
  · simp
  · change (now - now.since m.lastTick % tickInterval).toNat = _
    rw [UInt64.toNat_sub_of_le _ _ within, UInt64.toNat_mod, Nanos.toNat_since, toNat_tickInterval]
    omega

theorem lastTick_le_catchUp : m.lastTick.toNat ≤ (m.catchUp now).lastTick.toNat := by
  rw [lastTick_catchUp]
  exact Nat.le_add_right ..

theorem age_catchUp_le : now.toNat - (m.catchUp now).lastTick.toNat ≤ 5000000000 := by
  rw [lastTick_catchUp, due_eq]
  split <;> omega

theorem lastTick_catchUp_le {m : Meter} {now : Nanos} {bound : Nat}
    (hm : m.lastTick.toNat ≤ bound) (hn : now.toNat ≤ bound) :
    (m.catchUp now).lastTick.toNat ≤ bound := by
  rw [lastTick_catchUp, due_eq]
  split <;> omega

/-! ### Runs -/

inductive Action
  | mark (n : UInt64)
  | mean
  | rate (span : Span)
  | snapshot
deriving DecidableEq

/-- What is called, and what the clock then shows. -/
structure Call where
  now : Nanos
  action : Action
deriving DecidableEq

/-- The number of events that a call marks. -/
def Call.events (c : Call) : UInt64 :=
  match c.action with
  | .mark n => n
  | _ => 0

def perform (m : Meter) (c : Call) : Meter :=
  match c.action with
  | .mark n => m.mark c.now n
  | .mean => m
  | .rate span => (m.rate c.now span).2
  | .snapshot => (m.snapshot c.now).2

def run (m : Meter) (calls : List Call) : Meter := calls.foldl perform m

@[simp] theorem add_zero (m : Meter) : m.add 0 = m := by
  simp [add]

/-- All calls but that for the mean rate catch up and count what they mark. -/
theorem perform_eq (m : Meter) (c : Call) :
    m.perform c = if c.action = .mean then m else (m.catchUp c.now).add c.events := by
  obtain ⟨now, action⟩ := c
  cases action with
  | mark n => rfl
  | mean => rfl
  | rate span => exact (add_zero _).symm
  | snapshot => exact (add_zero _).symm

/-- The number of events that calls mark, of any size. -/
def marked (calls : List Call) : Nat := (calls.map (·.events.toNat)).sum

theorem lastTick_run_le {m : Meter} {bound : Nat} {calls : List Call}
    (hm : m.lastTick.toNat ≤ bound) (hc : ∀ c ∈ calls, c.now.toNat ≤ bound) :
    (m.run calls).lastTick.toNat ≤ bound := by
  induction calls generalizing m with
  | nil => exact hm
  | cons c calls ih =>
    rw [List.forall_mem_cons] at hc
    apply ih _ hc.2
    rw [perform_eq]
    split
    · exact hm
    · exact lastTick_catchUp_le hm hc.1

/-- A meter, and beside it what the ticks of each average took in. -/
structure Logged where
  meter : Meter
  taken : Span → List UInt64

namespace Logged

def startingAt (now : Nanos) : Logged := ⟨.startingAt now, fun _ => []⟩

def catchUp (l : Logged) (now : Nanos) : Logged where
  meter := l.meter.catchUp now
  taken span := l.taken span ++ (l.meter.average span).taken (l.meter.due now)

def add (l : Logged) (n : UInt64) : Logged := { l with meter := l.meter.add n }

def perform (l : Logged) (c : Call) : Logged where
  meter := l.meter.perform c
  taken := if c.action = .mean then l.taken else (l.catchUp c.now).taken

def run (l : Logged) (calls : List Call) : Logged := calls.foldl perform l

/-- The number of ticks so far. -/
def ticks (l : Logged) : Nat := (l.taken .oneMinute).length

theorem perform_eq (l : Logged) (c : Call) :
    l.perform c = if c.action = .mean then l else (l.catchUp c.now).add c.events := by
  rw [perform, Meter.perform_eq]
  split <;> rfl

theorem meter_run (l : Logged) (calls : List Call) :
    (l.run calls).meter = l.meter.run calls := by
  induction calls generalizing l with
  | nil => rfl
  | cons c calls ih => exact ih (l.perform c)

theorem meter_run_startingAt (start : Nanos) (calls : List Call) :
    ((startingAt start).run calls).meter = (Meter.startingAt start).run calls :=
  meter_run ..

/-! ### Accounts -/

/-- What the log of a meter that started at `start` says of it after so many events were marked. -/
structure Accounts (start : Nanos) (marked : Nat) (l : Logged) : Prop where
  /-- All averages ticked together and took in the same. -/
  taken_eq : ∀ span, l.taken span = l.taken .oneMinute
  uncounted_eq : ∀ span,
    (l.meter.average span).uncounted = (l.meter.average .oneMinute).uncounted
  /-- Each average is what the ticks of the log make of a new one. -/
  tookIn : ∀ span, (Average.ofSpan span).TookIn (l.taken span) (l.meter.average span)
  lastTick : l.meter.lastTick.toNat = start.toNat + l.ticks * 5000000000
  count : l.meter.count.toNat = marked % 2 ^ 64
  balance : ∀ span, (((l.taken span).map UInt64.toNat).sum +
    (l.meter.average span).uncounted.toNat) % 2 ^ 64 = l.meter.count.toNat

namespace Accounts

variable {start : Nanos} {k : Nat} {l : Logged}

theorem startingAt (start : Nanos) : (Logged.startingAt start).Accounts start 0 where
  taken_eq _ := rfl
  uncounted_eq span := by cases span <;> rfl
  tookIn span := by cases span <;> rfl
  lastTick := by simp [Logged.startingAt, ticks, Meter.startingAt]
  count := rfl
  balance span := by cases span <;> rfl

theorem catchUp (h : l.Accounts start k) (now : Nanos) : (l.catchUp now).Accounts start k where
  taken_eq span := by
    simp only [Logged.catchUp, h.taken_eq span, Average.taken_congr (h.uncounted_eq span)]
  uncounted_eq span := by
    simp only [Logged.catchUp, average_catchUp, Average.uncounted_ticks, h.uncounted_eq span]
  tookIn span := by
    simp only [Logged.catchUp, average_catchUp]
    exact (h.tookIn span).ticks _
  lastTick := by
    simp only [Logged.catchUp, Logged.ticks, lastTick_catchUp, h.lastTick, List.length_append,
      Average.length_taken]
    omega
  count := by simpa [Logged.catchUp] using h.count
  balance span := by
    simp only [Logged.catchUp, average_catchUp, count_catchUp, List.map_append, List.sum_append,
      Nat.add_assoc, Average.sum_taken, h.balance span]

theorem add (h : l.Accounts start k) (n : UInt64) : (l.add n).Accounts start (k + n.toNat) where
  taken_eq := h.taken_eq
  uncounted_eq span := by simp [Logged.add, h.uncounted_eq span]
  tookIn span := by
    simp only [Logged.add, average_add]
    exact (h.tookIn span).count n
  lastTick := h.lastTick
  count := by simp [Logged.add, UInt64.toNat_add, h.count]
  balance span := by
    simp only [Logged.add, average_add, Average.uncounted_count, UInt64.toNat_add, count_add,
      ← h.balance span]
    omega

theorem perform (h : l.Accounts start k) (c : Call) :
    (l.perform c).Accounts start (k + c.events.toNat) := by
  rw [Logged.perform_eq]
  split
  · next mean => simpa [Call.events, mean] using h
  · exact (h.catchUp c.now).add c.events

theorem run (h : l.Accounts start k) (calls : List Call) :
    (l.run calls).Accounts start (k + marked calls) := by
  induction calls generalizing l k with
  | nil => exact h
  | cons c calls ih =>
    rw [marked, List.map_cons, List.sum_cons, ← Nat.add_assoc]
    exact ih (h.perform c)

end Accounts

theorem taken_perform (l : Logged) (c : Call) (span : Span) :
    (l.perform c).taken span = l.taken span ∨ ∃ n, (l.perform c).taken span =
      l.taken span ++ (l.meter.average span).uncounted :: List.replicate n 0 := by
  rw [perform_eq]
  split
  · exact .inl rfl
  · simp only [add, catchUp]
    cases l.meter.due c.now with
    | zero => exact .inl (List.append_nil _)
    | succ n => exact .inr ⟨n, by rw [Average.taken_succ]⟩

end Logged

theorem lastTick_le_perform (m : Meter) (c : Call) : m.lastTick ≤ (m.perform c).lastTick := by
  rw [perform_eq]
  split
  · exact UInt64.le_refl _
  · exact UInt64.le_iff_toNat_le.mpr (m.lastTick_le_catchUp c.now)

theorem age_perform_le (m : Meter) {c : Call} (h : c.action ≠ .mean) :
    c.now.since (m.perform c).lastTick ≤ tickInterval := by
  rw [perform_eq, if_neg h, UInt64.le_iff_toNat_le, Nanos.toNat_since]
  exact m.age_catchUp_le c.now

/-- The clock does not go back. -/
def Forward (start : Nanos) (calls : List Call) : Prop :=
  (start :: calls.map Call.now).Pairwise (· ≤ ·)

theorem Forward.le_last {start : Nanos} {calls : List Call} {c : Call}
    (h : Forward start (calls ++ [c])) : start ≤ c.now ∧ ∀ d ∈ calls, d.now ≤ c.now := by
  rw [Forward, List.map_append, ← List.cons_append, List.pairwise_append] at h
  have last : ∀ t ∈ start :: calls.map Call.now, t ≤ c.now := fun t ht => h.2.2 t ht c.now (by simp)
  rw [List.forall_mem_cons] at last
  exact ⟨last.1, fun d hd => last.2 d.now (List.mem_map_of_mem hd)⟩

theorem Forward.lastTick_le {start : Nanos} {calls : List Call} {c : Call}
    (h : Forward start (calls ++ [c])) :
    (((startingAt start).run calls).perform c).lastTick ≤ c.now := by
  obtain ⟨first, others⟩ := h.le_last
  have all : ∀ d ∈ calls ++ [c], d.now ≤ c.now := by
    simpa [or_imp, forall_and] using others
  simp only [UInt64.le_iff_toNat_le] at first all ⊢
  simpa [run] using lastTick_run_le (m := startingAt start) first all

/-- So many whole intervals from `start` to `last` are all there are until `now`, if at most one
more has passed since. -/
theorem intervals_eq {start last now k : Nat} (grid : last = start + k * 5000000000)
    (past : last ≤ now) (near : now - last ≤ 5000000000) :
    k = (now - start) / 5000000000 ∨
      k + 1 = (now - start) / 5000000000 ∧ (now - start) % 5000000000 = 0 := by
  omega

theorem ticks_perform {start : Nanos} {calls : List Call} {c : Call} (h : c.action ≠ .mean)
    (forward : Forward start (calls ++ [c])) :
    let k := (((Logged.startingAt start).run calls).perform c).ticks
    let elapsed := c.now.toNat - start.toNat
    k = elapsed / 5000000000 ∨ k + 1 = elapsed / 5000000000 ∧ elapsed % 5000000000 = 0 := by
  have accounts := ((Logged.Accounts.startingAt start).run calls).perform c
  have near := ((startingAt start).run calls).age_perform_le h
  have past := forward.lastTick_le
  rw [UInt64.le_iff_toNat_le, Nanos.toNat_since] at near
  rw [UInt64.le_iff_toNat_le] at past
  rw [← Logged.meter_run_startingAt] at near past
  exact intervals_eq accounts.lastTick past near

/-- The ticks of a meter are those that are due by the time, but for one that is due just now; none
is dropped or doubled, and nothing that was marked is. -/
theorem accounts_run (start : Nanos) (calls : List Call) (c : Call) :
    let before := (Logged.startingAt start).run calls
    let after := before.perform c
    let elapsed := c.now.toNat - start.toNat
    before.meter = (startingAt start).run calls ∧
    before.Accounts start (marked calls) ∧
    before.meter.lastTick ≤ after.meter.lastTick ∧
    c.now.since before.meter.lastTick % tickInterval ≤ c.now ∧
    (∀ span, after.taken span = before.taken span ∨ ∃ n, after.taken span =
      before.taken span ++ (before.meter.average span).uncounted :: List.replicate n 0) ∧
    (c.action ≠ .mean → c.now.since after.meter.lastTick ≤ tickInterval) ∧
    (c.action ≠ .mean → Forward start (calls ++ [c]) →
      after.ticks = elapsed / 5000000000 ∨
        after.ticks + 1 = elapsed / 5000000000 ∧ elapsed % 5000000000 = 0) := by
  intro before after elapsed
  have accounts := (Logged.Accounts.startingAt start).run calls
  rw [Nat.zero_add] at accounts
  exact ⟨Logged.meter_run_startingAt .., accounts, before.meter.lastTick_le_perform c,
    before.meter.age_mod_le c.now, before.taken_perform c, before.meter.age_perform_le,
    fun ticks forward => ticks_perform ticks forward⟩

def twoReads : List Call := [⟨1000, .mark 7⟩, ⟨7000001000, .rate .oneMinute⟩]

theorem accounts_run_boundary :
    let after := ((Logged.startingAt 1000).run twoReads).perform ⟨10000001000, .snapshot⟩
    Forward 1000 (twoReads ++ [⟨10000001000, .snapshot⟩]) ∧
      (after.ticks = 2 ∨ after.ticks + 1 = 2) := by
  intro after
  have forward : Forward 1000 (twoReads ++ [⟨10000001000, .snapshot⟩]) := by
    simp [Forward, twoReads]
  obtain ⟨-, -, -, -, -, -, ticks⟩ := accounts_run 1000 twoReads ⟨10000001000, .snapshot⟩
  exact ⟨forward, (ticks (by decide) forward).imp id And.left⟩

end Meter

end Telemetry
