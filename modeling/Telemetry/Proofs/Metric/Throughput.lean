import Telemetry.Metric.Basic
import Telemetry.Proofs.Metric.OneSecond

/-!
Meters and timers with their rates of the last second, on a clock that does not go back. Only marks
matter to such a rate, so a run is told by the marks in it.
-/

namespace Telemetry

open OneSecond OneSecondCounter

namespace Metric

/-- The number of events that a metric with a rate of the last second takes `e` for. -/
def marked? : Metric → Event → Option UInt64
  | .throughputMeter _, .mark n => some n
  | .throughputTimer _, .duration _ => some 1
  | _, _ => none

def lastSecond? : Metric → Option OneSecondCounter
  | .throughputMeter m => some m.lastSecond
  | .throughputTimer t => some t.lastSecond
  | _ => none

def oneSecondRate? (now : Nanos) : Metric → Option UInt32
  | .throughputMeter m => some (m.oneSecondRate now)
  | .throughputTimer t => some (t.oneSecondRate now)
  | _ => none

theorem oneSecondRate?_eq (now : Nanos) (m : Metric) :
    m.oneSecondRate? now = m.lastSecond?.map (·.rate now.seconds) := by
  cases m <;> rfl

theorem lastSecond?_record (now : Nanos) (e : Event) (m : Metric) :
    (m.record now e).lastSecond? =
      m.lastSecond?.map (·.markAll ((m.marked? e).map (now.seconds, ·)).toList) := by
  cases m <;> cases e <;> rfl

@[simp] theorem lastSecond?_catchUp (now : Nanos) (m : Metric) :
    (m.catchUp now).lastSecond? = m.lastSecond? := by
  cases m <;> rfl

end Metric

structure Clocked where
  clock : Clock
  metric : Metric

namespace Clocked

inductive Step
  | record (e : Event)
  | read
  | advance (d : Nanos)

def step (c : Clocked) : Step → Clocked
  | .record e => { c with metric := c.metric.record c.clock.now e }
  | .read => { c with metric := c.metric.catchUp c.clock.now }
  | .advance d => { c with clock := c.clock.advance d }

def run (c : Clocked) (steps : List Step) : Clocked := steps.foldl step c

def mark? (c : Clocked) : Step → Option (UInt64 × UInt64)
  | .record e => (c.metric.marked? e).map (c.clock.seconds, ·)
  | _ => none

def marks (c : Clocked) : List Step → List (UInt64 × UInt64)
  | [] => []
  | s :: steps => (c.mark? s).toList ++ marks (c.step s) steps

/-- The clock does not wrap around. -/
def Forward (c : Clocked) : List Step → Prop
  | [] => True
  | .advance d :: steps =>
    c.clock.now.toNat + d.toNat < 2 ^ 64 ∧ Forward (c.step (.advance d)) steps
  | s :: steps => Forward (c.step s) steps

variable {c : Clocked} {s : Step} {steps : List Step}

theorem lastSecond?_step (c : Clocked) (s : Step) :
    (c.step s).metric.lastSecond? = c.metric.lastSecond?.map (·.markAll (c.mark? s).toList) := by
  cases s with
  | record e => exact Metric.lastSecond?_record c.clock.now e c.metric
  | read => simp [step, mark?, markAll]
  | advance d => simp [step, mark?, markAll]

theorem lastSecond?_run (c : Clocked) (steps : List Step) :
    (c.run steps).metric.lastSecond? = c.metric.lastSecond?.map (·.markAll (c.marks steps)) := by
  induction steps generalizing c with
  | nil => simp [run, marks, markAll]
  | cons s steps ih =>
    have rest := ih (c.step s)
    rw [lastSecond?_step, Option.map_map] at rest
    simpa [run, marks, markAll, Function.comp_def] using rest

theorem toNat_seconds (c : Clock) : c.seconds.toNat = c.now.toNat / 1000000000 :=
  UInt64.toNat_div ..

theorem forward_cons (h : c.Forward (s :: steps)) :
    c.clock.seconds.toNat ≤ (c.step s).clock.seconds.toNat ∧ (c.step s).Forward steps := by
  cases s with
  | record e => exact ⟨Nat.le_refl _, h⟩
  | read => exact ⟨Nat.le_refl _, h⟩
  | advance d =>
    refine ⟨?_, h.2⟩
    have moved : (c.step (.advance d)).clock.now.toNat = c.clock.now.toNat + d.toNat := by
      change (c.clock.now + d).toNat = _
      rw [UInt64.toNat_add, Nat.mod_eq_of_lt h.1]
    rw [toNat_seconds, toNat_seconds, moved]
    exact Nat.div_le_div_right (Nat.le_add_right ..)

theorem seconds_le_run (h : c.Forward steps) :
    c.clock.seconds.toNat ≤ (c.run steps).clock.seconds.toNat := by
  induction steps generalizing c with
  | nil => exact Nat.le_refl _
  | cons s steps ih =>
    obtain ⟨first, rest⟩ := forward_cons h
    exact Nat.le_trans first (ih rest)

theorem second_of_mark? {m : UInt64 × UInt64} (h : m ∈ c.mark? s) : m.1 = c.clock.seconds := by
  cases s with
  | record e =>
    obtain ⟨n, -, rfl⟩ := Option.map_eq_some_iff.mp h
    rfl
  | read => cases h
  | advance d => cases h

theorem marks_in_order (h : c.Forward steps) :
    (∀ m ∈ c.marks steps, c.clock.seconds.toNat ≤ m.1.toNat ∧
      m.1.toNat ≤ (c.run steps).clock.seconds.toNat) ∧
    (c.marks steps).Pairwise (fun m m' => m.1.toNat ≤ m'.1.toNat) := by
  induction steps generalizing c with
  | nil => exact ⟨fun _ hm => (by cases hm), .nil⟩
  | cons s steps ih =>
    obtain ⟨first, rest⟩ := forward_cons h
    obtain ⟨within, sorted⟩ := ih rest
    have own {m : UInt64 × UInt64} (hm : m ∈ (c.mark? s).toList) :
        m.1.toNat = c.clock.seconds.toNat :=
      congrArg UInt64.toNat (second_of_mark? (Option.mem_toList.mp hm))
    refine ⟨fun m hm => ?_, List.pairwise_append.mpr ⟨?_, sorted, fun m hm m' hm' => ?_⟩⟩
    · rcases List.mem_append.mp hm with hm | hm
      · rw [own hm]
        exact ⟨Nat.le_refl _, seconds_le_run h⟩
      · exact ⟨Nat.le_trans first (within m hm).1, (within m hm).2⟩
    · cases c.mark? s <;> simp
    · exact own hm ▸ Nat.le_trans first (within m' hm').1

/-- The rate of the last second counts what was marked in it by the low bits of the seconds, and so
all that was marked in it, unless an event of another range of low bits looks as late. -/
theorem oneSecondRate_run (start : Nanos) (steps : List Step) (m : Metric)
    (new : m = .throughputMeter (.startingAt start) ∨ m = .throughputTimer (.startingAt start))
    (forward : (Clocked.mk (.startingAt start) m).Forward steps) :
    let c := (Clocked.mk (.startingAt start) m).run steps
    let marks := ((Clocked.mk (.startingAt start) m).marks steps).map toNats
    let now := c.clock.seconds.toNat
    ∃ rate, c.metric.oneSecondRate? c.clock.now = some rate ∧
      rate.toNat = rateAfter (marks.map low) (now % 2 ^ 32) ∧
      ((∀ m ∈ marks, Apart now m) → rate.toNat = min cap (eventsBefore now marks)) := by
  intro c marks now
  have zero : m.lastSecond? = some .zero := by
    rcases new with rfl | rfl <;> rfl
  have counted := lastSecond?_run (Clocked.mk (.startingAt start) m) steps
  rw [zero, Option.map_some] at counted
  have law := rate_markAll_low ((Clocked.mk (.startingAt start) m).marks steps) c.clock.seconds
  refine ⟨_, ?_, law, fun apart => ?_⟩
  · rw [Metric.oneSecondRate?_eq, counted]
    rfl
  · obtain ⟨within, sorted⟩ := marks_in_order forward
    rw [law]
    refine rateAfter_low (List.pairwise_map.mpr sorted) (fun _ hn => ?_) apart
    obtain ⟨m, hm, rfl⟩ := List.mem_map.mp hn
    exact (within m hm).2

def lateTimer : Clocked :=
  ⟨.startingAt 9000000000500000000, .throughputTimer (.startingAt 9000000000500000000)⟩

def twoUpdates : List Step :=
  [.record (.duration 3), .record (.duration 4), .advance 600000000, .read]

theorem oneSecondRate_lateTimer :
    lateTimer.Forward twoUpdates ∧
      ∃ rate, (lateTimer.run twoUpdates).metric.oneSecondRate?
        (lateTimer.run twoUpdates).clock.now = some rate ∧ rate.toNat = 2 := by
  have forward : lateTimer.Forward twoUpdates := ⟨by decide, trivial⟩
  have made : (lateTimer.marks twoUpdates).map toNats = [(9000000000, 1), (9000000000, 1)] := by
    decide
  have now : (lateTimer.run twoUpdates).clock.seconds.toNat = 9000000001 := by decide
  obtain ⟨rate, shown, -, counted⟩ := oneSecondRate_run 9000000000500000000 twoUpdates
    (.throughputTimer (.startingAt 9000000000500000000)) (.inr rfl) forward
  change (∀ m ∈ (lateTimer.marks twoUpdates).map toNats,
    Apart (lateTimer.run twoUpdates).clock.seconds.toNat m) → _ at counted
  refine ⟨forward, rate, shown, (counted ?_).trans ?_⟩
  · rw [made, now]
    exact List.forall_mem_cons.mpr ⟨.inl rfl, List.forall_mem_singleton.mpr (.inl rfl)⟩
  · change min cap (eventsBefore (lateTimer.run twoUpdates).clock.seconds.toNat
      ((lateTimer.marks twoUpdates).map toNats)) = 2
    rw [made, now]
    decide

/-- An event in the last second that 32 bits hold is not shown in the next one. -/
theorem oneSecondRate_end_of_range :
    let c := Clocked.mk (.startingAt 4294967295000000000)
      (.throughputMeter (.startingAt 4294967295000000000))
    let steps : List Step := [.record (.mark 1), .advance 1000000000]
    c.Forward steps ∧ (c.run steps).metric.oneSecondRate? (c.run steps).clock.now = some 0 ∧
      eventsBefore (c.run steps).clock.seconds.toNat ((c.marks steps).map toNats) = 1 := by
  refine ⟨⟨by decide, trivial⟩, ?_, ?_⟩
  · decide
  · decide

end Clocked

end Telemetry
