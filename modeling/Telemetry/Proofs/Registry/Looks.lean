import Telemetry.Proofs.Metric.Count
import Telemetry.Proofs.Metric.Throughput
import Telemetry.Proofs.Registry.Snapshot
import Telemetry.Registry.Service

/-!
Looks at a registry while its clock stands still. A look makes metrics catch up, each once and for
all: two registries that are the same once everything has caught up answer alike, and no look leads
from one to another that is not the same in this sense.
-/

namespace Telemetry

namespace Metric

@[simp] theorem count_catchUp (now : Nanos) (m : Metric) : (m.catchUp now).count = m.count := by
  cases m with
  | gauge => rfl
  | counter => rfl
  | histogram s =>
    have kept := s.count_drain
    simp only [Sampler.count] at kept
    simp only [catchUp, count]
    omega
  | meter m => simp [catchUp, count]
  | throughputMeter m => simp [catchUp, count, ThroughputMeter.catchUp, ThroughputMeter.count]
  | timer t => simp [catchUp, count, Timer.catchUp, Timer.count]
  | throughputTimer t =>
    simp [catchUp, count, ThroughputTimer.catchUp, ThroughputTimer.count, Timer.catchUp, Timer.count]

/-- The mean rate of a meter. Nothing has to catch up for it. -/
def meanRate? (now : Nanos) : Metric → Option Float
  | .meter m => some (m.meanRate now)
  | _ => none

/-- A moving average of a meter, and the meter that has caught up for it. -/
def readRate (now : Nanos) (span : Span) : Metric → Option Float × Metric
  | .meter m => (some (m.rate now span).1, .meter (m.rate now span).2)
  | m => (none, m)

theorem catchUp_readRate (now : Nanos) (span : Span) (m : Metric) :
    (m.readRate now span).2.catchUp now = m.catchUp now := by
  cases m with
  | meter m => exact (Metric.meter m).catchUp_catchUp now
  | _ => rfl

theorem readRate_catchUp (now : Nanos) (span : Span) (m : Metric) :
    ((m.catchUp now).readRate now span).1 = (m.readRate now span).1 := by
  cases m with
  | meter m => simp [catchUp, readRate, Meter.rate]
  | _ => rfl

theorem meanRate?_catchUp (now : Nanos) (m : Metric) :
    (m.catchUp now).meanRate? now = m.meanRate? now := by
  cases m with
  | meter m => simp [catchUp, meanRate?, Meter.meanRate]
  | _ => rfl

theorem oneSecondRate?_catchUp (now : Nanos) (m : Metric) :
    (m.catchUp now).oneSecondRate? now = m.oneSecondRate? now := by
  rw [oneSecondRate?_eq, lastSecond?_catchUp, oneSecondRate?_eq]

end Metric

namespace Registry

/-- Ways to look at a registry. -/
inductive Look
  | metric (id : MetricId)
  | meanRate (id : MetricId)
  | movingRate (id : MetricId) (span : Span)
  | oneSecondRate (id : MetricId)
  | count (id : MetricId)
  | below (base : MetricName)
  | text (base : String)
  | everything

/-- What a look shows. -/
inductive Sight
  | one (s : Option Snapshot)
  | rate (x : Option Float)
  | events (n : Option UInt32)
  | count (n : Option Int)
  | all (t : Table String Snapshot)

def readRate (r : Registry) (id : MetricId) (span : Span) : Option Float × Registry :=
  ((r.metric? id).bind fun m => (m.readRate r.now span).1,
    r.modify id fun m => (m.readRate r.now span).2)

/-- The answer to a look, and the registry that was looked at. -/
def look (r : Registry) : Look → Sight × Registry
  | .metric id => (.one (r.read id).1, (r.read id).2)
  | .meanRate id => (.rate ((r.metric? id).bind (Metric.meanRate? r.now)), r)
  | .movingRate id span => (.rate (r.readRate id span).1, (r.readRate id span).2)
  | .oneSecondRate id => (.events ((r.metric? id).bind (Metric.oneSecondRate? r.now)), r)
  | .count id => (.count ((r.metric? id).map Metric.count), r)
  | .below base => (.all (r.readFrom base).1, (r.readFrom base).2)
  | .text base => (.all (r.readText base).1, (r.readText base).2)
  | .everything => (.all r.readEverything.1, r.readEverything.2)

/-- Looks one after another. -/
def lookAll (r : Registry) (looks : List Look) : Registry := looks.foldl (fun r l => (r.look l).2) r

/-- The registry when all metrics have caught up. -/
def settled (r : Registry) : Registry :=
  { r with
    metrics := r.metrics.map (Metric.catchUp r.now)
    bound := by simpa using r.bound }

theorem metric?_settled (r : Registry) (id : MetricId) :
    r.settled.metric? id = (r.metric? id).map (Metric.catchUp r.now) := by
  rw [metric?, settled, Array.getElem?_map, metric?]

theorem caughtUp_parts_settled (r : Registry) (id : MetricId) :
    (r.settled.parts id).catchUp r.now = (r.parts id).catchUp r.now := by
  rw [parts, parts, metric?_settled]
  cases r.metric? id with
  | none => rfl
  | some m => simp [Metric.parts_catchUp]

theorem settled_modify (r : Registry) (id : MetricId) {f : Metric → Metric}
    (h : ∀ m, (f m).catchUp r.now = m.catchUp r.now) : (r.modify id f).settled = r.settled := by
  have metrics : (r.metrics.modify id f).map (Metric.catchUp r.now) =
      r.metrics.map (Metric.catchUp r.now) := by
    apply Array.ext_getElem?
    intro i
    rw [Array.getElem?_map, Array.getElem?_map, Array.getElem?_modify]
    split
    · rw [Option.map_map]
      exact congrArg (Option.map · r.metrics[i]?) (funext h)
    · rfl
  simp only [settled, modify, mk.injEq, true_and, and_true]
  exact metrics

theorem settled_catchUp (r : Registry) (id : MetricId) : (r.catchUp id).settled = r.settled :=
  r.settled_modify id (Metric.catchUp_catchUp r.now)

theorem settled_catchUpAll (r : Registry) (ids : List MetricId) :
    (r.catchUpAll ids).settled = r.settled := by
  induction ids generalizing r with
  | nil => rfl
  | cons id ids ih => exact (ih (r.catchUp id)).trans (r.settled_catchUp id)

/-! ### Sights -/

theorem read_settled (r : Registry) (id : MetricId) : (r.settled.read id).1 = (r.read id).1 := by
  have same (m : Metric) : m.snapshot r.settled.parts r.now = m.snapshot r.parts r.now :=
    m.snapshot_congr r.caughtUp_parts_settled
  have now : r.settled.now = r.now := rfl
  rw [read_fst, read_fst, now, metric?_settled, Option.map_map]
  refine congrArg (Option.map · (r.metric? id)) (funext fun m => ?_)
  exact (same _).trans (congrArg (·.snapshot r.parts r.now) (m.catchUp_catchUp r.now))

theorem readAll_settled (r : Registry) (p : MetricName → Bool) (key : MetricName → String) :
    (r.settled.readAll p key).1 = (r.readAll p key).1 := by
  rw [readAll_eq, readAll_eq]
  refine congrArg Table.ofList (List.filterMap_congr fun e _ => ?_)
  rw [read_settled]

theorem settled_readAll (r : Registry) (p : MetricName → Bool) (key : MetricName → String) :
    (r.readAll p key).2.settled = r.settled := by
  rw [readAll_eq, settled_catchUpAll]

theorem bind_settled {α : Type} (r : Registry) (id : MetricId) {f : Metric → Option α}
    (h : ∀ m, f (m.catchUp r.now) = f m) :
    (r.settled.metric? id).bind f = (r.metric? id).bind f := by
  rw [metric?_settled, Option.bind_map]
  exact congrArg (r.metric? id).bind (funext h)

/-- What is answered does not depend on what has caught up. -/
theorem look_settled (r : Registry) (l : Look) : (r.settled.look l).1 = (r.look l).1 := by
  cases l with
  | metric id => exact congrArg Sight.one (r.read_settled id)
  | meanRate id =>
    exact congrArg Sight.rate (r.bind_settled id (Metric.meanRate?_catchUp r.now))
  | movingRate id span =>
    exact congrArg Sight.rate (r.bind_settled id (Metric.readRate_catchUp r.now span))
  | oneSecondRate id =>
    exact congrArg Sight.events (r.bind_settled id (Metric.oneSecondRate?_catchUp r.now))
  | count id =>
    refine congrArg Sight.count ?_
    rw [metric?_settled, Option.map_map]
    exact congrArg (Option.map · (r.metric? id)) (funext (Metric.count_catchUp r.now))
  | below base => exact congrArg Sight.all (r.readAll_settled _ _)
  | text base =>
    refine congrArg Sight.all ?_
    rw [readText, readText]
    split
    · exact r.readAll_settled _ _
    · split
      · exact r.readAll_settled _ _
      · rfl
  | everything => exact congrArg Sight.all (r.readAll_settled _ _)

theorem settled_look (r : Registry) (l : Look) : (r.look l).2.settled = r.settled := by
  cases l with
  | metric id => exact r.settled_catchUp id
  | meanRate | oneSecondRate | count => rfl
  | movingRate id span => exact r.settled_modify id (Metric.catchUp_readRate r.now span)
  | below base => exact r.settled_readAll (·.startsWith base) (shownAs base)
  | text base =>
    change (r.readText base).2.settled = _
    rw [readText]
    split
    · exact r.settled_readAll (fun _ => true) MetricName.text
    · split
      · next n _ => exact r.settled_readAll (·.startsWith n) (shownAs n)
      · rfl
  | everything => exact r.settled_readAll (fun _ => true) MetricName.text

theorem settled_lookAll (r : Registry) (looks : List Look) :
    (r.lookAll looks).settled = r.settled := by
  induction looks generalizing r with
  | nil => rfl
  | cons l looks ih => exact (ih (r.look l).2).trans (r.settled_look l)

theorem look_of_settled_eq {r r' : Registry} (h : r'.settled = r.settled) (l : Look) :
    (r'.look l).1 = (r.look l).1 := by
  rw [← r'.look_settled, h, r.look_settled]

theorem kind?_of_settled_eq {r r' : Registry} (h : r'.settled = r.settled) (id : MetricId) :
    r'.kind? id = r.kind? id := by
  have caught (s : Registry) : s.kind? id = s.settled.kind? id := by
    rw [kind?, kind?, metric?_settled, Option.map_map]
    exact congrArg (Option.map · (s.metric? id)) (funext fun m => (m.kind_catchUp s.now).symm)
  rw [caught, h, ← caught]

/-- While the clock stands still, a look that is taken twice shows the same, and looks of any number
and sort change nothing that any look can show, a count or a rate of the last second among them; nor
do they change which names there are, which metrics these have and of which kinds they are. -/
theorem look_after_looks (r : Registry) (looks : List Look) :
    (∀ l, ((r.look l).2.look l).1 = (r.look l).1) ∧
      (∀ l, ((r.lookAll looks).look l).1 = (r.look l).1) ∧
      (r.lookAll looks).names = r.names ∧ (r.lookAll looks).clock = r.clock ∧
      (r.lookAll looks).fresh = r.fresh ∧
      (∀ id, (r.lookAll looks).kind? id = r.kind? id) := by
  have same := r.settled_lookAll looks
  have names := congrArg Registry.names same
  have clock := congrArg Registry.clock same
  have size := congrArg (·.metrics.size) same
  refine ⟨fun l => look_of_settled_eq (r.settled_look l) l, look_of_settled_eq same, names, clock,
    ?_, kind?_of_settled_eq same⟩
  simpa [settled, fresh] using size

end Registry

end Telemetry
