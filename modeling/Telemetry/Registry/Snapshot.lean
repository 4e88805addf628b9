import Telemetry.Registry.Basic

/-!
Snapshots of a registry: what the metrics under a name show, each by its own name. To look at a
metric makes it catch up, but changes nothing that another look could tell.
-/

namespace Telemetry.Registry

/-- Brings a metric up to date for a reading. -/
def catchUp (r : Registry) (id : MetricId) : Registry := r.modify id (Metric.catchUp r.now)

/-- What a metric shows that has caught up. -/
def show? (r : Registry) (id : MetricId) : Option Snapshot :=
  (r.metric? id).map (Metric.snapshot r.parts r.now)

/-- The snapshot of one metric. -/
def read (r : Registry) (id : MetricId) : Option Snapshot × Registry :=
  let r := r.catchUp id
  (r.show? id, r)

/-- The snapshots of metrics that are read one after another. -/
def readEach (r : Registry) : List (MetricName × MetricId) → List (MetricName × Snapshot) × Registry
  | [] => ([], r)
  | (name, id) :: es =>
    let (s, r) := r.read id
    let (rest, r) := r.readEach es
    ((s.map (name, ·)).toList ++ rest, r)

theorem readEach_snd (r : Registry) (es : List (MetricName × MetricId)) :
    (r.readEach es).2 = es.foldl (fun r e => r.catchUp e.2) r := by
  induction es generalizing r with
  | nil => rfl
  | cons e es ih => exact ih (r.catchUp e.2)

/-- Snapshots of the metrics whose names satisfy `p`, under the text that `key` gives. -/
def readAll (r : Registry) (p : MetricName → Bool) (key : MetricName → String) :
    Table String Snapshot × Registry :=
  let (shown, r) := r.readEach (r.names.filterKeys p).entries
  (.ofList (shown.map fun e => (key e.1, e.2)), r)

/--
Snapshots of `base` and of what lies below it. Names are relative to `base`, except that `base`
itself has its full name.
-/
def readFrom (r : Registry) (base : MetricName) : Table String Snapshot × Registry :=
  r.readAll (·.startsWith base) fun n => (n.relativeTo? base).getD n.text

/-- Snapshots of all metrics under their full names. -/
def readEverything (r : Registry) : Table String Snapshot × Registry :=
  r.readAll (fun _ => true) MetricName.text

end Telemetry.Registry
