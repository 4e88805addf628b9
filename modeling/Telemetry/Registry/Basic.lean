import Telemetry.Metric.Basic
import Telemetry.Name.Basic
import Telemetry.Table

/-!
Registries: metrics under names, and a clock. A metric keeps its identity for good. To remove a name
unbinds it; whoever still knows the metric can go on recording in it, and the name may later be
bound to a new metric, but never again to an old one.
-/

namespace Telemetry

inductive RegistryError
  | kindMismatch (name : MetricName) (registered requested : Kind)
  | gaugeWithoutValue (name : MetricName)
deriving DecidableEq

def RegistryError.message : RegistryError → String
  | .kindMismatch name registered requested =>
    "metric " ++ name.text ++ " is already registered as " ++ registered.text ++ ", not " ++
      requested.text
  | .gaugeWithoutValue name =>
    "gauge " ++ name.text ++ " can only be registered with a value supplier"

/-- Why something cannot be measured. -/
inductive MeasureError
  | invalidName (cause : NameError)
  | registry (cause : RegistryError)
deriving DecidableEq

def MeasureError.message : MeasureError → String
  | .invalidName e => "invalid metric name: " ++ e.message
  | .registry e => e.message

structure Registry where
  clock : Clock
  /-- All metrics that there ever were. -/
  metrics : Array Metric
  names : Table MetricName MetricId
  /-- Why measurements were left out, the latest last. -/
  skipped : Array MeasureError
  bound : ∀ id ∈ names.values, id < metrics.size
  distinct : names.values.Nodup

namespace Registry

def withClock (c : Clock) : Registry := ⟨c, #[], .empty, #[],
  by simp [Table.empty, Table.values], by simp [Table.empty, Table.values]⟩

instance : Inhabited Registry := ⟨withClock (.startingAt 0)⟩

def now (r : Registry) : Nanos := r.clock.now

def size (r : Registry) : Nat := r.names.size

def isEmpty (r : Registry) : Bool := r.names.entries.isEmpty

def id? (r : Registry) (name : MetricName) : Option MetricId := r.names.find? name

def metric? (r : Registry) (id : MetricId) : Option Metric := r.metrics[id]?

def kind? (r : Registry) (id : MetricId) : Option Kind := (r.metric? id).map Metric.kind

def get? (r : Registry) (name : MetricName) : Option Metric := (r.id? name).bind r.metric?

/-- All names in order, a name before those below it. -/
def nameList (r : Registry) : List MetricName := r.names.keys

/-- The name `base`, if it is bound, and the names below it. -/
def namesFrom (r : Registry) (base : MetricName) : List MetricName :=
  r.nameList.filter (·.startsWith base)

/-- What gauges read of a metric. -/
def parts (r : Registry) (id : MetricId) : MetricParts := (r.metric? id).elim .none Metric.parts

/-- The count of a counter. -/
def counterValue (r : Registry) (id : MetricId) : Int64 := (r.parts id).count

/-- Moves the clock, and nothing else. -/
def withTime (r : Registry) (move : Clock → Clock) : Registry := { r with clock := move r.clock }

def modify (r : Registry) (id : MetricId) (f : Metric → Metric) : Registry :=
  { r with
    metrics := r.metrics.modify id f
    bound := by simpa using r.bound }

/-- Records an event in a metric, under whatever name it may be. -/
def record (r : Registry) (id : MetricId) (e : Event) : Registry :=
  r.modify id (Metric.record r.now e)

/-- Records one event after another. -/
def recordAll (r : Registry) (es : List (MetricId × Event)) : Registry :=
  es.foldl (fun r e => r.record e.1 e.2) r

def startTimer (r : Registry) : TimerContext := ⟨r.now⟩

/-- Ends a measurement: records in a timer how long it took. -/
def stopTimer (r : Registry) (id : MetricId) (c : TimerContext) : Nanos × Registry :=
  let elapsed := c.elapsed r.now
  (elapsed, r.record id (.duration elapsed))

/-- Runs something, and records in a timer how long it took. -/
def time {α : Type} (r : Registry) (id : MetricId) (f : Registry → α × Registry) : α × Registry :=
  let c := r.startTimer
  let (a, r) := f r
  (a, (r.stopTimer id c).2)

/-- The identity that the next new metric gets. -/
def fresh (r : Registry) : MetricId := r.metrics.size

/-- Binds a name to a new metric. -/
def insert (r : Registry) (name : MetricName) (m : Metric) : Registry :=
  { r with
    metrics := r.metrics.push m
    names := r.names.insert name r.fresh
    bound := fun id h => by
      rcases Table.mem_values_insert h with rfl | h
      · simp [fresh]
      · simpa using Nat.lt_succ_of_lt (r.bound id h)
    distinct := Table.nodup_values_insert (fun h => Nat.lt_irrefl _ (r.bound _ h)) r.distinct }

/--
The metric that has the name, if it is of the right kind, or a new one if there is none. A failure
changes nothing.
-/
def obtain (r : Registry) (name : MetricName) (kind : Kind) (new? : Option Metric) :
    Except RegistryError MetricId × Registry :=
  match r.id? name, r.get? name with
  | some id, some m =>
    if m.kind = kind then (.ok id, r) else (.error (.kindMismatch name m.kind kind), r)
  | _, _ =>
    match new? with
    | none => (.error (.gaugeWithoutValue name), r)
    | some m => (.ok r.fresh, r.insert name m)

def getOrCreate (r : Registry) (name : MetricName) (kind : Kind) :
    Except RegistryError MetricId × Registry :=
  r.obtain name kind (Metric.new? kind r.now)

/-- Looks once more at the kind of a metric before it is handed out as one of that kind. -/
def narrow (r : Registry) (name : MetricName) (kind : Kind) (id : MetricId) :
    Except RegistryError MetricId :=
  match r.kind? id with
  | some registered =>
    if registered = kind then .ok id else .error (.kindMismatch name registered kind)
  | none => .ok id

/-- What those ask for who can only use metrics of one kind. -/
def typed (r : Registry) (name : MetricName) (kind : Kind) :
    Except RegistryError MetricId × Registry :=
  let (result, r) := r.getOrCreate name kind
  (result.bind (r.narrow name kind), r)

/-- A gauge that is already there stays as it is. -/
def getOrAddGauge (r : Registry) (name : MetricName) (g : Gauge) :
    Except RegistryError MetricId × Registry :=
  let (result, r) := r.obtain name .gauge (some (.gauge g))
  (result.bind (r.narrow name .gauge), r)

/-- Notes that something is not measured. -/
def skip (r : Registry) (e : MeasureError) : Registry := { r with skipped := r.skipped.push e }

/-- Unbinds all names but those that satisfy `p`. -/
def keep (r : Registry) (p : MetricName → Bool) : Registry :=
  { r with
    names := r.names.filterKeys p
    bound := fun id h => r.bound id ((r.names.values_filterKeys_sublist p).subset h)
    distinct := r.distinct.sublist (r.names.values_filterKeys_sublist p) }

/-- Removes a name and those below it, and tells how many there were. -/
def remove (r : Registry) (base : MetricName) : Nat × Registry :=
  let r' := r.keep (fun n => !n.startsWith base)
  (r.size - r'.size, r')

def clear (r : Registry) : Registry := r.keep fun _ => false

end Registry

/-- Steps that build something out of metrics of a registry and stop at the first failure. -/
abbrev Setup := ExceptT MeasureError (StateM Registry)

namespace Setup

/-- The name of a path below `base`. -/
def name (base : MetricName) (path : String) : Setup MetricName := fun r =>
  ((compose base path).mapError .invalidName, r)

def metric (base : MetricName) (path : String) (kind : Kind) : Setup MetricId := do
  let name ← name base path
  fun r =>
    let (result, r) := r.typed name kind
    (result.mapError .registry, r)

def gauge (base : MetricName) (path : String) (g : Gauge) : Setup MetricId := do
  let name ← name base path
  fun r =>
    let (result, r) := r.getOrAddGauge name g
    (result.mapError .registry, r)

def record (id : MetricId) (e : Event) : Setup Unit := modify (·.record id e)

end Setup

end Telemetry
