import Telemetry.Proofs.Component.Schema
import Telemetry.Proofs.Name.Escape
import Telemetry.Proofs.Name.Text

/-!
Metrics that are asked for one after another, up to the first name that has a metric of another
kind. Names that are bound keep their metrics, and of the others exactly those get new ones that come
before that name.
-/

namespace Telemetry

/-- A metric that something cannot do without, by the texts of its nodes below a base. A new one may
refer to those that were asked for earlier. -/
structure Demand where
  path : List String
  kind : Kind
  make : List MetricId → Nanos → Metric
  kind_make : ∀ ids now, (make ids now).kind = kind

namespace Demand

def name (d : Demand) (base : MetricName) : MetricName := base.below d.path

def plain (path : List String) (kind : Kind) (h : kind ≠ .gauge) : Demand where
  path := path
  kind := kind
  make _ now := (Metric.new? kind now).get
    (Option.isSome_iff_ne_none.mpr (mt Metric.new?_eq_none_iff.mp h))
  kind_make _ _ := Metric.kind_of_new? (Option.some_get _).symm

def counter (path : List String) : Demand := plain path .counter (by decide)

def histogram (path : List String) : Demand := plain path .histogram (by decide)

def meter (path : List String) : Demand := plain path .meter (by decide)

def throughputMeter (path : List String) : Demand := plain path .throughputMeter (by decide)

def timer (path : List String) : Demand := plain path .timer (by decide)

def throughputTimer (path : List String) : Demand := plain path .throughputTimer (by decide)

def gauge (path : List String) (g : List MetricId → Gauge) : Demand where
  path := path
  kind := .gauge
  make ids _ := .gauge (g ids)
  kind_make _ _ := rfl

/-- Asks for the metric, where `ids` are those that were asked for earlier. -/
def ask (d : Demand) (base : MetricName) (ids : List MetricId) : Setup MetricId := fun r =>
  ((r.obtain (d.name base) d.kind (some (d.make ids r.now))).1.mapError .registry,
    (r.obtain (d.name base) d.kind (some (d.make ids r.now))).2)

theorem name_injective {base : MetricName} {d e : Demand} (h : d.name base = e.name base) :
    d.path = e.path := by
  have nodes := congrArg MetricName.nodes (MetricName.join_left_cancel h)
  exact List.map_injective_iff.mpr (fun _ _ => Node.escape_injective) nodes

end Demand

namespace Registry

/-- The name has a metric of the kind, and this one. -/
def Holds (r : Registry) (name : MetricName) (kind : Kind) (id : MetricId) : Prop :=
  r.id? name = some id ∧ r.kind? id = some kind

/-- Nothing that was bound in the first registry is bound otherwise in the second one. -/
def Continues (r r' : Registry) : Prop :=
  ∀ name kind id, r.Holds name kind id → r'.Holds name kind id

/-- The second registry is the first one with a new metric for each demand whose name was not bound,
and is otherwise the same. -/
structure Provides (base : MetricName) (ds : List Demand) (r r' : Registry) : Prop where
  clock : r'.clock = r.clock
  skipped : r'.skipped = r.skipped
  metric? : ∀ id < r.fresh, r'.metric? id = r.metric? id
  id? : ∀ name id, r.id? name = some id → r'.id? name = some id
  added : ∀ name, r.id? name = none → ((r'.id? name).isSome ↔ ∃ d ∈ ds, d.name base = name)
  new : ∀ d ∈ ds, r.id? (d.name base) = none → ∃ id earlier, r.fresh ≤ id ∧
    r'.id? (d.name base) = some id ∧ r'.metric? id = some (d.make earlier r.now)

variable {r r' : Registry} {base name : MetricName} {kind : Kind} {id : MetricId} {d : Demand}
  {ds : List Demand}

theorem Holds.not_refuses (h : r.Holds name kind id) : ¬r.Refuses name kind := by
  rintro ⟨id', registered, hid, hk, hne⟩
  cases h.1.symm.trans hid
  exact hne (Option.some.inj (hk.symm.trans h.2))

theorem holds_of_not_refuses (h : ¬r.Refuses name kind) (hid : r.id? name = some id) :
    r.Holds name kind id := by
  obtain ⟨registered, hk⟩ := exists_kind hid
  by_cases same : registered = kind
  · exact ⟨hid, same ▸ hk⟩
  · exact absurd ⟨id, registered, hid, hk, same⟩ h

theorem not_refuses_iff :
    ¬r.Refuses name kind ↔ r.id? name = none ∨ ∃ id, r.Holds name kind id := by
  constructor
  · intro accepted
    cases hid : r.id? name with
    | none => exact .inl rfl
    | some id => exact .inr ⟨id, holds_of_not_refuses accepted hid⟩
  · rintro (free | ⟨id, held⟩)
    · rintro ⟨id, registered, hid, -⟩
      rw [free] at hid
      cases hid
    · exact held.not_refuses

theorem Holds.recordAll (h : r.Holds name kind id) (es : List (MetricId × Event)) :
    (r.recordAll es).Holds name kind id := by
  induction es generalizing r with
  | nil => exact h
  | cons e es ih =>
    refine ih ⟨?_, ?_⟩
    · rw [id?_record]
      exact h.1
    · rw [kind?_record]
      exact h.2

namespace Provides

theorem kind? (h : Provides base ds r r') (hid : id < r.fresh) : r'.kind? id = r.kind? id := by
  rw [Registry.kind?, h.metric? id hid, Registry.kind?]

theorem continues (h : Provides base ds r r') : r.Continues r' := by
  rintro name kind id ⟨hid, hk⟩
  exact ⟨h.id? name id hid, (h.kind? (id_lt hid)).trans hk⟩

theorem refuses (h : Provides base ds r r') (hr : r.Refuses name kind) : r'.Refuses name kind := by
  obtain ⟨id, registered, hid, hk, hne⟩ := hr
  exact ⟨id, registered, h.id? name id hid, (h.kind? (id_lt hid)).trans hk, hne⟩

theorem nil (base : MetricName) (r : Registry) : Provides base [] r r where
  clock := rfl
  skipped := rfl
  metric? _ _ := rfl
  id? _ _ h := h
  added name h := by simp [h]
  new d hd := absurd hd List.not_mem_nil

theorem cons_of_bound (h : Provides base ds r r') (bound : r.id? (d.name base) = some id) :
    Provides base (d :: ds) r r' where
  clock := h.clock
  skipped := h.skipped
  metric? := h.metric?
  id? := h.id?
  added name free := by
    rw [h.added name free, List.exists_mem_cons_iff]
    refine (or_iff_right ?_).symm
    rintro rfl
    rw [bound] at free
    cases free
  new e he free := by
    rcases List.mem_cons.mp he with rfl | he
    · rw [bound] at free
      cases free
    · exact h.new e he free

theorem cons_of_free {earlier : List MetricId} (free : r.id? (d.name base) = none)
    (alone : ∀ e ∈ ds, e.name base ≠ d.name base)
    (h : Provides base ds (r.insert (d.name base) (d.make earlier r.now)) r') :
    Provides base (d :: ds) r r' where
  clock := h.clock
  skipped := h.skipped
  metric? id hid := by
    rw [h.metric? id (by rw [fresh_insert]; exact Nat.lt_succ_of_lt hid)]
    exact metric?_insert_of_lt r _ _ hid
  id? name id hid := by
    refine h.id? name id ?_
    rwa [id?_insert_of_ne]
    rintro rfl
    rw [free] at hid
    cases hid
  added name hn := by
    rw [List.exists_mem_cons_iff]
    by_cases same : d.name base = name
    · subst same
      simp [h.id? _ _ (id?_insert_self r _ _)]
    · rw [h.added name (by rwa [id?_insert_of_ne r _ (Ne.symm same)])]
      exact (or_iff_right same).symm
  new e he hfree := by
    rcases List.mem_cons.mp he with rfl | he
    · refine ⟨r.fresh, earlier, Nat.le_refl _, h.id? _ _ (id?_insert_self r _ _), ?_⟩
      rw [h.metric? r.fresh (by rw [fresh_insert]; exact Nat.lt_succ_self _)]
      simp [Registry.metric?, insert, fresh]
    · have other := alone e he
      obtain ⟨id, earlier', hle, hid, hm⟩ :=
        h.new e he (by rwa [id?_insert_of_ne r _ other])
      rw [fresh_insert] at hle
      exact ⟨id, earlier', Nat.le_of_succ_le hle, hid, hm⟩

end Provides

theorem not_refuses_insert {m : Metric} {n : MetricName} (hne : name ≠ n)
    (h : ¬r.Refuses name kind) : ¬(r.insert n m).Refuses name kind := by
  rintro ⟨id, registered, hid, hk, other⟩
  rw [id?_insert_of_ne r m hne] at hid
  rw [kind?_insert_of_lt r n m (id_lt hid)] at hk
  exact h ⟨id, registered, hid, hk, other⟩

end Registry

namespace Setup

open Registry (Provides)

variable {r s : Registry} {base : MetricName} {d : Demand} {ds : List Demand}
  {ids new : List MetricId} {id : MetricId}

/-- Asks for metrics one after another. -/
def enroll (base : MetricName) : List Demand → List MetricId → Setup (List MetricId)
  | [], ids => pure ids
  | d :: ds, ids => do
    let id ← d.ask base ids
    enroll base ds (ids ++ [id])

theorem enroll_append (base : MetricName) (ds es : List Demand) (ids : List MetricId) :
    enroll base (ds ++ es) ids = enroll base ds ids >>= enroll base es := by
  induction ds generalizing ids with
  | nil => simp [enroll]
  | cons d ds ih => simp [enroll, ih]

theorem run_ask_of_holds (h : r.Holds (d.name base) d.kind id) (ids : List MetricId) :
    (d.ask base ids).run r = (.ok id, r) := by
  change ((r.obtain ..).1.mapError MeasureError.registry, (r.obtain ..).2) = _
  rw [Registry.obtain_of_bound h.1 h.2, if_pos rfl]
  rfl

theorem run_ask_of_free (h : r.id? (d.name base) = none) (ids : List MetricId) :
    (d.ask base ids).run r = (.ok r.fresh, r.insert (d.name base) (d.make ids r.now)) := by
  change ((r.obtain ..).1.mapError MeasureError.registry, (r.obtain ..).2) = _
  rw [Registry.obtain_of_unbound h]
  rfl

theorem run_ask_of_refused {registered : Kind} (hid : r.id? (d.name base) = some id)
    (hk : r.kind? id = some registered) (hne : registered ≠ d.kind) (ids : List MetricId) :
    (d.ask base ids).run r =
      (.error (.registry (.kindMismatch (d.name base) registered d.kind)), r) := by
  change ((r.obtain ..).1.mapError MeasureError.registry, (r.obtain ..).2) = _
  rw [Registry.obtain_of_bound hid hk, if_neg hne]
  rfl

/-- Where all metrics are there, they are what one gets, and nothing changes. -/
theorem run_enroll_of_holds
    (h : List.Forall₂ (fun d id => r.Holds (d.name base) d.kind id) ds new) (ids : List MetricId) :
    (enroll base ds ids).run r = (.ok (ids ++ new), r) := by
  induction h generalizing ids with
  | nil =>
    rw [List.append_nil]
    rfl
  | @cons d id ds new held _ ih =>
    rw [enroll, run_bind, run_ask_of_holds held]
    simpa using ih (ids ++ [id])

theorem run_enroll_of_accepted (distinct : (ds.map Demand.path).Nodup)
    (accepted : ∀ d ∈ ds, ¬r.Refuses (d.name base) d.kind) (ids : List MetricId) :
    ∃ new r', (enroll base ds ids).run r = (.ok (ids ++ new), r') ∧ Provides base ds r r' ∧
      List.Forall₂ (fun d id => r'.Holds (d.name base) d.kind id) ds new := by
  induction ds generalizing r ids with
  | nil => exact ⟨[], r, by rw [List.append_nil]; rfl, .nil base r, .nil⟩
  | cons d ds ih =>
    rw [List.forall_mem_cons] at accepted
    rw [List.map_cons, List.nodup_cons] at distinct
    have alone : ∀ e ∈ ds, e.name base ≠ d.name base := fun e he same =>
      distinct.1 (Demand.name_injective same ▸ List.mem_map_of_mem he)
    rw [enroll, run_bind]
    cases hid : r.id? (d.name base) with
    | some id =>
      have held := Registry.holds_of_not_refuses accepted.1 hid
      rw [run_ask_of_holds held]
      obtain ⟨new, r', hrun, provides, holds⟩ := ih distinct.2 accepted.2 (ids ++ [id])
      refine ⟨id :: new, r', ?_, provides.cons_of_bound hid, .cons ?_ holds⟩
      · simpa using hrun
      · exact provides.continues _ _ _ held
    | none =>
      rw [run_ask_of_free hid]
      have rest : ∀ e ∈ ds, ¬(r.insert (d.name base) (d.make ids r.now)).Refuses
          (e.name base) e.kind := fun e he =>
        Registry.not_refuses_insert (alone e he) (accepted.2 e he)
      obtain ⟨new, r', hrun, provides, holds⟩ := ih distinct.2 rest (ids ++ [r.fresh])
      refine ⟨r.fresh :: new, r', ?_, provides.cons_of_free hid alone, .cons ?_ holds⟩
      · simpa using hrun
      · refine provides.continues _ _ _ ⟨Registry.id?_insert_self r _ _, ?_⟩
        rw [Registry.kind?_insert_fresh, d.kind_make]

/-- The first name with a metric of another kind ends it, after all demands before it. -/
theorem run_enroll_of_refused {before : List Demand} {registered : Kind} (after : List Demand)
    (distinct : (before.map Demand.path).Nodup)
    (accepted : ∀ d ∈ before, ¬r.Refuses (d.name base) d.kind)
    (hid : r.id? (d.name base) = some id) (hk : r.kind? id = some registered)
    (hne : registered ≠ d.kind) (ids : List MetricId) :
    ∃ r', (enroll base (before ++ d :: after) ids).run r =
        (.error (.registry (.kindMismatch (d.name base) registered d.kind)), r') ∧
      Provides base before r r' := by
  obtain ⟨new, r', hrun, provides, -⟩ := run_enroll_of_accepted distinct accepted ids
  have later := run_ask_of_refused (provides.id? _ _ hid)
    ((provides.kind? (Registry.id_lt hid)).trans hk) hne (ids ++ new)
  refine ⟨r', ?_, provides⟩
  rw [enroll_append, run_bind, hrun]
  change (enroll base (d :: after) (ids ++ new)).run r' = _
  rw [enroll, run_bind, later]

/-- Either nothing is refused or there is a first demand that is. -/
theorem accepted_or_refused (base : MetricName) (r : Registry) (ds : List Demand) :
    (∀ d ∈ ds, ¬r.Refuses (d.name base) d.kind) ∨
      ∃ before d after, ds = before ++ d :: after ∧
        (∀ e ∈ before, ¬r.Refuses (e.name base) e.kind) ∧ r.Refuses (d.name base) d.kind := by
  induction ds with
  | nil => exact .inl fun _ h => absurd h List.not_mem_nil
  | cons d ds ih =>
    by_cases refused : r.Refuses (d.name base) d.kind
    · exact .inr ⟨[], d, ds, rfl, fun _ h => absurd h List.not_mem_nil, refused⟩
    · rcases ih with accepted | ⟨before, e, after, rfl, accepted, hr⟩
      · exact .inl (List.forall_mem_cons.mpr ⟨refused, accepted⟩)
      · exact .inr ⟨d :: before, e, after, rfl, List.forall_mem_cons.mpr ⟨refused, accepted⟩, hr⟩

end Setup

end Telemetry
