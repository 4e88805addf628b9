import Telemetry.Proofs.Table
import Telemetry.Registry.Snapshot

/-!
Which metric a name has and of which kind a metric is, before and after each operation of a
registry. `obtain_cases` lists all that asking for a metric can come to; callers need not unfold it.
-/

namespace Telemetry.Registry

variable {r : Registry} {name : MetricName} {id : MetricId} {kind : Kind}

theorem id_lt (h : r.id? name = some id) : id < r.fresh :=
  r.bound id (Table.mem_values_of_find? h)

theorem name_unique {other : MetricName} (h : r.id? name = some id) (h' : r.id? other = some id) :
    other = name :=
  Table.key_eq_of_find? r.distinct h' h

theorem kind?_isSome_iff : (r.kind? id).isSome ↔ id < r.fresh := by
  simp [kind?, metric?, fresh]

theorem exists_kind (h : r.id? name = some id) : ∃ kind, r.kind? id = some kind :=
  Option.isSome_iff_exists.mp (kind?_isSome_iff.mpr (id_lt h))

theorem mem_nameList : name ∈ r.nameList ↔ (r.id? name).isSome := Table.isSome_find?_iff.symm

@[simp] theorem id?_withClock (c : Clock) (name : MetricName) : (withClock c).id? name = none := rfl

@[simp] theorem skipped_withClock (c : Clock) : (withClock c).skipped = #[] := rfl

/-! ### Changes to metrics -/

@[simp] theorem id?_modify (r : Registry) (id : MetricId) (f : Metric → Metric)
    (name : MetricName) : (r.modify id f).id? name = r.id? name := rfl

@[simp] theorem fresh_modify (r : Registry) (id : MetricId) (f : Metric → Metric) :
    (r.modify id f).fresh = r.fresh := Array.size_modify

theorem metric?_modify (r : Registry) (id other : MetricId) (f : Metric → Metric) :
    (r.modify id f).metric? other = if id = other then (r.metric? other).map f
      else r.metric? other := by
  simp only [metric?, modify, Array.getElem?_modify]

theorem kind?_modify {f : Metric → Metric} (hf : ∀ m, (f m).kind = m.kind) (r : Registry)
    (id other : MetricId) : (r.modify id f).kind? other = r.kind? other := by
  simp only [kind?, metric?_modify]
  split
  · simp [Function.comp_def, hf]
  · rfl

@[simp] theorem kind?_record (r : Registry) (id other : MetricId) (e : Event) :
    (r.record id e).kind? other = r.kind? other :=
  kind?_modify (Metric.kind_record r.now e) r id other

@[simp] theorem id?_record (r : Registry) (id : MetricId) (e : Event) (name : MetricName) :
    (r.record id e).id? name = r.id? name := rfl

@[simp] theorem fresh_record (r : Registry) (id : MetricId) (e : Event) :
    (r.record id e).fresh = r.fresh := fresh_modify r id _

/-- What is timed is recorded when it has done all that it does itself, and in no other metric. -/
theorem metric?_time {α : Type} (r : Registry) (id other : MetricId) (f : Registry → α × Registry) :
    (r.time id f).2.metric? other =
      if id = other then
        ((f r).2.metric? other).map
          (Metric.record (f r).2.now (.duration ((f r).2.now.since r.now)))
      else (f r).2.metric? other :=
  metric?_modify ..

@[simp] theorem kind?_catchUp (r : Registry) (id other : MetricId) :
    (r.catchUp id).kind? other = r.kind? other :=
  kind?_modify (Metric.kind_catchUp r.now) r id other

@[simp] theorem id?_catchUp (r : Registry) (id : MetricId) (name : MetricName) :
    (r.catchUp id).id? name = r.id? name := rfl

@[simp] theorem fresh_catchUp (r : Registry) (id : MetricId) :
    (r.catchUp id).fresh = r.fresh := fresh_modify r id _

/-! ### Changes to names -/

@[simp] theorem id?_insert_self (r : Registry) (name : MetricName) (m : Metric) :
    (r.insert name m).id? name = some r.fresh := Table.find?_insert_self ..

theorem id?_insert_of_ne (r : Registry) {name other : MetricName} (m : Metric)
    (h : other ≠ name) : (r.insert name m).id? other = r.id? other :=
  Table.find?_insert_of_ne r.names _ h

@[simp] theorem fresh_insert (r : Registry) (name : MetricName) (m : Metric) :
    (r.insert name m).fresh = r.fresh + 1 := Array.size_push ..

theorem metric?_insert_of_lt (r : Registry) (name : MetricName) (m : Metric)
    (h : id < r.fresh) : (r.insert name m).metric? id = r.metric? id := by
  simp only [metric?, insert, Array.getElem?_push]
  exact if_neg (Nat.ne_of_lt h)

theorem kind?_insert_of_lt (r : Registry) (name : MetricName) (m : Metric) (h : id < r.fresh) :
    (r.insert name m).kind? id = r.kind? id := by
  rw [kind?, metric?_insert_of_lt r name m h, kind?]

@[simp] theorem kind?_insert_fresh (r : Registry) (name : MetricName) (m : Metric) :
    (r.insert name m).kind? r.fresh = some m.kind := by
  simp [kind?, metric?, insert, fresh]

theorem id?_keep (r : Registry) (p : MetricName → Bool) (name : MetricName) :
    (r.keep p).id? name = if p name then r.id? name else none :=
  Table.find?_filterKeys r.names p name

@[simp] theorem id?_clear (r : Registry) (name : MetricName) : r.clear.id? name = none :=
  id?_keep r _ name

theorem id?_remove (r : Registry) (base name : MetricName) :
    (r.remove base).2.id? name = if name.startsWith base then none else r.id? name := by
  rw [remove, id?_keep]
  cases name.startsWith base <;> rfl

@[simp] theorem kind?_remove (r : Registry) (base : MetricName) (id : MetricId) :
    (r.remove base).2.kind? id = r.kind? id := rfl

/-! ### Asking for a metric -/

/-- The name has a metric of another kind. -/
def Refuses (r : Registry) (name : MetricName) (kind : Kind) : Prop :=
  ∃ id registered, r.id? name = some id ∧ r.kind? id = some registered ∧ registered ≠ kind

theorem obtain_of_bound {new? : Option Metric} {registered : Kind} (h : r.id? name = some id)
    (hk : r.kind? id = some registered) :
    r.obtain name kind new? = if registered = kind then (.ok id, r)
      else (.error (.kindMismatch name registered kind), r) := by
  obtain ⟨m, hm, rfl⟩ := Option.map_eq_some_iff.mp hk
  simp [obtain, get?, h, hm]

theorem obtain_of_unbound {new? : Option Metric} (h : r.id? name = none) :
    r.obtain name kind new? = match new? with
      | none => (.error (.gaugeWithoutValue name), r)
      | some m => (.ok r.fresh, r.insert name m) := by
  cases new? <;> simp [obtain, get?, h]

/-- All that can come of asking for a metric. -/
theorem obtain_cases (r : Registry) (name : MetricName) (kind : Kind) (new? : Option Metric) :
    (∃ id, r.id? name = some id ∧ r.kind? id = some kind ∧
      r.obtain name kind new? = (.ok id, r)) ∨
    (∃ id registered, r.id? name = some id ∧ r.kind? id = some registered ∧ registered ≠ kind ∧
      r.obtain name kind new? = (.error (.kindMismatch name registered kind), r)) ∨
    (r.id? name = none ∧ new? = none ∧
      r.obtain name kind new? = (.error (.gaugeWithoutValue name), r)) ∨
    (∃ m, r.id? name = none ∧ new? = some m ∧
      r.obtain name kind new? = (.ok r.fresh, r.insert name m)) := by
  cases h : r.id? name with
  | none =>
    rw [obtain_of_unbound h]
    cases new? with
    | none => exact .inr (.inr (.inl ⟨rfl, rfl, rfl⟩))
    | some m => exact .inr (.inr (.inr ⟨m, rfl, rfl, rfl⟩))
  | some id =>
    obtain ⟨registered, hk⟩ := exists_kind h
    rw [obtain_of_bound h hk]
    by_cases same : registered = kind
    · exact .inl ⟨id, rfl, same ▸ hk, if_pos same⟩
    · exact .inr (.inl ⟨id, registered, rfl, hk, same, if_neg same⟩)

/-- At most one name is bound, and only if it was free. -/
theorem obtain_snd_cases (r : Registry) (name : MetricName) (kind : Kind) (new? : Option Metric) :
    (r.obtain name kind new?).2 = r ∨
      ∃ m ∈ new?, r.id? name = none ∧ (r.obtain name kind new?).2 = r.insert name m := by
  rcases r.obtain_cases name kind new? with ⟨_, -, -, ho⟩ | ⟨_, _, -, -, -, ho⟩ | ⟨-, -, ho⟩ |
    ⟨m, free, hm, ho⟩ <;> rw [ho]
  · exact .inl rfl
  · exact .inl rfl
  · exact .inl rfl
  · exact .inr ⟨m, hm, free, rfl⟩

theorem obtain_snd_of_error {new? : Option Metric} {e : RegistryError}
    (h : (r.obtain name kind new?).1 = .error e) : (r.obtain name kind new?).2 = r := by
  rcases r.obtain_cases name kind new? with ⟨_, -, -, ho⟩ | ⟨_, _, -, -, -, ho⟩ | ⟨-, -, ho⟩ |
    ⟨_, -, -, ho⟩ <;> rw [ho] at h ⊢
  cases h

theorem kind_of_obtain {new? : Option Metric} {r' : Registry} (hnew : ∀ m ∈ new?, m.kind = kind)
    (h : r.obtain name kind new? = (.ok id, r')) : r'.kind? id = some kind := by
  rcases r.obtain_cases name kind new? with ⟨i, -, hk, ho⟩ | ⟨i, k, -, -, -, ho⟩ | ⟨-, -, ho⟩ |
    ⟨m, -, hm, ho⟩
  · cases ho.symm.trans h
    exact hk
  · cases ho.symm.trans h
  · cases ho.symm.trans h
  · cases ho.symm.trans h
    rw [kind?_insert_fresh, hnew m hm]

theorem narrow_of_kind? (h : r.kind? id = some kind) : r.narrow name kind id = .ok id := by
  simp [narrow, h]

theorem kind_of_mem_new? {now : Nanos} {m : Metric} (h : m ∈ Metric.new? kind now) :
    m.kind = kind :=
  Metric.kind_of_new? h

theorem kind_of_mem_gauge {g : Gauge} {m : Metric} (h : m ∈ some (Metric.gauge g)) :
    m.kind = .gauge := by
  cases h
  rfl

/-- The second look at the kind of a metric never finds anything. -/
theorem narrow_obtain {new? : Option Metric} (hnew : ∀ m ∈ new?, m.kind = kind) :
    ((r.obtain name kind new?).1.bind ((r.obtain name kind new?).2.narrow name kind),
      (r.obtain name kind new?).2) = r.obtain name kind new? := by
  cases h : r.obtain name kind new? with
  | mk result r' =>
    cases result with
    | error e => rfl
    | ok id => exact congrArg (·, r') (narrow_of_kind? (kind_of_obtain hnew h))

theorem typed_eq (r : Registry) (name : MetricName) (kind : Kind) :
    r.typed name kind = r.getOrCreate name kind :=
  narrow_obtain fun _ => kind_of_mem_new?

theorem getOrAddGauge_eq (r : Registry) (name : MetricName) (g : Gauge) :
    r.getOrAddGauge name g = r.obtain name .gauge (some (.gauge g)) :=
  narrow_obtain fun _ => kind_of_mem_gauge

end Telemetry.Registry
