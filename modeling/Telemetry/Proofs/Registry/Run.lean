import Telemetry.Proofs.Registry.Lookup

/-!
Runs of a registry. A name stands for one metric from the operation that creates it to the first one
that removes it, a metric never changes its kind, and a removed name comes back with a metric that
nobody has seen before. A request fails only because of the kind, and then changes nothing.
-/

namespace Telemetry.Registry

inductive Op
  | getOrCreate (name : MetricName) (kind : Kind)
  /-- There is no such operation for gauges, which need something to read. -/
  | typed (name : MetricName) (kind : Kind) (plain : kind ≠ .gauge)
  | gauge (name : MetricName) (g : Gauge)
  | lookup (name : MetricName)
  | remove (base : MetricName)
  | clear
  | record (id : MetricId) (e : Event)
  | catchUp (id : MetricId)
  | elapse (move : Clock → Clock)

inductive Answer
  | metric (result : Except RegistryError MetricId)
  | found (id? : Option MetricId)
  | removed (count : Nat)
  | done

def step (r : Registry) : Op → Answer × Registry
  | .getOrCreate name kind => let (result, r) := r.getOrCreate name kind; (.metric result, r)
  | .typed name kind _ => let (result, r) := r.typed name kind; (.metric result, r)
  | .gauge name g => let (result, r) := r.getOrAddGauge name g; (.metric result, r)
  | .lookup name => (.found (r.id? name), r)
  | .remove base => let (n, r) := r.remove base; (.removed n, r)
  | .clear => (.done, r.clear)
  | .record id e => (.done, r.record id e)
  | .catchUp id => (.done, r.catchUp id)
  | .elapse move => (.done, r.withTime move)

def run (r : Registry) (ops : List Op) : Registry := ops.foldl (fun r op => (r.step op).2) r

namespace Op

def request? : Op → Option (MetricName × Kind)
  | .getOrCreate name kind | .typed name kind _ => some (name, kind)
  | .gauge name _ => some (name, .gauge)
  | _ => none

/-- The name that is requested or looked up. -/
def name? : Op → Option MetricName
  | .lookup name => some name
  | op => op.request?.map Prod.fst

/-- Whether a name is free after the operation, whatever it was before. -/
def frees (name : MetricName) : Op → Bool
  | .remove base => name.startsWith base
  | .clear => true
  | _ => false

/-- What a request would put under a free name. -/
def new? (now : Nanos) : Op → Option Metric
  | .getOrCreate _ kind | .typed _ kind _ => Metric.new? kind now
  | .gauge _ g => some (.gauge g)
  | _ => none

end Op

def Answer.id? : Answer → Option MetricId
  | .metric (.ok id) => some id
  | .found id? => id?
  | _ => none

/-- The metric that an operation hands out, with its name. -/
def handle? (r : Registry) (op : Op) : Option (MetricName × MetricId) := do
  return (← op.name?, ← (r.step op).1.id?)

def handles (r : Registry) : List Op → List (MetricName × MetricId)
  | [] => []
  | op :: ops => (r.handle? op).toList ++ handles (r.step op).2 ops

variable {r : Registry} {op : Op} {ops later : List Op} {name : MetricName} {id : MetricId}
  {kind : Kind}

@[simp] theorem run_nil (r : Registry) : r.run [] = r := rfl

@[simp] theorem run_cons (r : Registry) (op : Op) (ops : List Op) :
    r.run (op :: ops) = (r.step op).2.run ops := rfl

theorem run_append (r : Registry) (ops later : List Op) :
    r.run (ops ++ later) = (r.run ops).run later := List.foldl_append

/-! ### One step -/

/-- Every request is a case of `obtain`. -/
theorem step_of_request (h : op.request? = some (name, kind)) :
    r.step op = (.metric (r.obtain name kind (op.new? r.now)).1,
      (r.obtain name kind (op.new? r.now)).2) := by
  cases op <;> cases h
  · rfl
  · simp [step, typed_eq, getOrCreate, Op.new?]
  · simp [step, getOrAddGauge_eq, Op.new?]

theorem kind_of_mem_new?_op (h : op.request? = some (name, kind)) {now : Nanos} :
    ∀ m ∈ op.new? now, m.kind = kind := by
  cases op <;> cases h
  · exact fun _ => kind_of_mem_new?
  · exact fun _ => kind_of_mem_new?
  · exact fun _ => kind_of_mem_gauge

theorem new?_op_eq_none_iff (now : Nanos) (h : op.request? = some (name, kind)) :
    op.new? now = none ↔ op = .getOrCreate name .gauge := by
  cases op with
  | getOrCreate n k =>
    cases h
    simp [Op.new?, Metric.new?_eq_none_iff]
  | typed n k plain =>
    cases h
    simp [Op.new?, Metric.new?_eq_none_iff, plain]
  | gauge n g => simp [Op.new?]
  | _ => cases h

theorem frees_of_request (h : op.request? = some (name, kind)) (other : MetricName) :
    op.frees other = false := by
  cases op <;> first | rfl | cases h

theorem handle?_of_request (h : op.request? = some (name, kind)) :
    r.handle? op = (r.step op).1.id?.map (name, ·) := by
  have hn : op.name? = some name := by
    cases op <;> cases h <;> rfl
  cases hi : (r.step op).1.id? <;> simp [handle?, hn, hi]

/-- What a step does to names, kinds and identities if it creates no metric. -/
structure Keeps (r : Registry) (op : Op) : Prop where
  names : ∀ name, (r.step op).2.id? name = if op.frees name then none else r.id? name
  fresh : (r.step op).2.fresh = r.fresh
  kinds : ∀ id, (r.step op).2.kind? id = r.kind? id
  bound_of_handle : ∀ name id, r.handle? op = some (name, id) → r.id? name = some id

theorem Keeps.of_request_unchanged (h : op.request? = some (name, kind))
    (same : (r.step op).2 = r) (hid : ∀ id, (r.step op).1.id? = some id → r.id? name = some id) :
    r.Keeps op where
  names other := by simp [same, frees_of_request h other]
  fresh := by rw [same]
  kinds id := by rw [same]
  bound_of_handle n id hh := by
    rw [handle?_of_request h] at hh
    obtain ⟨i, hi, hn⟩ := Option.map_eq_some_iff.mp hh
    cases hn
    exact hid _ hi

theorem Keeps.of_no_request (h : op.request? = none) : r.Keeps op := by
  cases op with
  | getOrCreate n k => cases h
  | typed n k plain => cases h
  | gauge n g => cases h
  | lookup n =>
    refine ⟨fun _ => rfl, rfl, fun _ => rfl, fun name id hh => ?_⟩
    cases hi : r.id? n <;> simp [handle?, Op.name?, step, Answer.id?, hi] at hh
    exact hh.1 ▸ hh.2 ▸ hi
  | remove base => exact ⟨id?_remove r base, rfl, fun _ => rfl, fun _ _ hh => by cases hh⟩
  | clear => exact ⟨fun name => id?_clear r name, rfl, fun _ => rfl, fun _ _ hh => by cases hh⟩
  | record id e =>
    exact ⟨fun _ => rfl, fresh_record r id e, fun i => kind?_record r id i e,
      fun _ _ hh => by cases hh⟩
  | catchUp id =>
    exact ⟨fun _ => rfl, fresh_catchUp r id, fun i => kind?_catchUp r id i,
      fun _ _ hh => by cases hh⟩
  | elapse move => exact ⟨fun _ => rfl, rfl, fun _ => rfl, fun _ _ hh => by cases hh⟩

/-- A step creates one metric under a free name, or none. -/
theorem step_cases (r : Registry) (op : Op) :
    (∃ name m, op.request? = some (name, m.kind) ∧ r.id? name = none ∧
      r.step op = (.metric (.ok r.fresh), r.insert name m)) ∨ r.Keeps op := by
  cases hq : op.request? with
  | none => exact .inr (.of_no_request hq)
  | some q =>
    obtain ⟨name, kind⟩ := q
    rcases r.obtain_cases name kind (op.new? r.now) with ⟨id, hid, -, ho⟩ |
      ⟨id, registered, -, -, -, ho⟩ | ⟨-, -, ho⟩ | ⟨m, free, hm, ho⟩
    · refine .inr (.of_request_unchanged hq ?_ ?_) <;> rw [step_of_request hq, ho]
      intro i hi
      exact hid.trans hi
    · refine .inr (.of_request_unchanged hq ?_ ?_) <;> rw [step_of_request hq, ho]
      simp [Answer.id?]
    · refine .inr (.of_request_unchanged hq ?_ ?_) <;> rw [step_of_request hq, ho]
      simp [Answer.id?]
    · refine .inl ⟨name, m, ?_, free, ?_⟩
      · rw [kind_of_mem_new?_op hq m hm]
      · rw [step_of_request hq, ho]

theorem fresh_le_step (r : Registry) (op : Op) : r.fresh ≤ (r.step op).2.fresh := by
  rcases r.step_cases op with ⟨name, m, -, -, h⟩ | keeps
  · simp [h]
  · exact Nat.le_of_eq keeps.fresh.symm

theorem kind?_step (r : Registry) (op : Op) (h : id < r.fresh) :
    (r.step op).2.kind? id = r.kind? id := by
  rcases r.step_cases op with ⟨name, m, -, -, hs⟩ | keeps
  · rw [hs, kind?_insert_of_lt r name m h]
  · exact keeps.kinds id

theorem id?_step_of_frees (h : op.frees name) : (r.step op).2.id? name = none := by
  rcases r.step_cases op with ⟨_, m, hq, -, -⟩ | keeps
  · simp [frees_of_request hq] at h
  · rw [keeps.names, if_pos h]

theorem id?_step_of_bound (hid : r.id? name = some id) (h : ¬op.frees name) :
    (r.step op).2.id? name = some id := by
  rcases r.step_cases op with ⟨other, m, -, free, hs⟩ | keeps
  · rw [hs, id?_insert_of_ne r m (by rintro rfl; simp [free] at hid), hid]
  · rw [keeps.names, if_neg h, hid]

/-- What is handed out under a name is what it had, or new if it had nothing. -/
theorem handle?_cases (h : r.handle? op = some (name, id)) :
    r.id? name = some id ∨
      r.id? name = none ∧ id = r.fresh ∧ (r.step op).2.id? name = some id := by
  rcases r.step_cases op with ⟨other, m, hq, free, hs⟩ | keeps
  · rw [handle?_of_request hq, hs] at h
    cases h
    exact .inr ⟨free, rfl, by rw [hs, id?_insert_self]⟩
  · exact .inl (keeps.bound_of_handle name id h)

theorem id?_step_of_free (free : r.id? name = none) (h : ∀ id, r.handle? op ≠ some (name, id)) :
    (r.step op).2.id? name = none := by
  rcases r.step_cases op with ⟨other, m, hq, -, hs⟩ | keeps
  · have hne : name ≠ other := by
      rintro rfl
      exact h r.fresh (by rw [handle?_of_request hq, hs]; rfl)
    rw [hs, id?_insert_of_ne r m hne, free]
  · rw [keeps.names, free, ite_self]

/-! ### Runs -/

theorem fresh_le_run (r : Registry) (ops : List Op) : r.fresh ≤ (r.run ops).fresh := by
  induction ops generalizing r with
  | nil => exact Nat.le_refl _
  | cons op ops ih => exact Nat.le_trans (fresh_le_step r op) (ih _)

theorem kind?_run (r : Registry) (ops : List Op) (h : id < r.fresh) :
    (r.run ops).kind? id = r.kind? id := by
  induction ops generalizing r with
  | nil => rfl
  | cons op ops ih =>
    rw [run_cons, ih _ (Nat.lt_of_lt_of_le h (fresh_le_step r op)), kind?_step r op h]

theorem lt_fresh_of_mem_handles (h : (name, id) ∈ r.handles ops) : id < (r.run ops).fresh := by
  induction ops generalizing r with
  | nil => cases h
  | cons op ops ih =>
    rcases List.mem_append.mp h with h | h
    · have hs : id < (r.step op).2.fresh := by
        rcases handle?_cases (Option.mem_toList.mp h) with hid | ⟨-, -, hid⟩
        · exact Nat.lt_of_lt_of_le (id_lt hid) (fresh_le_step r op)
        · exact id_lt hid
      exact Nat.lt_of_lt_of_le hs (fresh_le_run _ ops)
    · exact ih h

theorem id?_run_of_bound (hid : r.id? name = some id) (h : ∀ op ∈ ops, ¬op.frees name) :
    (r.run ops).id? name = some id := by
  induction ops generalizing r with
  | nil => exact hid
  | cons op ops ih =>
    rw [List.forall_mem_cons] at h
    exact ih (id?_step_of_bound hid h.1) h.2

/-- Meanwhile it is the only one that is handed out under the name. -/
theorem handles_of_bound (hid : r.id? name = some id) (h : ∀ op ∈ ops, ¬op.frees name)
    {other : MetricId} (ho : (name, other) ∈ r.handles ops) : other = id := by
  induction ops generalizing r with
  | nil => cases ho
  | cons op ops ih =>
    rw [List.forall_mem_cons] at h
    rcases List.mem_append.mp ho with ho | ho
    · rcases handle?_cases (Option.mem_toList.mp ho) with hb | ⟨free, -, -⟩
      · exact Option.some.inj (hb.symm.trans hid)
      · simp [free] at hid
    · exact ih (id?_step_of_bound hid h.1) h.2 ho

/-- A free name stays free until a metric is handed out under it. -/
theorem id?_run_of_free (free : r.id? name = none) (h : ∀ id, (name, id) ∉ r.handles ops) :
    (r.run ops).id? name = none := by
  induction ops generalizing r with
  | nil => exact free
  | cons op ops ih =>
    refine ih (id?_step_of_free free fun id hh => h id ?_) fun id hi => h id ?_
    · exact List.mem_append_left _ (Option.mem_toList.mpr hh)
    · exact List.mem_append_right _ hi

/-! ### Failures -/

theorem step_eq_kindMismatch_iff (h : op.request? = some (name, kind)) {registered : Kind} :
    (r.step op).1 = .metric (.error (.kindMismatch name registered kind)) ↔
      registered ≠ kind ∧ ∃ id, r.id? name = some id ∧ r.kind? id = some registered := by
  rw [step_of_request h]
  rcases r.obtain_cases name kind (op.new? r.now) with ⟨id, hid, hk, ho⟩ |
    ⟨id, k, hid, hk, hne, ho⟩ | ⟨free, -, ho⟩ | ⟨m, free, -, ho⟩ <;> rw [ho] <;> simp [*]
  · rintro hne rfl
    exact hne rfl
  · grind

theorem step_eq_gaugeWithoutValue_iff (h : op.request? = some (name, kind)) :
    (r.step op).1 = .metric (.error (.gaugeWithoutValue name)) ↔
      op = .getOrCreate name .gauge ∧ r.id? name = none := by
  rw [step_of_request h, ← new?_op_eq_none_iff r.now h]
  rcases r.obtain_cases name kind (op.new? r.now) with ⟨id, hid, hk, ho⟩ |
    ⟨id, k, hid, hk, hne, ho⟩ | ⟨free, hm, ho⟩ | ⟨m, free, hm, ho⟩ <;> rw [ho] <;> simp [*]

theorem step_ok_iff (h : op.request? = some (name, kind)) :
    (∃ id, (r.step op).1 = .metric (.ok id)) ↔
      ¬r.Refuses name kind ∧ ¬(op = .getOrCreate name .gauge ∧ r.id? name = none) := by
  rw [step_of_request h, ← new?_op_eq_none_iff r.now h]
  rcases r.obtain_cases name kind (op.new? r.now) with ⟨id, hid, hk, ho⟩ |
    ⟨id, k, hid, hk, hne, ho⟩ | ⟨free, hm, ho⟩ | ⟨m, free, hm, ho⟩ <;> rw [ho] <;>
    simp [Refuses, *]

theorem step_of_error {e : RegistryError} (h : (r.step op).1 = .metric (.error e)) :
    (r.step op).2 = r := by
  cases hq : op.request? with
  | none => cases op <;> first | (cases hq; done) | cases h
  | some q =>
    obtain ⟨name, kind⟩ := q
    rw [step_of_request hq] at h ⊢
    exact obtain_snd_of_error (Answer.metric.inj h)

theorem metric?_step_of_request (h : op.request? = some (name, kind)) (hid : id < r.fresh) :
    (r.step op).2.metric? id = r.metric? id := by
  rw [step_of_request h]
  rcases r.obtain_snd_cases name kind (op.new? r.now) with ho | ⟨m, -, -, ho⟩ <;> rw [ho]
  exact metric?_insert_of_lt r name m hid

/-! ### The law -/

/-- What holds of a registry after any operations, and of all that can follow. -/
theorem run_law (c : Clock) (before : List Op) :
    let r := (withClock c).run before
    -- A name has one metric, which has no other name and is of one kind for good.
    (∀ name id, r.id? name = some id → (∀ other, r.id? other = some id → other = name) ∧
      ∃ kind, ∀ later, (r.run later).kind? id = some kind) ∧
    -- A metric that was created stands for its name until the name is freed.
    (∀ op name id later, r.id? name = none → r.handle? op = some (name, id) →
      (∀ o ∈ later, ¬o.frees name) → ((r.step op).2.run later).id? name = some id ∧
        ∀ other, (name, other) ∈ (r.step op).2.handles later → other = id) ∧
    -- Once it was freed, the next metric under the name has never been handed out.
    (∀ op name later next id, op.frees name →
      (∀ other, (name, other) ∉ (r.step op).2.handles later) →
      ((r.step op).2.run later).handle? next = some (name, id) →
      ∀ other, (other, id) ∉ (withClock c).handles (before ++ op :: later)) ∧
    -- A request fails only because of the kind.
    (∀ op name kind, op.request? = some (name, kind) →
      (∀ registered, (r.step op).1 = .metric (.error (.kindMismatch name registered kind)) ↔
        registered ≠ kind ∧ ∃ id, r.id? name = some id ∧ r.kind? id = some registered) ∧
      ((r.step op).1 = .metric (.error (.gaugeWithoutValue name)) ↔
        op = .getOrCreate name .gauge ∧ r.id? name = none) ∧
      ((∃ id, (r.step op).1 = .metric (.ok id)) ↔
        ¬r.Refuses name kind ∧ ¬(op = .getOrCreate name .gauge ∧ r.id? name = none)) ∧
      ∀ id < r.fresh, (r.step op).2.metric? id = r.metric? id) ∧
    (∀ op e, (r.step op).1 = .metric (.error e) → (r.step op).2 = r) ∧
    -- The second look at the kind never fails.
    (∀ name kind id r', r.getOrCreate name kind = (.ok id, r') →
      r'.narrow name kind id = .ok id) ∧
    (∀ name g id r', r.obtain name .gauge (some (.gauge g)) = (.ok id, r') →
      r'.narrow name .gauge id = .ok id) := by
  intro r
  refine ⟨fun name id hid => ⟨fun other => name_unique hid, ?_⟩, ?_, ?_, ?_,
    fun op e => step_of_error,
    fun name kind id r' h => narrow_of_kind? (kind_of_obtain (fun _ => kind_of_mem_new?) h),
    fun name g id r' h => narrow_of_kind? (kind_of_obtain (fun _ => kind_of_mem_gauge) h)⟩
  · obtain ⟨kind, hk⟩ := exists_kind hid
    exact ⟨kind, fun later => (kind?_run r later (id_lt hid)).trans hk⟩
  · intro op name id later free hh hl
    obtain ⟨-, -, hid⟩ := (handle?_cases hh).resolve_left (by simp [free])
    exact ⟨id?_run_of_bound hid hl, fun other => handles_of_bound hid hl⟩
  · intro op name later next id hf hl hh other ho
    have free := id?_run_of_free (id?_step_of_frees hf) hl
    obtain ⟨-, rfl, -⟩ := (handle?_cases hh).resolve_left (by simp [free])
    have := lt_fresh_of_mem_handles ho
    rw [run_append, run_cons] at this
    exact Nat.lt_irrefl _ this
  · intro op name kind h
    exact ⟨fun registered => step_eq_kindMismatch_iff h, step_eq_gaugeWithoutValue_iff h,
      step_ok_iff h, fun id => metric?_step_of_request h⟩

end Telemetry.Registry
