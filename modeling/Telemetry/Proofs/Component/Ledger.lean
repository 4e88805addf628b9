import Telemetry.Proofs.Component.Schema
import Telemetry.Proofs.Metric.Count

/-!
Ledgers of a registry. Whatever is recorded under the names of a schema is entered with its amount,
and as long as nobody else touches these names, their metrics count what was entered for them.
-/

namespace Telemetry

/-- What is known of a metric once it is reduced to its count. -/
structure Account where
  kind : Kind
  count : BitVec 64
deriving DecidableEq

def Metric.account (m : Metric) : Account := ⟨m.kind, m.word⟩

namespace Registry

variable {S T : Schema} {r r' : Registry} {name other : MetricName} {id : MetricId} {kind : Kind}
  {e : Event} {a : Account}

def account? (r : Registry) (name : MetricName) : Option Account :=
  (r.get? name).map Metric.account

theorem account?_eq_none_iff : r.account? name = none ↔ r.id? name = none := by
  rw [account?, get?, Option.map_eq_none_iff]
  cases h : r.id? name with
  | none => simp
  | some id =>
    obtain ⟨kind, hk⟩ := exists_kind h
    obtain ⟨m, hm, -⟩ := Option.map_eq_some_iff.mp hk
    simp [hm]

theorem kind?_of_account? (hid : r.id? name = some id) (ha : r.account? name = some a) :
    r.kind? id = some a.kind := by
  obtain ⟨m, hm, rfl⟩ := Option.map_eq_some_iff.mp ha
  rw [get?, hid, Option.bind_some] at hm
  rw [kind?, hm]
  rfl

theorem get?_modify (r : Registry) (id : MetricId) (f : Metric → Metric) (name : MetricName) :
    (r.modify id f).get? name =
      if r.id? name = some id then (r.get? name).map f else r.get? name := by
  rw [get?, get?, id?_modify]
  cases h : r.id? name with
  | none => simp
  | some i => simp [metric?_modify, eq_comm]

theorem account?_record (hid : r.id? name = some id) (ha : r.account? name = some a)
    (suits : e.suits a.kind) :
    (r.record id e).account? name = some ⟨a.kind, a.count + e.amount⟩ := by
  obtain ⟨m, hm, rfl⟩ := Option.map_eq_some_iff.mp ha
  rw [account?, record, get?_modify, if_pos hid, hm]
  simp [Metric.account, Metric.word_record suits]

theorem account?_modify_of_ne {f : Metric → Metric} (h : r.id? name ≠ some id) :
    (r.modify id f).account? name = r.account? name := by
  rw [account?, get?_modify, if_neg h, account?]

theorem account?_insert_self (r : Registry) (name : MetricName) (m : Metric) :
    (r.insert name m).account? name = some m.account := by
  rw [account?, get?, id?_insert_self]
  simp [metric?, insert, fresh]

theorem account?_insert_of_ne (r : Registry) (m : Metric) (h : other ≠ name) :
    (r.insert name m).account? other = r.account? other := by
  rw [account?, account?, get?, get?, id?_insert_of_ne r m h]
  cases hid : r.id? other with
  | none => rfl
  | some id => exact congrArg (Option.map _) (metric?_insert_of_lt r name m (id_lt hid))

theorem account?_catchUp (r : Registry) (id : MetricId) (name : MetricName) :
    (r.catchUp id).account? name = r.account? name := by
  rw [account?, catchUp, get?_modify, account?]
  split
  · cases r.get? name <;> simp [Metric.account]
  · rfl

/-! ### What others leave alone -/

/-- The names of the schema keep their metrics, and these keep their counts. -/
structure Leaves (S : Schema) (r r' : Registry) : Prop where
  id? : ∀ name, (S name).isSome → r'.id? name = r.id? name
  account? : ∀ name, (S name).isSome → r'.account? name = r.account? name

namespace Leaves

theorem withTime (S : Schema) (r : Registry) (move : Clock → Clock) :
    Leaves S r (r.withTime move) := ⟨fun _ _ => rfl, fun _ _ => rfl⟩

theorem readFrom (S : Schema) (r : Registry) (base : MetricName) :
    Leaves S r (r.readFrom base).2 := by
  have caught (es : List (MetricName × MetricId)) (r : Registry) :
      Leaves S r (es.foldl (fun r e => r.catchUp e.2) r) := by
    induction es generalizing r with
    | nil => exact ⟨fun _ _ => rfl, fun _ _ => rfl⟩
    | cons e es ih =>
      refine ⟨fun name hs => (ih _).id? name hs, fun name hs => ?_⟩
      exact ((ih _).account? name hs).trans (account?_catchUp r e.2 name)
  rw [Registry.readFrom, readAll, readEach_snd]
  exact caught _ r

end Leaves

/-! ### Ledgers -/

/-- What the entries for a name add up to. -/
def balance (log : List (MetricName × BitVec 64)) (name : MetricName) : BitVec 64 :=
  ((log.filter (·.1 = name)).map (·.2)).sum

@[simp] theorem balance_nil (name : MetricName) : balance [] name = 0 := rfl

theorem balance_append (log log' : List (MetricName × BitVec 64)) (name : MetricName) :
    balance (log ++ log') name = balance log name + balance log' name := by
  rw [balance, List.filter_append, List.map_append, List.sum_append]
  rfl

theorem balance_cons (entry : MetricName × BitVec 64) (log : List (MetricName × BitVec 64))
    (name : MetricName) :
    balance (entry :: log) name = (if entry.1 = name then entry.2 else 0) + balance log name := by
  by_cases h : entry.1 = name <;> simp [balance, h]

theorem balance_of_notMem {log : List (MetricName × BitVec 64)} (h : name ∉ log.map (·.1)) :
    balance log name = 0 := by
  have none_left : log.filter (·.1 = name) = [] := by
    rw [List.filter_eq_nil_iff]
    intro entry hm he
    exact h (List.mem_map.mpr ⟨entry, hm, of_decide_eq_true he⟩)
  rw [balance, none_left]
  rfl

/-- What was handed out or recorded in. -/
def Known (held : List (MetricName × MetricId)) (log : List (MetricName × BitVec 64))
    (name : MetricName) : Prop := name ∈ held.map (·.1) ∨ name ∈ log.map (·.1)

/-- The names of the schema have metrics just as far as these are known. Those that were handed out
are still under their names, and all count what was entered for them. -/
structure Books (S : Schema) (held : List (MetricName × MetricId))
    (log : List (MetricName × BitVec 64)) (r : Registry) : Prop where
  bound : ∀ name id kind, (name, id) ∈ held → S name = some kind → r.id? name = some id
  account : ∀ name kind, S name = some kind → Known held log name →
    r.account? name = some ⟨kind, balance log name⟩
  free : ∀ name kind, S name = some kind → ¬Known held log name → r.id? name = none

variable {held : List (MetricName × MetricId)} {log : List (MetricName × BitVec 64)}

theorem known_of_held (hm : (name, id) ∈ held) : Known held log name :=
  .inl (List.mem_map_of_mem hm)

theorem known_concat_held : Known (held ++ [(name, id)]) log other ↔
    other = name ∨ Known held log other := by
  simp only [Known, List.map_append, List.map_cons, List.map_nil, List.mem_append,
    List.mem_singleton]
  tauto

theorem known_concat_log {n : BitVec 64} : Known held (log ++ [(name, n)]) other ↔
    other = name ∨ Known held log other := by
  simp only [Known, List.map_append, List.map_cons, List.map_nil, List.mem_append,
    List.mem_singleton]
  tauto

namespace Books

theorem start (free : ∀ name, (S name).isSome → r.id? name = none) : Books S [] [] r where
  bound _ _ _ hm := by cases hm
  account _ _ _ known := by simp [Known] at known
  free name _ hs _ := free name (Option.isSome_of_eq_some hs)

theorem anti (h : Books T held log r) (hsub : S.Sub T) : Books S held log r where
  bound name id kind hm hs := h.bound name id kind hm (hsub name kind hs)
  account name kind hs := h.account name kind (hsub name kind hs)
  free name kind hs := h.free name kind (hsub name kind hs)

theorem leaves (h : Books S held log r) (left : Leaves S r r') : Books S held log r' where
  bound name id kind hm hs :=
    (left.id? name (Option.isSome_of_eq_some hs)).trans (h.bound name id kind hm hs)
  account name kind hs known :=
    (left.account? name (Option.isSome_of_eq_some hs)).trans (h.account name kind hs known)
  free name kind hs unknown :=
    (left.id? name (Option.isSome_of_eq_some hs)).trans (h.free name kind hs unknown)

theorem known_of_id? (h : Books S held log r) (hs : S name = some kind)
    (hid : r.id? name = some id) : Known held log name := by
  by_contra unknown
  cases hid.symm.trans (h.free name kind hs unknown)

/-- A metric that was handed out is recorded in, whatever way it was come by. -/
theorem record (h : Books S held log r) (hm : (name, id) ∈ held) (hs : S name = some kind)
    (suits : e.suits kind) : Books S held (log ++ [(name, e.amount)]) (r.record id e) := by
  have hid := h.bound name id kind hm hs
  refine ⟨h.bound, fun other k hk known => ?_, fun other k hk unknown => ?_⟩
  · rw [balance_append, balance_cons, balance_nil, add_zero]
    by_cases same : other = name
    · subst same
      cases hs.symm.trans hk
      rw [account?_record hid (h.account other kind hs (known_of_held hm)) suits, if_pos rfl]
    · have apart : r.id? other ≠ some id := fun ho => same (name_unique hid ho)
      have before := (known_concat_log.mp known).resolve_left same
      rw [Registry.record, account?_modify_of_ne apart, h.account other k hk before,
        if_neg (Ne.symm same), add_zero]
  · exact h.free other k hk fun known => unknown (known_concat_log.mpr (.inr known))

/-- A metric that is asked for by its name is then one of those handed out. -/
theorem obtain (h : Books S held log r) {new? : Option Metric} (agrees : ∀ k ∈ S name, k = kind)
    (hnew : ∀ m ∈ new?, m.account = ⟨kind, 0⟩) (ho : r.obtain name kind new? = (.ok id, r')) :
    Books S (held ++ [(name, id)]) log r' := by
  have others {n : MetricName} (hn : ¬Known (held ++ [(name, id)]) log n) :
      n ≠ name ∧ ¬Known held log n := not_or.mp (mt known_concat_held.mpr hn)
  rcases r.obtain_cases name kind new? with ⟨_, hid, -, h'⟩ | ⟨_, _, -, -, -, h'⟩ | ⟨-, -, h'⟩ |
    ⟨m, unbound, hm, h'⟩ <;> cases h'.symm.trans ho
  -- The name is bound: either it was known already, or the schema does not watch it.
  · refine ⟨fun n i k hmem hk => ?_, fun n k hk known => ?_, fun n k hk hn => ?_⟩
    · rcases List.mem_append.mp hmem with hmem | hmem
      · exact h.bound n i k hmem hk
      · cases List.mem_singleton.mp hmem
        exact hid
    · rcases known_concat_held.mp known with rfl | known
      · exact h.account n k hk (h.known_of_id? hk hid)
      · exact h.account n k hk known
    · exact h.free n k hk (others hn).2
  -- The metric is new, and so nothing was entered under its name before.
  · have unknown {k : Kind} (hk : S name = some k) : ¬Known held log name := by
      intro known
      have held_already := h.account name k hk known
      rw [account?_eq_none_iff.mpr unbound] at held_already
      cases held_already
    refine ⟨fun n i k hmem hk => ?_, fun n k hk known => ?_, fun n k hk hn => ?_⟩
    · rcases List.mem_append.mp hmem with old | new
      · have apart : n ≠ name := by
          rintro rfl
          exact unknown hk (known_of_held old)
        rw [id?_insert_of_ne r m apart]
        exact h.bound n i k old hk
      · cases List.mem_singleton.mp new
        exact id?_insert_self ..
    · by_cases same : n = name
      · subst same
        obtain rfl := agrees k hk
        rw [account?_insert_self, hnew m hm, balance_of_notMem (not_or.mp (unknown hk)).2]
      · rw [account?_insert_of_ne r m same]
        exact h.account n k hk ((known_concat_held.mp known).resolve_left same)
    · rw [id?_insert_of_ne r m (others hn).1]
      exact h.free n k hk (others hn).2

theorem account_of_mem_new? {now : Nanos} {m : Metric} (hm : m ∈ Metric.new? kind now) :
    m.account = ⟨kind, 0⟩ := by
  rw [Metric.account, Metric.kind_of_new? hm, Metric.word_of_new? hm]

/-- A metric of the right kind is never denied. -/
theorem metricIfFree (h : Books S held log r) (hs : S name = some kind) (plain : kind ≠ .gauge) :
    ∃ id r', r.metricIfFree (.ok name) kind = (some id, r') ∧
      Books S (held ++ [(name, id)]) log r' := by
  have agrees : ∀ k ∈ S name, k = kind := fun k hk => Option.some.inj (hk.symm.trans hs)
  rw [Registry.metricIfFree]
  simp only [typed_eq, getOrCreate]
  rcases ho : r.obtain name kind (Metric.new? kind r.now) with ⟨_ | id, r'⟩
  · rcases r.obtain_cases name kind (Metric.new? kind r.now) with ⟨_, -, -, h'⟩ |
      ⟨id, k, hid, hk, hne, -⟩ | ⟨-, none_new, -⟩ | ⟨_, -, -, h'⟩
    · cases h'.symm.trans ho
    · have counted := h.account name kind hs (h.known_of_id? hs hid)
      cases hk.symm.trans (kind?_of_account? hid counted)
      exact absurd rfl hne
    · exact absurd (Metric.new?_eq_none_iff.mp none_new) plain
    · cases h'.symm.trans ho
  · exact ⟨id, r', rfl, h.obtain agrees (fun _ => account_of_mem_new?) ho⟩

/-- What is recorded in or not watched need not be held any more. -/
theorem drop (h : Books S (held ++ [(name, id)]) log r)
    (hn : S name = none ∨ name ∈ log.map (·.1)) : Books S held log r := by
  have same {n : MetricName} {k : Kind} (hk : S n = some k) :
      Known (held ++ [(name, id)]) log n ↔ Known held log n := by
    rw [known_concat_held, or_iff_right_of_imp]
    rintro rfl
    rcases hn with hn | hn
    · cases hn.symm.trans hk
    · exact .inr hn
  exact ⟨fun n i k hmem => h.bound n i k (List.mem_append_left _ hmem),
    fun n k hk known => h.account n k hk ((same hk).mpr known),
    fun n k hk unknown => h.free n k hk (mt (same hk).mp unknown)⟩

/-- Recording under a name, in a metric that may be new. -/
theorem tally (h : Books S held log r) (hs : S name = some kind) (suits : e.suits kind) :
    Books S held (log ++ [(name, e.amount)])
      ((r.metricIfFree (.ok name) kind).2.recordIn (r.metricIfFree (.ok name) kind).1 e) := by
  have plain : kind ≠ .gauge := by
    rintro rfl
    cases e <;> cases suits
  obtain ⟨id, r', ho, h'⟩ := h.metricIfFree hs plain
  rw [ho]
  exact (h'.record (List.mem_append_right _ (List.mem_singleton_self _)) hs suits).drop
    (.inr (by simp))

end Books

/-! ### What is shown -/

/-- The name has a metric of the kind, which shows the count. -/
def Counts (r : Registry) (name : MetricName) (kind : Kind) (n : Int) : Prop :=
  ∃ m, r.get? name = some m ∧ m.kind = kind ∧ m.count = n

variable {n : Int}

theorem counts_of_counter (h : r.account? name = some ⟨.counter, .ofInt 64 n⟩)
    (fits : -2 ^ 63 ≤ n ∧ n < 2 ^ 63) : r.Counts name .counter n := by
  obtain ⟨m, hm, ha⟩ := Option.map_eq_some_iff.mp h
  obtain ⟨kind, word⟩ := Account.mk.inj ha
  refine ⟨m, hm, kind, ?_⟩
  cases m with
  | counter c =>
    rw [Metric.word_counter] at word
    have shown := congrArg BitVec.toInt word
    rw [BitVec.toInt_ofInt, Int.bmod_eq_of_le (by omega) (by omega)] at shown
    exact shown
  | _ => cases kind

theorem counts_of_timer (h : r.account? name = some ⟨.timer, .ofInt 64 n⟩)
    (fits : 0 ≤ n ∧ n < 2 ^ 64) : r.Counts name .timer n := by
  obtain ⟨m, hm, ha⟩ := Option.map_eq_some_iff.mp h
  obtain ⟨kind, word⟩ := Account.mk.inj ha
  refine ⟨m, hm, kind, ?_⟩
  cases m with
  | timer t =>
    rw [Metric.word_timer] at word
    have shown : t.meter.count.toNat = (BitVec.ofInt 64 n).toNat := congrArg BitVec.toNat word
    rw [BitVec.toNat_ofInt] at shown
    change (t.meter.count.toNat : Int) = n
    omega
  | _ => cases kind

end Registry

end Telemetry
