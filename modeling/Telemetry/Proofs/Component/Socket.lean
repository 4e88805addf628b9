import Telemetry.Proofs.Component.Identity
import Telemetry.Proofs.Component.Kinds
import Telemetry.Proofs.Component.Close
import Telemetry.Proofs.Component.Traces

/-!
One datagram socket, from when it is set up to when it is closed. It has three metrics in common
with all others, and one more to itself from when it first listens, under the address where it does.
-/

namespace Telemetry

namespace Registry

variable {r : Registry} {name : MetricName} {id : MetricId} {kind : Kind}

theorem metricIfFree_of_unbound {m : Metric} (h : r.id? name = none)
    (hm : Metric.new? kind r.now = some m) :
    r.metricIfFree (.ok name) kind = (some r.fresh, r.insert name m) := by
  rw [metricIfFree]
  simp only [typed_eq, getOrCreate, obtain_of_unbound h, hm]

theorem Counts.histogram_record {n : Int} (h : r.Counts name .histogram n)
    (hid : r.id? name = some id) (v : UInt64) :
    (r.record id (.value v)).Counts name .histogram (n + 1) := by
  obtain ⟨m, hm, hk, hn⟩ := h
  cases m with
  | histogram s =>
    refine ⟨.histogram (s.update v), ?_, rfl, ?_⟩
    · rw [record, get?_modify, if_pos hid, hm]
      rfl
    · change ((s.update v).count : Int) = n + 1
      rw [Sampler.count_update, ← hn]
      rfl
  | _ => cases hk

end Registry

namespace Component.Datagram

open Registry (Spares continues_insert continues_record)

variable {base : MetricName} {r r' : Registry} {host : String} {port : Nat}

/-! ### Names -/

/-- What a socket has to itself that first listens at the address. -/
def own (base : MetricName) (a : String × Nat) : MetricName :=
  base.below [address a.1 a.2, "bytes-read"]

def Shared (base name : MetricName) : Prop := ∃ w ∈ sharedNames, name = base.below [w]

/-- The names of datagram sockets: those that all have in common, and all at or below addresses. -/
def Concerns (base name : MetricName) : Prop :=
  Shared base name ∨ ∃ host port, name.startsWith (base.below [address host port])

theorem concerns_own (base : MetricName) (a : String × Nat) : Concerns base (own base a) :=
  .inr ⟨a.1, a.2, MetricName.below_startsWith_below_iff.mpr (by simp)⟩

theorem not_shared_of_startsWith {name : MetricName}
    (h : name.startsWith (base.below [address host port])) : ¬Shared base name := by
  rintro ⟨w, hw, rfl⟩
  have within := MetricName.below_startsWith_below_iff.mp h
  have colon : ∀ t ∈ sharedNames, ':' ∉ t.toList := by decide
  have same : address host port = w := by simpa [List.cons_prefix_cons] using within
  exact ne_address (colon w hw) host port same.symm

theorem own_startsWith_iff {a : String × Nat} :
    (own base a).startsWith (base.below [address host port]) ↔ a = (host, port) := by
  rw [own, MetricName.below_startsWith_below_iff, List.cons_prefix_cons, address_inj]
  simp [Prod.ext_iff, eq_comm]

theorem not_shared_own (a : String × Nat) : ¬Shared base (own base a) :=
  not_shared_of_startsWith (own_startsWith_iff.mpr (Prod.mk.eta (p := a)).symm)

theorem own_inj {a b : String × Nat} : own base a = own base b ↔ a = b := by
  constructor
  · intro h
    have begins : (own base b).startsWith (base.below [address b.1 b.2]) :=
      own_startsWith_iff.mpr rfl
    exact own_startsWith_iff.mp (h ▸ begins)
  · rintro rfl
    rfl

/-! ### Lives -/

def Call.address? : Call → Option (String × Nat)
  | .listen host port => some (host, port)
  | _ => none

def Call.isReceived : Call → Bool
  | .received _ => true
  | _ => false

/-- Where a socket first listens. -/
def first? (calls : List Call) : Option (String × Nat) := calls.findSome? Call.address?

/-- How often something is received after a socket first listens. -/
def heard : List Call → Nat
  | [] => 0
  | k :: calls => if k.address?.isSome then calls.countP Call.isReceived else heard calls

theorem first?_concat (calls : List Call) (k : Call) :
    first? (calls ++ [k]) = (first? calls).or k.address? := by
  rw [first?, List.findSome?_append, List.findSome?_singleton, first?]

theorem heard_of_first?_eq_none {calls : List Call} (h : first? calls = none) :
    heard calls = 0 := by
  induction calls with
  | nil => rfl
  | cons c calls ih =>
    rw [first?, List.findSome?_cons] at h
    cases hc : c.address? with
    | none =>
      rw [hc] at h
      simpa [heard, hc] using ih h
    | some a => simp [hc] at h

theorem heard_concat (calls : List Call) (k : Call) :
    heard (calls ++ [k]) = heard calls + if (first? calls).isSome ∧ k.isReceived then 1 else 0 := by
  induction calls with
  | nil => simp [heard, first?]
  | cons c calls ih =>
    rw [List.cons_append, heard, heard, first?, List.findSome?_cons, ← first?]
    cases hc : c.address? with
    | none => simpa using ih
    | some a => cases hk : k.isReceived <;> simp [hk]

/-- A socket, what was told to it, and whether it is closed. -/
structure Life where
  recorder : Datagram
  calls : List Call
  closed : Bool

namespace Life

def start (c : Datagram) : Life := ⟨c, [], false⟩

def first? (x : Life) : Option (String × Nat) := Datagram.first? x.calls

def own? (base : MetricName) (x : Life) : Option MetricName := x.first?.map (own base)

/-- The socket is told something. -/
def tell (x : Life) (k : Call) (r : Registry) : Life :=
  { x with recorder := (x.recorder.call k r).1, calls := x.calls ++ [k] }

def close (x : Life) : Life := { x with closed := true }

end Life

/-! ### One socket -/

/-- What a socket records in is under its names, and its own metric counts what it heard. -/
structure Fits (base : MetricName) (r : Registry) (x : Life) : Prop where
  placed : x.recorder.base = base
  sockets : r.Holds (base.below ["sockets"]) .counter x.recorder.sockets
  exceptions : r.Holds (base.below ["exceptions"]) .counter x.recorder.exceptions
  bytesWritten : r.Holds (base.below ["bytes-written"]) .histogram x.recorder.bytesWritten
  listening : x.recorder.listening.map (fun l => (l.host, l.port)) = x.first?
  counts : x.closed = false → ∀ l ∈ x.recorder.listening,
    r.id? (own base (l.host, l.port)) = some l.bytesRead ∧
      r.Counts (own base (l.host, l.port)) .histogram (heard x.calls)

/-- What happens to the metrics when something is told to a socket `x` or it is closed, and so comes
to be `x'`. -/
structure Turn (base : MetricName) (r r' : Registry) (x x' : Life) : Prop where
  first : ∀ a, x.first? = some a → x'.first? = some a
  shared : ∀ w ∈ sharedNames, ∀ kind id,
    r.Holds (base.below [w]) kind id → r'.Holds (base.below [w]) kind id
  spares : Spares (fun n => Concerns base n ∧ ¬Shared base n ∧ x'.own? base ≠ some n) r r'
  sockets : ∀ n, r.account? (base.below ["sockets"]) = some ⟨.counter, .ofInt 64 n⟩ →
    r'.account? (base.below ["sockets"]) = some ⟨.counter, .ofInt 64 (n - x'.closed.toNat)⟩
  fits : Fits base r' x'
  gone : x'.closed → ∀ n, x'.own? base = some n → r'.id? n = none

section Turns

variable {x x' : Life} {id : MetricId} {e : Event} {k : Call}

theorem Fits.first?_of_mem_listening (h : Fits base r x) {l : Listening}
    (hl : l ∈ x.recorder.listening) : x.first? = some (l.host, l.port) := by
  rw [← h.listening, hl]
  rfl

theorem Fits.first?_eq_none_iff (h : Fits base r x) :
    x.first? = none ↔ x.recorder.listening = none := by
  rw [← h.listening, Option.map_eq_none_iff]

theorem Fits.own?_of_mem_listening (h : Fits base r x) {l : Listening}
    (hl : l ∈ x.recorder.listening) : x.own? base = some (own base (l.host, l.port)) :=
  congrArg (Option.map (own base)) (h.first?_of_mem_listening hl)

/-- What a socket has to itself is there until it is closed. -/
theorem Fits.shows (h : Fits base r x) (live : x.closed = false) {n : MetricName}
    (hn : x.own? base = some n) :
    (r.id? n).isSome ∧ r.Counts n .histogram (heard x.calls) := by
  cases hl : x.recorder.listening with
  | none =>
    rw [Life.own?, ← h.listening, hl] at hn
    cases hn
  | some l =>
    obtain rfl := Option.some.inj ((h.own?_of_mem_listening hl).symm.trans hn)
    obtain ⟨hid, counts⟩ := h.counts live l hl
    exact ⟨Option.isSome_of_eq_some hid, counts⟩

/-- A socket stays fit whatever becomes of its own metric, as long as that one fits. -/
theorem Fits.renew (h : Fits base r x) {listening? : Option Listening}
    (same : x'.recorder = { x.recorder with listening := listening? })
    (shared : ∀ w ∈ sharedNames, ∀ kind id,
      r.Holds (base.below [w]) kind id → r'.Holds (base.below [w]) kind id)
    (first : listening?.map (fun l => (l.host, l.port)) = x'.first?)
    (counts : x'.closed = false → ∀ l ∈ listening?,
      r'.id? (own base (l.host, l.port)) = some l.bytesRead ∧
        r'.Counts (own base (l.host, l.port)) .histogram (heard x'.calls)) :
    Fits base r' x' where
  placed := same ▸ h.placed
  sockets := by
    rw [same]
    exact shared "sockets" (by decide) _ _ h.sockets
  exceptions := by
    rw [same]
    exact shared "exceptions" (by decide) _ _ h.exceptions
  bytesWritten := by
    rw [same]
    exact shared "bytes-written" (by decide) _ _ h.bytesWritten
  listening := same ▸ first
  counts live l hl := by
    rw [same] at hl
    exact counts live l hl

/-- A socket goes on as it is, as long as its metrics are not touched. -/
theorem Fits.frame (h : Fits base r x) (same : x'.recorder = x.recorder)
    (first : x'.first? = x.first?) (live : x'.closed = false → x.closed = false)
    (count : heard x'.calls = heard x.calls)
    (shared : ∀ w ∈ sharedNames, ∀ kind id,
      r.Holds (base.below [w]) kind id → r'.Holds (base.below [w]) kind id)
    (left : x'.closed = false → ∀ n, x.own? base = some n →
      r'.id? n = r.id? n ∧ r'.trace? n = r.trace? n) : Fits base r' x' := by
  refine h.renew same shared (h.listening.trans first.symm) fun live' l hl => ?_
  obtain ⟨hid, counts⟩ := h.counts (live live') l hl
  obtain ⟨sameId, sameTrace⟩ := left live' _ (h.own?_of_mem_listening hl)
  exact ⟨sameId.trans hid, count ▸ counts.congr_trace? sameTrace⟩

/-- Only one name is touched, and it is not that of the count of sockets. -/
theorem Turn.touch {name : MetricName} (live : x'.closed = false)
    (first : ∀ a, x.first? = some a → x'.first? = some a) (continues : r.Continues r')
    (spares : Spares (· ≠ name) r r') (hs : name ≠ base.below ["sockets"])
    (hn : Shared base name ∨ x'.own? base = some name) (fits : Fits base r' x') :
    Turn base r r' x x' where
  first := first
  shared _ _ kind id held := continues _ kind id held
  spares := spares.mono fun n hp => by
    rintro rfl
    exact hn.elim hp.2.1 hp.2.2
  sockets n hc := by
    rw [Registry.account?_eq_trace?] at hc ⊢
    rw [spares.trace? _ hs.symm, hc]
    simp [live]
  fits := fits
  gone hc := by simp [live] at hc

theorem first?_tell_of_some {a : String × Nat} (k : Call) (r : Registry) (h : x.first? = some a) :
    (x.tell k r).first? = some a := by
  rw [Life.first?, Life.tell, first?_concat, ← Life.first?, h, Option.some_or]

theorem first?_tell (x : Life) (k : Call) (r : Registry) (h : k.address? = none) :
    (x.tell k r).first? = x.first? := by
  rw [Life.first?, Life.tell, first?_concat, h, Option.or_none, ← Life.first?]

/-- What is recorded in a metric that all have in common changes nothing for the socket. -/
theorem turn_shared (h : Fits base r x) (live : x.closed = false) {w : String} {kind : Kind}
    (hw : w ∈ ["exceptions", "bytes-written"]) (held : r.Holds (base.below [w]) kind id)
    (told : x.recorder.call k r = (x.recorder, r.record id e)) (hk : k.address? = none)
    (unheard : k.isReceived = false) : Turn base r (r.record id e) x (x.tell k r) := by
  have first := first?_tell x k r hk
  have spares := Spares.record held.1 e
  have shared : Shared base (base.below [w]) := ⟨w, List.mem_cons_of_mem "sockets" hw, rfl⟩
  have apart : base.below [w] ≠ base.below ["sockets"] := by
    rw [Ne, MetricName.below_inj]
    rintro ⟨rfl⟩
    exact absurd hw (by decide)
  refine .touch live (fun a ha => first.trans ha) (continues_record r id e) spares apart
    (.inl shared) (h.frame (congrArg Prod.fst told) first (fun _ => live) ?_
      (fun _ _ kind id held => continues_record r _ e _ kind id held) fun _ n hn => ?_)
  · rw [Life.tell, heard_concat, unheard]
    simp
  · obtain ⟨a, -, rfl⟩ := Option.map_eq_some_iff.mp hn
    have other : own base a ≠ base.below [w] := fun same => not_shared_own a (same ▸ shared)
    exact ⟨spares.id? _ other, spares.trace? _ other⟩

/-- Nothing happens to the metrics. -/
theorem Turn.idle (h : Fits base r x) (live : x.closed = false)
    (told : x.recorder.call k r = (x.recorder, r)) (first : (x.tell k r).first? = x.first?)
    (count : heard (x.calls ++ [k]) = heard x.calls) : Turn base r r x (x.tell k r) := by
  have shared : Shared base (base.below ["exceptions"]) := ⟨_, by decide, rfl⟩
  have apart : base.below ["exceptions"] ≠ base.below ["sockets"] :=
    mt MetricName.below_inj.mp (by decide)
  exact .touch live (fun a ha => first.trans ha) (fun _ _ _ held => held)
    ⟨fun _ _ => rfl, fun _ _ => rfl⟩ apart (.inl shared)
    (h.frame (congrArg Prod.fst told) first (fun _ => live) count
      (fun _ _ _ _ held => held) fun _ _ _ => ⟨rfl, rfl⟩)

theorem own_ne_sockets (base : MetricName) (a : String × Nat) :
    own base a ≠ base.below ["sockets"] :=
  fun same => not_shared_own a ⟨"sockets", by decide, same⟩

theorem received_of_silent (h : Fits base r x) (silent : x.first? = none) (bytes : UInt64) :
    x.recorder.received bytes r = r := by
  rw [received, h.first?_eq_none_iff.mp silent]
  rfl

/-- What is received is heard once the socket listens, and before that it changes nothing. -/
theorem turn_received (h : Fits base r x) (live : x.closed = false) (bytes : UInt64) :
    Turn base r (x.recorder.received bytes r) x (x.tell (.received bytes) r) := by
  have first := first?_tell x (.received bytes) r rfl
  cases hl : x.recorder.listening with
  | none =>
    have silent := h.first?_eq_none_iff.mpr hl
    have told := received_of_silent h silent bytes
    rw [told]
    refine .idle h live (congrArg (x.recorder, ·) told) first ?_
    rw [heard_concat, ← Life.first?, silent]
    simp
  | some l =>
    obtain ⟨hid, counts⟩ := h.counts live l hl
    have told : x.recorder.received bytes r = r.record l.bytesRead (.value bytes) := by
      rw [received, hl]
      rfl
    have hown := h.own?_of_mem_listening hl
    have loud : x.first?.isSome := Option.isSome_of_eq_some (h.first?_of_mem_listening hl)
    rw [told]
    have continues := continues_record r l.bytesRead (.value bytes)
    have same : (x.tell (.received bytes) r).recorder =
        { x.recorder with listening := some l } := by
      rw [← hl]
      rfl
    refine .touch live (fun a ha => first.trans ha) continues (.record hid _)
      (own_ne_sockets base _) (.inr ((congrArg (Option.map _) first).trans hown))
      (h.renew same (fun _ _ => continues _) ?_ ?_)
    · rw [← hl]
      exact h.listening.trans first.symm
    · rintro - l' ⟨⟩
      have heard_one : heard (x.calls ++ [.received bytes]) = heard x.calls + 1 := by
        rw [heard_concat, if_pos ⟨loud, rfl⟩]
      refine ⟨hid, ?_⟩
      rw [Life.tell, heard_one]
      exact_mod_cast counts.histogram_record hid bytes

theorem listen_of_silent (h : Fits base r x) (silent : x.first? = none)
    (free : r.id? (own base (host, port)) = none) :
    x.recorder.listen host port r =
      ({ x.recorder with listening := some ⟨host, port, r.fresh⟩ },
        r.insert (own base (host, port)) (.histogram .empty)) := by
  have named : compose (x.recorder.ownBase host port) "bytes-read" =
      .ok (own base (host, port)) := by
    rw [compose_ownBase, h.placed]
    rfl
  have asked : r.metricIfFree (.ok (own base (host, port))) .histogram =
      (some r.fresh, r.insert (own base (host, port)) (.histogram .empty)) :=
    Registry.metricIfFree_of_unbound free rfl
  rw [listen, h.first?_eq_none_iff.mp silent, named]
  simp only [asked]
  rfl

/-- Only the first address counts. There the socket gets a metric that has heard nothing yet. -/
theorem turn_listen (h : Fits base r x) (live : x.closed = false)
    (free : x.first? = none → r.id? (own base (host, port)) = none) :
    Turn base r (x.recorder.listen host port r).2 x (x.tell (.listen host port) r) := by
  have heard_same : heard (x.calls ++ [.listen host port]) = heard x.calls := by
    rw [heard_concat]
    simp [Call.isReceived]
  cases hl : x.recorder.listening with
  | some l =>
    have told : x.recorder.listen host port r = (x.recorder, r) := by
      rw [listen, hl]
    have hfirst := h.first?_of_mem_listening hl
    rw [told]
    exact .idle h live told ((first?_tell_of_some _ r hfirst).trans hfirst.symm) heard_same
  | none =>
    have silent := h.first?_eq_none_iff.mpr hl
    have told := listen_of_silent h silent (free silent)
    have first : (x.tell (.listen host port) r).first? = some (host, port) := by
      rw [Life.first?, Life.tell, first?_concat, ← Life.first?, silent]
      rfl
    have continues := continues_insert (.histogram .empty) (free silent)
    rw [told]
    refine .touch live (fun a ha => absurd (silent.symm.trans ha) (by simp)) continues
      (.insert r _ _) (own_ne_sockets base _) (.inr (congrArg (Option.map _) first))
      (h.renew (congrArg Prod.fst told) (fun _ _ => continues _) first.symm ?_)
    rintro - l ⟨⟩
    refine ⟨Registry.id?_insert_self r _ _, .histogram .empty,
      Registry.get?_insert_self r _ _, rfl, ?_⟩
    rw [Life.tell, heard_same, heard_of_first?_eq_none silent]
    rfl

/-- At and below the address there is nothing but what the socket has to itself. -/
def Alone (base : MetricName) (r : Registry) (x : Life) (a : String × Nat) : Prop :=
  ∀ n, n.startsWith (base.below [address a.1 a.2]) → (r.id? n).isSome → x.own? base = some n

theorem own?_ne_shared (base : MetricName) (x : Life) {w : String} (hw : w ∈ sharedNames) :
    x.own? base ≠ some (base.below [w]) := by
  intro same
  obtain ⟨a, -, ha⟩ := Option.map_eq_some_iff.mp same
  exact not_shared_own a ⟨w, hw, ha⟩

section Close

variable (h : Fits base r x) (alone : ∀ a, x.first? = some a → Alone base r x a)

include h alone

theorem id?_close_own (n : MetricName) : (x.recorder.close r).2.id? n =
    if x.own? base = some n then none else r.id? n := by
  cases hl : x.recorder.listening with
  | none =>
    rw [Datagram.close, hl, Life.own?, h.first?_eq_none_iff.mpr hl]
    rfl
  | some l =>
    have hfirst := h.first?_of_mem_listening hl
    have hown := h.own?_of_mem_listening hl
    rw [Datagram.close, hl]
    change ((r.record x.recorder.sockets (.add (-1))).remove (x.recorder.ownBase ..)).2.id? n = _
    rw [Registry.id?_remove, Registry.id?_record, ownBase, h.placed]
    change (if n.startsWith (base.below [address l.host l.port]) then none else r.id? n) = _
    by_cases begins : n.startsWith (base.below [address l.host l.port])
    · rw [if_pos begins]
      split
      · rfl
      · next other =>
        refine (Option.eq_none_iff_forall_ne_some.mpr fun id hid => other ?_).symm
        exact alone _ hfirst n begins (Option.isSome_of_eq_some hid)
    · have other : x.own? base ≠ some n := by
        rw [hown]
        rintro ⟨rfl⟩
        exact begins (own_startsWith_iff.mpr rfl)
      rw [if_neg begins, if_neg other]

theorem removed_close (live : x.closed = false) :
    (x.recorder.close r).1 = (x.own? base).toList.length := by
  cases hl : x.recorder.listening with
  | none =>
    rw [Datagram.close, hl, Life.own?, h.first?_eq_none_iff.mpr hl]
    rfl
  | some l =>
    have hfirst := h.first?_of_mem_listening hl
    have hown := h.own?_of_mem_listening hl
    have bound := Option.isSome_of_eq_some (h.counts live l hl).1
    have removed : (x.recorder.close r).1 =
        (r.namesFrom (base.below [address l.host l.port])).length := by
      rw [Datagram.close, hl]
      exact h.placed ▸ Registry.removed_eq_length_namesFrom (r.record _ _) _
    rw [removed, hown]
    refine ((List.perm_ext_iff_of_nodup (r.nodup_namesFrom _) (List.nodup_singleton _)).mpr
      fun n => ?_).length_eq
    rw [Registry.mem_namesFrom, List.mem_singleton]
    constructor
    · rintro ⟨there, begins⟩
      exact Option.some.inj ((alone _ hfirst n begins there).symm.trans hown)
    · rintro rfl
      exact ⟨bound, own_startsWith_iff.mpr rfl⟩

theorem get?_close {n : MetricName} (other : x.own? base ≠ some n) :
    (x.recorder.close r).2.get? n = (r.record x.recorder.sockets (.add (-1))).get? n := by
  have metrics : (x.recorder.close r).2.metric? =
      (r.record x.recorder.sockets (.add (-1))).metric? := by
    rw [Datagram.close]
    split <;> rfl
  rw [Registry.get?, id?_close_own h alone, if_neg other, metrics, Registry.get?,
    Registry.id?_record]

theorem get?_close_of_ne {n : MetricName} (other : x.own? base ≠ some n)
    (hn : n ≠ base.below ["sockets"]) : (x.recorder.close r).2.get? n = r.get? n := by
  rw [get?_close h alone other, Registry.record, Registry.get?_modify,
    if_neg fun hid => hn (Registry.name_unique h.sockets.1 hid)]

/-- A closed socket is gone with what it had to itself, and nothing else is. -/
theorem turn_close : Turn base r (x.recorder.close r).2 x x.close := by
  have kinds (id : MetricId) : (x.recorder.close r).2.kind? id = r.kind? id :=
    (x.recorder.shrinks_close r).kinds id
  have shared (w : String) (hw : w ∈ sharedNames) (kind : Kind) (id : MetricId)
      (held : r.Holds (base.below [w]) kind id) :
      (x.recorder.close r).2.Holds (base.below [w]) kind id := by
    refine ⟨?_, (kinds id).trans held.2⟩
    rw [id?_close_own h alone, if_neg (own?_ne_shared base x hw)]
    exact held.1
  refine ⟨fun _ ha => ha, shared, .of_get? (fun n hn => ?_) (fun n hn => ?_), fun n hc => ?_,
    h.frame rfl rfl (by rintro ⟨⟩) rfl shared (by rintro ⟨⟩), fun _ n hn => ?_⟩
  · exact (id?_close_own h alone n).trans (if_neg hn.2.2)
  · refine get?_close_of_ne h alone hn.2.2 ?_
    rintro rfl
    exact hn.2.1 ⟨"sockets", by decide, rfl⟩
  · rw [Registry.account?, get?_close h alone (own?_ne_shared base x (by decide)),
      ← Registry.account?, Registry.account?_record h.sockets.1 hc rfl, sub_eq_add_neg,
      BitVec.ofInt_add]
    rfl
  · exact (id?_close_own h alone n).trans (if_pos hn)

end Close

theorem turn_call (h : Fits base r x) (live : x.closed = false) (k : Call)
    (free : ∀ a, k.address? = some a → x.first? = none → r.id? (own base a) = none) :
    Turn base r (x.recorder.call k r).2 x (x.tell k r) := by
  cases k with
  | listen host port => exact turn_listen h live (free _ rfl)
  | received bytes => exact turn_received h live bytes
  | sent bytes => exact turn_shared h live (by decide) h.bytesWritten rfl rfl rfl
  | exceptionOccurred => exact turn_shared h live (by decide) h.exceptions rfl rfl rfl

end Turns

end Component.Datagram

end Telemetry
