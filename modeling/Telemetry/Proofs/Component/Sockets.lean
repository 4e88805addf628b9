import Telemetry.Proofs.Component.Construction
import Telemetry.Proofs.Component.Socket

/-!
All datagram sockets of a registry below one root. As long as no two of them first listen at one
address, none ever meets what another one has to itself.
-/

namespace Telemetry.Component.Datagram

open Registry (Provides Spares continues_record)
open Setup (Enrolls)

variable {base : MetricName} {r r' : Registry}

structure Sockets where
  registry : Registry
  lives : List Life

theorem enrolls_new (root : MetricName) :
    Enrolls (root.below ["datagram"]) [] demands (new root) fun ids r =>
      (.ok (.ofIds (root.below ["datagram"]) ids), r.recordAll [(ids.getD 0 0, .add 1)]) :=
  new_eq root

namespace Sockets

/-- The sockets that were set up, less those that were closed. -/
def standing (s : Sockets) : Int := s.lives.length - s.lives.countP Life.closed

/-- No two sockets first listen at one address. -/
def Apart (s : Sockets) : Prop := (s.lives.filterMap Life.first?).Nodup

/-- Only sockets that are not closed are told something or closed. Others spare the names of
sockets. -/
inductive Step (root : MetricName) (s : Sockets) : Sockets → Prop
  | build {c : Datagram} {r : Registry} (h : (new root).run s.registry = (.ok c, r)) :
    Step root s ⟨r, s.lives ++ [.start c]⟩
  | call {before after : List Life} {x : Life} (hx : s.lives = before ++ x :: after)
    (live : x.closed = false) (k : Call) :
    Step root s ⟨(x.recorder.call k s.registry).2, before ++ x.tell k s.registry :: after⟩
  | close {before after : List Life} {x : Life} (hx : s.lives = before ++ x :: after)
    (live : x.closed = false) :
    Step root s ⟨(x.recorder.close s.registry).2, before ++ x.close :: after⟩
  | other {r : Registry} (h : Spares (Concerns (root.below ["datagram"])) s.registry r) :
    Step root s { s with registry := r }

def Reaches (root : MetricName) (r : Registry) (s : Sockets) : Prop :=
  Relation.ReflTransGen (Step root) ⟨r, []⟩ s

end Sockets

/-! ### What is there -/

/-- What there should be: the metrics in common once there is a socket, and what each socket that is
not closed has to itself. -/
def Present (base : MetricName) (lives : List Life) (n : MetricName) : Prop :=
  (lives ≠ [] ∧ Shared base n) ∨ ∃ x ∈ lives, x.closed = false ∧ x.own? base = some n

namespace Sockets

variable {s t : Sockets} {before after : List Life} {x x' : Life}

structure Kept (base : MetricName) (s : Sockets) : Prop where
  fits : ∀ x ∈ s.lives, Fits base s.registry x
  sockets : s.lives ≠ [] → s.registry.account? (base.below ["sockets"]) =
    some ⟨.counter, .ofInt 64 s.standing⟩
  names : ∀ n, Concerns base n → ((s.registry.id? n).isSome ↔ Present base s.lives n)

theorem Apart.first?_ne {a : String × Nat} (h : Apart ⟨r, before ++ x :: after⟩)
    (hx : x.first? = some a) {y : Life} (hy : y ∈ before ++ after) : y.first? ≠ some a := by
  intro same
  have moved : (before ++ x :: after).Perm (x :: (before ++ after)) := List.perm_middle
  rw [Apart, (moved.filterMap Life.first?).nodup_iff, List.filterMap_cons_some hx,
    List.nodup_cons] at h
  exact h.1 (List.mem_filterMap.mpr ⟨y, hy, same⟩)

theorem Apart.own?_ne {n : MetricName} (h : Apart ⟨r, before ++ x :: after⟩)
    (hx : x.own? base = some n) {y : Life} (hy : y ∈ before ++ after) : y.own? base ≠ some n := by
  intro same
  obtain ⟨a, ha, rfl⟩ := Option.map_eq_some_iff.mp hx
  obtain ⟨b, hb, same⟩ := Option.map_eq_some_iff.mp same
  exact h.first?_ne ha hy (own_inj.mp same ▸ hb)

/-- Sockets that are apart were so before. -/
theorem Apart.of_turned (h : Apart ⟨r', before ++ x' :: after⟩)
    (first : ∀ a, x.first? = some a → x'.first? = some a) : Apart ⟨r, before ++ x :: after⟩ := by
  refine h.sublist ?_
  rw [List.filterMap_append, List.filterMap_append]
  refine (List.Sublist.refl _).append ?_
  cases hx : x.first? with
  | none =>
    rw [List.filterMap_cons_none hx]
    exact (List.sublist_cons_self x' after).filterMap _
  | some a => rw [List.filterMap_cons_some hx, List.filterMap_cons_some (first a hx)]

theorem mem_middle {y : Life} : y ∈ before ++ x :: after ↔ y = x ∨ y ∈ before ++ after :=
  List.perm_middle.mem_iff.trans List.mem_cons

theorem present_iff {n : MetricName} (hs : ¬Shared base n) :
    Present base (before ++ x :: after) n ↔ (x.closed = false ∧ x.own? base = some n) ∨
      ∃ y ∈ before ++ after, y.closed = false ∧ y.own? base = some n := by
  simp only [Present, hs, and_false, false_or, mem_middle, or_and_right, exists_or,
    exists_eq_left]

theorem Kept.turn (h : Kept base ⟨r, before ++ x :: after⟩) (live : x.closed = false)
    (turn : Turn base r r' x x') (apart : Apart ⟨r', before ++ x' :: after⟩) :
    Kept base ⟨r', before ++ x' :: after⟩ where
  fits y hy := by
    rcases mem_middle.mp hy with rfl | hy
    · exact turn.fits
    · refine (h.fits y (mem_middle.mpr (.inr hy))).frame rfl rfl id rfl turn.shared fun _ n hn => ?_
      obtain ⟨a, -, rfl⟩ := Option.map_eq_some_iff.mp hn
      have spared : Concerns base (own base a) ∧ ¬Shared base (own base a) ∧
          x'.own? base ≠ some (own base a) :=
        ⟨concerns_own base a, not_shared_own a, fun same => apart.own?_ne same hy hn⟩
      exact ⟨turn.spares.id? _ spared, turn.spares.trace? _ spared⟩
  sockets _ := by
    rw [turn.sockets _ (h.sockets (by simp))]
    have counted : standing ⟨r', before ++ x' :: after⟩ =
        standing ⟨r, before ++ x :: after⟩ - x'.closed.toNat := by
      cases closed : x'.closed <;> simp [standing, live, closed]
      omega
    rw [counted]
  names n hn := by
    by_cases shared : Shared base n
    · have there : (r'.id? n).isSome := by
        obtain ⟨id, hid⟩ := Option.isSome_iff_exists.mp
          ((h.names n hn).mpr (.inl ⟨by simp, shared⟩))
        obtain ⟨kind, hk⟩ := Registry.exists_kind hid
        obtain ⟨w, hw, rfl⟩ := shared
        exact Option.isSome_of_eq_some (turn.shared w hw kind id ⟨hid, hk⟩).1
      exact iff_of_true there (.inl ⟨by simp, shared⟩)
    · rw [present_iff shared]
      by_cases mine : x'.own? base = some n
      · have alone : ¬∃ y ∈ before ++ after, y.closed = false ∧ y.own? base = some n :=
          fun ⟨y, hy, _, hn⟩ => apart.own?_ne mine hy hn
        rw [or_iff_left alone]
        cases closed : x'.closed with
        | true => simp [turn.gone closed n mine]
        | false => simp [(turn.fits.shows closed mine).1, mine]
      · have before_too : x.own? base ≠ some n := by
          intro hx
          obtain ⟨a, ha, rfl⟩ := Option.map_eq_some_iff.mp hx
          exact mine (congrArg (Option.map _) (turn.first a ha))
        rw [turn.spares.id? n ⟨hn, shared, mine⟩, h.names n hn, present_iff shared]
        simp [mine, before_too]

theorem Kept.alone {a : String × Nat} (h : Kept base ⟨r, before ++ x :: after⟩)
    (apart : Apart ⟨r', before ++ x' :: after⟩) (ha : x'.first? = some a) : Alone base r x a := by
  intro n begins there
  rcases (h.names n (.inr ⟨_, _, begins⟩)).mp there with ⟨-, shared⟩ | ⟨y, hy, -, hown⟩
  · exact absurd shared (not_shared_of_startsWith begins)
  · rcases mem_middle.mp hy with rfl | hy
    · exact hown
    · obtain ⟨b, hb, rfl⟩ := Option.map_eq_some_iff.mp hown
      obtain rfl : b = a := own_startsWith_iff.mp begins
      exact absurd hb (apart.first?_ne ha hy)

theorem Kept.alone_of_mem (h : Kept base s) (apart : s.Apart) (hx : x ∈ s.lives)
    (a : String × Nat) (ha : x.first? = some a) : Alone base s.registry x a := by
  obtain ⟨r, lives⟩ := s
  obtain ⟨before, after, rfl⟩ := List.append_of_mem hx
  exact h.alone apart ha

theorem Kept.call (h : Kept base ⟨r, before ++ x :: after⟩) (live : x.closed = false) (k : Call)
    (apart : Apart ⟨(x.recorder.call k r).2, before ++ x.tell k r :: after⟩) :
    Kept base ⟨(x.recorder.call k r).2, before ++ x.tell k r :: after⟩ := by
  refine h.turn live (turn_call (h.fits x (by simp)) live k fun a hk silent => ?_) apart
  have first : (x.tell k r).first? = some a := by
    rw [Life.first?, Life.tell, first?_concat, ← Life.first?, silent, Option.none_or, hk]
  refine Option.eq_none_iff_forall_ne_some.mpr fun id hid => ?_
  have mine := h.alone apart first _ (own_startsWith_iff.mpr rfl) (Option.isSome_of_eq_some hid)
  rw [Life.own?, silent] at mine
  cases mine

theorem Kept.close (h : Kept base ⟨r, before ++ x :: after⟩) (live : x.closed = false)
    (apart : Apart ⟨(x.recorder.close r).2, before ++ x.close :: after⟩) :
    Kept base ⟨(x.recorder.close r).2, before ++ x.close :: after⟩ :=
  h.turn live (turn_close (h.fits x (by simp)) fun _ ha => h.alone apart ha) apart

theorem concerns_shared (base : MetricName) {w : String} (hw : w ∈ sharedNames) :
    Concerns base (base.below [w]) := .inl ⟨w, hw, rfl⟩

theorem Kept.other (h : Kept base s) (spares : Spares (Concerns base) s.registry r) :
    Kept base { s with registry := r } where
  fits x hx := (h.fits x hx).frame rfl rfl id rfl
    (fun _ hw _ _ held => spares.holds (concerns_shared base hw) held) fun _ n hn => by
      obtain ⟨a, -, rfl⟩ := Option.map_eq_some_iff.mp hn
      exact ⟨spares.id? _ (concerns_own base a), spares.trace? _ (concerns_own base a)⟩
  sockets there := (spares.account? (concerns_shared base (by decide))).trans (h.sockets there)
  names n hn := by
    rw [spares.id? n hn]
    exact h.names n hn

theorem exists_demand_iff {n : MetricName} : (∃ d ∈ demands, d.name base = n) ↔ Shared base n := by
  simp [demands, Demand.name, Demand.counter, Demand.histogram, Demand.plain, Shared, sharedNames,
    eq_comm]

/-- A new socket has the metrics in common, and is counted. -/
theorem provides_of_run {root : MetricName} {c : Datagram}
    (hr : (new root).run r = (.ok c, r')) :
    ∃ r₁, Provides (root.below ["datagram"]) demands r r₁ ∧
      Fits (root.below ["datagram"]) r₁ (.start c) ∧ r' = r₁.record c.sockets (.add 1) := by
  obtain ⟨ids, r₁, provides, holds, rfl, rfl⟩ := (enrolls_new root).exists_of_run (by decide) hr
  refine ⟨r₁, provides, ?_, rfl⟩
  match ids, holds with
  | [sockets, exceptions, bytesWritten], .cons hs (.cons he (.cons hb .nil)) =>
    exact ⟨rfl, hs, he, hb, rfl, fun _ _ hl => by cases hl⟩

/-- Where there are no sockets yet, they are counted from nothing on. -/
theorem Kept.sockets_of_provides (h : Kept base s) (provides : Provides base demands s.registry r) :
    r.account? (base.below ["sockets"]) = some ⟨.counter, .ofInt 64 s.standing⟩ := by
  have shared : Shared base (base.below ["sockets"]) := ⟨"sockets", by decide, rfl⟩
  have there := h.names _ (.inl shared)
  by_cases first : s.lives = []
  · have free : s.registry.id? (base.below ["sockets"]) = none := by
      simpa [Present, first] using there
    obtain ⟨id, earlier, -, hid, hm⟩ := provides.new (.counter ["sockets"]) (by simp [demands]) free
    change r.id? (base.below ["sockets"]) = some id at hid
    change r.metric? id = some (.counter .zero) at hm
    rw [Registry.account?, Registry.get?, hid, Option.bind_some, hm, standing, first]
    rfl
  · have bound := there.mpr (.inl ⟨first, shared⟩)
    exact ((Spares.provides provides).account? bound).trans (h.sockets first)

theorem Kept.build {root : MetricName} {c : Datagram} (h : Kept (root.below ["datagram"]) s)
    (hr : (new root).run s.registry = (.ok c, r)) :
    Kept (root.below ["datagram"]) ⟨r, s.lives ++ [.start c]⟩ := by
  obtain ⟨r₁, provides, fits, rfl⟩ := provides_of_run hr
  have counted := h.sockets_of_provides provides
  generalize root.below ["datagram"] = base at *
  have continues := continues_record r₁ c.sockets (.add 1)
  have spares : Spares (fun n => (s.registry.id? n).isSome ∧ ¬Shared base n) s.registry
      (r₁.record c.sockets (.add 1)) := by
    refine ((Spares.provides provides).mono fun _ hn => hn.1).trans ?_
    refine (Spares.record fits.sockets.1 _).mono fun n hn => ?_
    rintro rfl
    exact hn.2 ⟨"sockets", by decide, rfl⟩
  refine ⟨fun y hy => ?_, fun _ => ?_, fun n hn => ?_⟩
  · rcases List.mem_append.mp hy with hy | hy
    · refine (h.fits y hy).frame rfl rfl id rfl
        (fun _ _ _ _ held => continues _ _ _ (provides.continues _ _ _ held)) fun live n hn => ?_
      obtain ⟨a, -, rfl⟩ := Option.map_eq_some_iff.mp hn
      have mine : (s.registry.id? (own base a)).isSome ∧ ¬Shared base (own base a) :=
        ⟨((h.fits y hy).shows live hn).1, not_shared_own a⟩
      exact ⟨spares.id? _ mine, spares.trace? _ mine⟩
    · obtain rfl := List.mem_singleton.mp hy
      exact fits.frame rfl rfl id rfl (fun _ _ _ _ held => continues _ _ _ held)
        fun _ _ hn => by cases hn
  · have one_more : standing ⟨r₁.record c.sockets (.add 1), s.lives ++ [.start c]⟩ =
        s.standing + 1 := by
      simp [standing, Life.start]
      omega
    refine (Registry.account?_record (e := .add 1) fits.sockets.1 counted rfl).trans ?_
    rw [one_more, BitVec.ofInt_add]
    rfl
  · have alive : Present base (s.lives ++ [.start c]) n ↔
        Present base s.lives n ∨ Shared base n := by
      have silent : (Life.start c).own? base = none := rfl
      by_cases shared : Shared base n <;> simp [Present, shared, or_and_right, exists_or, silent]
    rw [alive, ← h.names n hn, ← exists_demand_iff, ← provides.isSome_id?_iff]
    rfl

theorem Apart.of_step {root : MetricName} (h : t.Apart) (step : Step root s t) : s.Apart := by
  obtain ⟨r, lives⟩ := s
  cases step with
  | @build c _ hr =>
    have silent : (Life.start c).first? = none := rfl
    simpa [Apart, silent] using h
  | @call before after x hx live k =>
    subst hx
    exact h.of_turned fun _ ha => first?_tell_of_some k r ha
  | @close before after x hx live =>
    subst hx
    exact h.of_turned fun _ ha => ha
  | other => exact h

theorem Kept.step {root : MetricName} (h : Kept (root.below ["datagram"]) s) (step : Step root s t)
    (apart : t.Apart) : Kept (root.below ["datagram"]) t := by
  obtain ⟨r, lives⟩ := s
  cases step with
  | build hr => exact h.build hr
  | call hx live k =>
    subst hx
    exact h.call live k apart
  | close hx live =>
    subst hx
    exact h.close live apart
  | other spares => exact h.other spares

theorem Kept.run {root : MetricName} (start : Kept (root.below ["datagram"]) ⟨r, []⟩)
    (reached : Reaches root r s) (apart : s.Apart) : Kept (root.below ["datagram"]) s := by
  induction reached with
  | refl => exact start
  | tail _ step ih => exact (ih (apart.of_step step)).step step apart

theorem Kept.accepts (h : Kept base s) :
    ∀ d ∈ demands, ¬s.registry.Refuses (d.name base) d.kind := by
  intro d hd
  rw [Registry.not_refuses_iff]
  rcases s.lives.eq_nil_or_concat with none_there | ⟨lives, x, someone⟩
  · left
    have shared : Shared base (d.name base) := exists_demand_iff.mp ⟨d, hd, rfl⟩
    simpa [Present, none_there, shared] using h.names _ (.inl shared)
  · right
    have fits := h.fits x (by simp [someone])
    simp only [demands, List.mem_cons, List.not_mem_nil, or_false] at hd
    rcases hd with rfl | rfl | rfl
    · exact ⟨_, fits.sockets⟩
    · exact ⟨_, fits.exceptions⟩
    · exact ⟨_, fits.bytesWritten⟩

end Sockets

/-- What sockets show at any time, and what comes of it if one of them is closed. -/
structure Shows (base : MetricName) (s : Sockets) : Prop where
  sockets : s.lives ≠ [] →
    s.registry.account? (base.below ["sockets"]) = some ⟨.counter, .ofInt 64 s.standing⟩
  exact_sockets : s.lives ≠ [] → s.standing < 2 ^ 63 →
    s.registry.Counts (base.below ["sockets"]) .counter s.standing
  names : ∀ n, Concerns base n → ((s.registry.id? n).isSome ↔ Present base s.lives n)
  counts : ∀ x ∈ s.lives, x.closed = false → ∀ a, x.first? = some a →
    s.registry.Counts (own base a) .histogram (heard x.calls)
  unheard : ∀ x ∈ s.lives, x.first? = none →
    ∀ bytes, x.recorder.received bytes s.registry = s.registry
  removed : ∀ x ∈ s.lives, x.closed = false →
    (x.recorder.close s.registry).1 = if x.first?.isSome then 1 else 0
  id?_close : ∀ x ∈ s.lives, x.closed = false → ∀ n,
    (x.recorder.close s.registry).2.id? n =
      if x.own? base = some n then none else s.registry.id? n
  get?_close : ∀ x ∈ s.lives, x.closed = false → ∀ n, x.own? base ≠ some n →
    n ≠ base.below ["sockets"] → (x.recorder.close s.registry).2.get? n = s.registry.get? n

theorem Sockets.Kept.shows {s : Sockets} (h : s.Kept base) (apart : s.Apart) : Shows base s where
  sockets := h.sockets
  exact_sockets there few := by
    refine Registry.counts_of_counter (h.sockets there) ⟨?_, few⟩
    have := s.lives.countP_le_length (p := Life.closed)
    rw [Sockets.standing]
    omega
  names := h.names
  counts x hx live a ha := ((h.fits x hx).shows live (congrArg (Option.map _) ha)).2
  unheard x hx silent bytes := received_of_silent (h.fits x hx) silent bytes
  removed x hx live := by
    rw [removed_close (h.fits x hx) (h.alone_of_mem apart hx) live, Life.own?]
    cases x.first? <;> rfl
  id?_close x hx _ := id?_close_own (h.fits x hx) (h.alone_of_mem apart hx)
  get?_close x hx _ _ := get?_close_of_ne (h.fits x hx) (h.alone_of_mem apart hx)

/-- Where no metric concerned them before, and as long as no two first listen at one address,
datagram sockets are counted while they are not closed, each has just the metric of where it first
listened, which counts what came from then on, and it goes with this one when it is closed. -/
theorem sockets_accounted (root : MetricName) (r : Registry)
    (free : ∀ n, Concerns (root.below ["datagram"]) n → r.id? n = none) (s : Sockets)
    (reached : Sockets.Reaches root r s) (apart : s.Apart) :
    (∃ c r', (new root).run s.registry = (.ok c, r')) ∧ Shows (root.below ["datagram"]) s := by
  have start : Sockets.Kept (root.below ["datagram"]) ⟨r, []⟩ :=
    ⟨by simp, fun h => absurd rfl h, fun n hn => by simp [free n hn, Present]⟩
  have kept := start.run reached apart
  refine ⟨?_, kept.shows apart⟩
  obtain ⟨ids, r₁, hr, -, -⟩ := (enrolls_new root).run_of_accepted (by decide) kept.accepts
  exact ⟨_, _, hr⟩

/-- One call after another is told to a socket. -/
theorem Sockets.Reaches.tell {root : MetricName} (before : List Life) {after : List Life}
    {x : Life} {s : Registry} (reached : Reaches root r ⟨s, before ++ x :: after⟩)
    (live : x.closed = false) (calls : List Call) :
    ∃ s' y, Reaches root r ⟨s', before ++ y :: after⟩ ∧ y.closed = false ∧
      y.calls = x.calls ++ calls := by
  induction calls generalizing s x with
  | nil => exact ⟨s, x, reached, live, (List.append_nil _).symm⟩
  | cons k calls ih =>
    obtain ⟨s', y, reached', live', told⟩ := ih (reached.tail (.call rfl live k)) live
    exact ⟨s', y, reached', live', by simp [told, Life.tell]⟩

/-- Of two sockets one listens. What it received before is not counted, its second address does not
count either, and it does not matter that somebody looks at them in between. -/
theorem sockets_accounted_app :
    let root := MetricName.ofNode (.escape "app")
    let base := root.below ["datagram"]
    let r := Registry.withClock (.startingAt 0)
    (∀ n, Concerns base n → r.id? n = none) ∧ ∃ s, Sockets.Reaches root r s ∧ s.Apart ∧
      s.registry.Counts (base.below ["sockets"]) .counter 2 ∧
      s.registry.Counts (own base ("localhost", 9000)) .histogram 1 ∧
      s.registry.id? (own base ("localhost", 9001)) = none ∧
      s.lives.map (fun x => (x.recorder.close s.registry).1) = [1, 0] := by
  intro root base r
  have free (n : MetricName) (_ : Concerns base n) : r.id? n = none := Registry.id?_withClock _ n
  obtain ⟨⟨c, r₁, hc⟩, -⟩ := sockets_accounted root r free ⟨r, []⟩ .refl .nil
  have first : Sockets.Reaches root r ⟨r₁, [.start c]⟩ := .tail .refl (.build hc)
  obtain ⟨⟨d, r₂, hd⟩, -⟩ := sockets_accounted root r free _ first .nil
  have second : Sockets.Reaches root r ⟨r₂, [.start c, .start d]⟩ := first.tail (.build hd)
  obtain ⟨r₃, x, third, openx, callsx⟩ := second.tell [] rfl
    [.received 10, .listen "localhost" 9000, .listen "localhost" 9001, .received 20]
  have looked : Sockets.Reaches root r ⟨(r₃.readFrom base).2, [x, .start d]⟩ :=
    third.tail (.other (.readFrom _ r₃ base))
  obtain ⟨r₄, y, fourth, openy, callsy⟩ := looked.tell [x] rfl [.sent 30, .exceptionOccurred]
  change Sockets.Reaches root r ⟨r₄, [x, y]⟩ at fourth
  have listens : x.first? = some ("localhost", 9000) := by rw [Life.first?, callsx]; rfl
  have silent : y.first? = none := by rw [Life.first?, callsy]; rfl
  have apart : Sockets.Apart ⟨r₄, [x, y]⟩ := by simp [Sockets.Apart, listens, silent]
  obtain ⟨-, shows⟩ := sockets_accounted root r free _ fourth apart
  have two : Sockets.standing ⟨r₄, [x, y]⟩ = 2 := by simp [Sockets.standing, openx, openy]
  have once : heard x.calls = 1 := by rw [callsx]; rfl
  refine ⟨free, _, fourth, apart, ?_, ?_, ?_, ?_⟩
  · exact two ▸ shows.exact_sockets (by simp) (by rw [two]; decide)
  · have counted := shows.counts x (by simp) openx _ listens
    rwa [once] at counted
  · have absent : ¬Present base [x, y] (own base ("localhost", 9001)) := by
      simp [Present, not_shared_own, Life.own?, listens, silent, own_inj]
    exact Option.not_isSome_iff_eq_none.mp (mt (shows.names _ (concerns_own base _)).mp absent)
  · have one := shows.removed x (by simp) openx
    have none_there := shows.removed y (by simp) openy
    rw [listens] at one
    rw [silent] at none_there
    exact congrArg₂ (fun m n => [m, n]) one none_there

end Telemetry.Component.Datagram
