import Telemetry.Pattern.Standard
import Telemetry.Proofs.Component.Construction
import Telemetry.Proofs.Component.Messages
import Telemetry.Proofs.Component.Traces
import Telemetry.Proofs.Metric.Throughput

/-!
Rates of the last second at event buses. A message is marked in two meters, that of its lane and
that of its side. Their buckets roll over at different moments, but each tells what was marked in it
while the clock did not go back, and so the rate of a lane is the sum of those of its sides, cut off
at 32 bits.
-/

namespace Telemetry

open OneSecond (cap eventsBefore)
open OneSecondCounter (toNats)

def Event.mark? : Event → Option UInt64
  | .mark n => some n
  | _ => none

theorem Nanos.toNat_seconds_mono {t u : Nanos} (h : t ≤ u) : t.seconds.toNat ≤ u.seconds.toNat := by
  rw [Nanos.seconds, Nanos.seconds, UInt64.toNat_div, UInt64.toNat_div]
  exact Nat.div_le_div_right (UInt64.le_iff_toNat_le.mp h)

theorem OneSecondCounter.markAll_append (c : OneSecondCounter) (ms ns : List (UInt64 × UInt64)) :
    c.markAll (ms ++ ns) = (c.markAll ms).markAll ns := List.foldl_append

namespace Registry

variable {r r' : Registry} {base name : MetricName} {id : MetricId} {kind : Kind}
  {marks : List (UInt64 × UInt64)}

def oneSecondRate? (r : Registry) (name : MetricName) : Option UInt32 :=
  (r.get? name).bind (Metric.oneSecondRate? r.now)

/-- The name has a throughput meter, whose seconds come from these marks. -/
def Marked (r : Registry) (name : MetricName) (marks : List (UInt64 × UInt64)) : Prop :=
  ∃ m, r.get? name = some (.throughputMeter m) ∧ m.lastSecond = OneSecondCounter.zero.markAll marks

/-- The amounts of the marks for one metric. -/
def marksIn (id : MetricId) (es : List (MetricId × Event)) : List UInt64 :=
  (es.filter (·.1 = id)).filterMap (·.2.mark?)

theorem marksIn_append (id : MetricId) (es fs : List (MetricId × Event)) :
    marksIn id (es ++ fs) = marksIn id es ++ marksIn id fs := by
  simp only [marksIn, List.filter_append, List.filterMap_append]

theorem marksIn_eq_nil {es : List (MetricId × Event)}
    (h : ∀ e ∈ es, e.1 = id → e.2.mark? = none) : marksIn id es = [] := by
  simpa [marksIn, List.filterMap_eq_nil_iff] using h

namespace Marked

theorem congr_get? (h : r.Marked name marks) (same : r'.get? name = r.get? name) :
    r'.Marked name marks := by
  rwa [Marked, same]

theorem record (h : r.Marked name marks) (hid : r.id? name = some id) (i : MetricId) (e : Event) :
    (r.record i e).Marked name (marks ++ (marksIn id [(i, e)]).map (r.now.seconds, ·)) := by
  obtain ⟨m, hm, made⟩ := h
  by_cases same : i = id
  · subst same
    have got : (r.record i e).get? name = some (Metric.record r.now e (.throughputMeter m)) := by
      rw [Registry.record, get?_modify, if_pos hid, hm]
      rfl
    cases e with
    | mark n =>
      refine ⟨m.mark r.now n, got, ?_⟩
      rw [OneSecondCounter.markAll_append, ← made]
      simp [marksIn, Event.mark?, OneSecondCounter.markAll, ThroughputMeter.mark]
    | add | value | duration =>
      refine ⟨m, got, ?_⟩
      simpa [marksIn, Event.mark?] using made
  · have got : (r.record i e).get? name = some (.throughputMeter m) := by
      rw [Registry.record, get?_modify, hid, if_neg fun h => same (Option.some.inj h).symm, hm]
    exact ⟨m, got, by simpa [marksIn, same] using made⟩

theorem recordAll (h : r.Marked name marks) (hid : r.id? name = some id)
    (es : List (MetricId × Event)) :
    (r.recordAll es).Marked name (marks ++ (marksIn id es).map (r.now.seconds, ·)) := by
  induction es generalizing r marks with
  | nil => exact (List.append_nil marks).symm ▸ h
  | cons e es ih =>
    rw [← List.singleton_append, marksIn_append, List.map_append, ← List.append_assoc]
    exact ih (h.record hid e.1 e.2) hid

/-- What was marked is read off the rate of the last second, unless the clock went back. -/
theorem rate (h : r.Marked name marks) (small : r.now.seconds.toNat < 2 ^ 32)
    (sorted : marks.Pairwise (·.1.toNat ≤ ·.1.toNat))
    (past : ∀ m ∈ marks, m.1.toNat ≤ r.now.seconds.toNat) :
    ∃ rate, r.oneSecondRate? name = some rate ∧
      rate.toNat = min cap (eventsBefore r.now.seconds.toNat (marks.map toNats)) := by
  obtain ⟨m, hm, made⟩ := h
  refine ⟨m.oneSecondRate r.now, by rw [oneSecondRate?, hm]; rfl, ?_⟩
  rw [ThroughputMeter.oneSecondRate, made, OneSecondCounter.rate_markAll_low]
  have past : ∀ m ∈ marks.map toNats, m.1 ≤ r.now.seconds.toNat := List.forall_mem_map.mpr past
  refine OneSecond.rateAfter_low (List.pairwise_map.mpr sorted) past fun m hm => ?_
  -- All seconds are within 32 bits, so none looks as late as another one.
  have before := past m hm
  exact .inl (by omega)

end Marked

theorem get?_metricIfFree (hid : r.id? name = some id) (name? : Except NameError MetricName) :
    (r.metricIfFree name? kind).2.get? name = r.get? name := by
  cases name? with
  | error e => rfl
  | ok other =>
    have same : (r.typed other kind).2.get? name = r.get? name := by
      rw [typed_eq, getOrCreate]
      rcases r.obtain_snd_cases other kind (Metric.new? kind r.now) with ho | ⟨m, -, free, ho⟩ <;>
        rw [ho]
      have apart : name ≠ other := by
        rintro rfl
        rw [free] at hid
        cases hid
      rw [get?, id?_insert_of_ne r m apart, get?, hid]
      exact metric?_insert_of_lt r other m (id_lt hid)
    rw [metricIfFree]
    split
    · next ho => rwa [ho] at same
    · next ho => rwa [ho] at same

theorem Spares.marked {p : MetricName → Prop} (h : Spares p r r') (hn : p name)
    (marked : r.Marked name marks) : r'.Marked name marks := by
  obtain ⟨m, hm, made⟩ := marked
  have left := h.trace? name hn
  rw [Registry.trace?, Registry.trace?, hm] at left
  obtain ⟨m', hm', same⟩ := Option.map_eq_some_iff.mp left
  obtain ⟨kind, -, seconds⟩ := Trace.mk.inj same
  cases m' with
  | throughputMeter m' => exact ⟨m', hm', (Option.some.inj seconds).trans made⟩
  | _ => cases kind

end Registry

namespace Component

open Registry (Marked Provides Spares marksIn)
open Setup (Enrolls)

variable {r r' : Registry} {base : MetricName}

/-- The word of a lane as a whole, or of one side of it. -/
def Lane.word (l : Lane) : Option Bool → String
  | none => l.text
  | some isLocal => l.side isLocal

theorem Lane.word_inj (l m : Lane) :
    ∀ a b : Option Bool, l.word a = m.word b ↔ l = m ∧ a = b := by
  simp only [Option.forall]
  cases l <;> cases m <;> decide

def Lane.place (base : MetricName) (l : Lane) (side? : Option Bool) : MetricName :=
  base.below ["messages", l.word side?]

def Traffic.meter (t : Traffic) : Option Bool → MetricId
  | none => t.all
  | some isLocal => t.side isLocal

/-- A message, or so many deliveries of one, on one side of a lane. -/
structure Passage where
  lane : Lane
  isLocal : Bool
  count : UInt64

/-- Whether this counts for the lane, as a whole or on one side. -/
def Passage.on (p : Passage) (l : Lane) (side? : Option Bool) : Bool :=
  p.lane = l ∧ (side? = none ∨ side? = some p.isLocal)

namespace EventBus

def Deed.passages : Deed → List Passage
  | .sent publish isLocal => [⟨if publish then .published else .sent, isLocal, 1⟩]
  | .received isLocal handlers =>
    ⟨.received, isLocal, 1⟩ :: if handlers = 0 then [] else [⟨.delivered, isLocal, handlers⟩]
  | _ => []

/-- All that passes, with the seconds in which it does. -/
def passing (journal : List (UInt64 × Deed)) : List (UInt64 × Passage) :=
  journal.flatMap fun e => e.2.passages.map (e.1, ·)

/-- What of it counts for a lane, as marks. -/
def marks (l : Lane) (side? : Option Bool) (journal : List (UInt64 × Deed)) :
    List (UInt64 × UInt64) :=
  ((passing journal).filter (·.2.on l side?)).map fun m => (m.1, m.2.count)

section Marks

variable {l : Lane} {side? : Option Bool} {journal : List (UInt64 × Deed)}

theorem passing_sorted (h : journal.Pairwise (·.1.toNat ≤ ·.1.toNat)) :
    (passing journal).Pairwise (·.1.toNat ≤ ·.1.toNat) := by
  refine List.pairwise_flatMap.mpr ⟨fun e _ => ?_, h.imp fun le m hm m' hm' => ?_⟩
  · exact List.pairwise_map.mpr (List.pairwise_of_forall fun _ _ => Nat.le_refl _)
  · obtain ⟨p, -, rfl⟩ := List.mem_map.mp hm
    obtain ⟨p', -, rfl⟩ := List.mem_map.mp hm'
    exact le

theorem marks_sorted (h : journal.Pairwise (·.1.toNat ≤ ·.1.toNat)) :
    (marks l side? journal).Pairwise (·.1.toNat ≤ ·.1.toNat) :=
  List.pairwise_map.mpr ((passing_sorted h).filter _)

theorem second_of_mem_marks {m : UInt64 × UInt64} (h : m ∈ marks l side? journal) :
    ∃ e ∈ journal, m.1 = e.1 := by
  obtain ⟨p, hp, rfl⟩ := List.mem_map.mp h
  obtain ⟨e, he, hm⟩ := List.mem_flatMap.mp (List.mem_of_mem_filter hp)
  obtain ⟨p, -, rfl⟩ := List.mem_map.mp hm
  exact ⟨e, he, rfl⟩

/-- What counts for a lane is what counts for its sides. -/
theorem eventsBefore_marks (now : Nat) (l : Lane) (journal : List (UInt64 × Deed)) :
    eventsBefore now ((marks l none journal).map toNats) =
      eventsBefore now ((marks l (some true) journal).map toNats) +
        eventsBefore now ((marks l (some false) journal).map toNats) := by
  unfold marks
  induction passing journal with
  | nil => rfl
  | cons m ms ih =>
    by_cases lane : m.2.lane = l
    · cases side : m.2.isLocal <;>
        simp [Passage.on, lane, side, OneSecond.eventsBefore_cons] at ih ⊢ <;> omega
    · simp [Passage.on, lane] at ih ⊢
      exact ih

end Marks

theorem place_mem_demands {l : Lane} (hl : l.kind = .throughputMeter) (side? : Option Bool) :
    Demand.throughputMeter ["messages", l.word side?] ∈ demands := by
  cases l with
  | pending => cases hl
  | _ =>
    rcases side? with _ | _ | _ <;> simp [demands, Traffic.demands, Lane.word, Lane.side, Lane.text]

theorem marked_of_provides (h : Provides base demands r r') {l : Lane}
    (hl : l.kind = .throughputMeter) (side? : Option Bool)
    (free : r.id? (l.place base side?) = none) : r'.Marked (l.place base side?) [] := by
  obtain ⟨id, earlier, -, hid, hm⟩ := h.new _ (place_mem_demands hl side?) free
  refine ⟨.startingAt r.now, ?_, rfl⟩
  change r'.id? (l.place base side?) = some id at hid
  rw [Registry.get?, hid]
  exact hm

/-! ### One deed -/

section Runs

variable [Pattern.Engine] {c : EventBus}

def traffic (c : EventBus) : Lane → Traffic
  | .pending => c.allPending
  | .received => c.received
  | .delivered => c.delivered
  | .sent => c.sent
  | .published => c.published

theorem meter_mem_handles (c : EventBus) (l : Lane) (side? : Option Bool) :
    (l.place c.base side?, (c.traffic l).meter side?) ∈ c.handles := by
  have own : (l.place c.base side?, (c.traffic l).meter side?) ∈
      (c.traffic l).handles c.base l := by
    rcases side? with _ | _ | _ <;> simp [Lane.place, Lane.word, Traffic.meter, Traffic.handles,
      Traffic.side]
  obtain ⟨pending, received, delivered, sent, published⟩ := c.traffic_subset_handles
  cases l with
  | pending => exact pending own
  | received => exact received own
  | delivered => exact delivered own
  | sent => exact sent own
  | published => exact published own

/-- The metrics of the event bus are those under its names. -/
def Bound (c : EventBus) (r : Registry) : Prop := ∀ e ∈ c.handles, r.id? e.1 = some e.2

theorem Bound.meter (h : c.Bound r) (l : Lane) (side? : Option Bool) :
    r.id? (l.place c.base side?) = some ((c.traffic l).meter side?) :=
  h _ (c.meter_mem_handles l side?)

theorem Bound.meter_inj (h : c.Bound r) {l m : Lane} {a b : Option Bool} :
    (c.traffic l).meter a = (c.traffic m).meter b ↔ l = m ∧ a = b := by
  constructor
  · intro same
    have names := Registry.name_unique (h.meter m b) (same ▸ h.meter l a)
    have words := MetricName.below_inj.mp names
    exact (Lane.word_inj l m a b).mp (List.cons.inj (List.cons.inj words).2).1
  · rintro ⟨rfl, rfl⟩
    rfl

theorem Bound.meter_ne (h : c.Bound r) {w : String} {id : MetricId}
    (hm : (c.base.below ["messages", w], id) ∈ c.handles)
    (apart : w ∈ ["bytes-read", "bytes-written", "reply-failures"]) (l : Lane)
    (side? : Option Bool) : id ≠ (c.traffic l).meter side? := by
  rintro rfl
  have names := Registry.name_unique (h.meter l side?) (h _ hm)
  have words := (List.cons.inj (List.cons.inj (MetricName.below_inj.mp names)).2).1
  have told : ∀ side?, ∀ v ∈ ["bytes-read", "bytes-written", "reply-failures"],
      v ≠ l.word side? := by
    simp only [Option.forall]
    cases l <;> decide
  exact told side? w apart words

/-- The events mark what passes. -/
def Marks (c : EventBus) (es : List (MetricId × Event)) (ps : List Passage) : Prop :=
  ∀ l side?, marksIn ((c.traffic l).meter side?) es =
    (ps.filter (·.on l side?)).map Passage.count

theorem Marks.append {es fs : List (MetricId × Event)} {ps qs : List Passage}
    (h : c.Marks es ps) (h' : c.Marks fs qs) : c.Marks (es ++ fs) (ps ++ qs) := by
  intro l side?
  rw [Registry.marksIn_append, h, h', List.filter_append, List.map_append]

theorem Marks.quiet {es : List (MetricId × Event)} (h : ∀ e ∈ es, e.2.mark? = none) :
    c.Marks es [] :=
  fun _ _ => Registry.marksIn_eq_nil fun e he _ => h e he

theorem Bound.marks_other (h : c.Bound r) (w : String) {id : MetricId} (n : UInt64)
    (hm : (c.base.below ["messages", w], id) ∈ c.handles)
    (apart : w ∈ ["bytes-read", "bytes-written", "reply-failures"]) :
    c.Marks [(id, .mark n)] [] := by
  intro l side?
  refine Registry.marksIn_eq_nil fun e he same => ?_
  obtain rfl := List.mem_singleton.mp he
  exact absurd same (h.meter_ne hm apart l side?)

/-- A passage is marked once in each meter that it counts for. -/
theorem Bound.marks_mark (h : c.Bound r) (p : Passage) :
    c.Marks ((c.traffic p.lane).mark p.isLocal p.count) [p] := by
  intro l side?
  have hit (b : Option Bool) : (c.traffic p.lane).meter b = (c.traffic l).meter side? ↔
      p.lane = l ∧ b = side? := h.meter_inj
  change marksIn _ [((c.traffic p.lane).meter none, .mark p.count),
    ((c.traffic p.lane).meter (some p.isLocal), .mark p.count)] = _
  simp only [marksIn, List.filter_cons, List.filter_nil, hit, Passage.on]
  by_cases lane : p.lane = l
  · cases side? with
    | none => simp [lane, Event.mark?]
    | some b => by_cases side : p.isLocal = b <;> simp [lane, side, Ne.symm, Event.mark?]
  · simp [lane]

theorem messageReceived_eq (c : EventBus) (isLocal : Bool) (handlers : UInt64) (r : Registry) :
    c.messageReceived isLocal handlers r = r.recordAll
      ([(c.pending, .add handlers.toInt64), (c.pendingSide isLocal, .add handlers.toInt64)] ++
        c.received.mark isLocal 1 ++
          if handlers = 0 then [] else c.delivered.mark isLocal handlers) := by
  rw [messageReceived]
  split
  · rw [List.append_nil]
  · exact List.foldl_append.symm

theorem Bound.marks_received (h : c.Bound r) (isLocal : Bool) (handlers : UInt64) :
    c.Marks
      ([(c.pending, .add handlers.toInt64), (c.pendingSide isLocal, .add handlers.toInt64)] ++
        c.received.mark isLocal 1 ++
          if handlers = 0 then [] else c.delivered.mark isLocal handlers)
      (Deed.received isLocal handlers).passages := by
  have waiting : c.Marks [(c.pending, .add handlers.toInt64),
      (c.pendingSide isLocal, .add handlers.toInt64)] [] := .quiet (by simp [Event.mark?])
  have arrived := waiting.append (h.marks_mark ⟨.received, isLocal, 1⟩)
  have delivered : c.Marks (if handlers = 0 then [] else c.delivered.mark isLocal handlers)
      (if handlers = 0 then [] else [⟨.delivered, isLocal, handlers⟩]) := by
    split
    · exact .quiet (by simp)
    · exact h.marks_mark ⟨.delivered, isLocal, handlers⟩
  exact arrived.append delivered

/-- A deed is a record of events that mark what passes by it, but for a timer that may be new. -/
theorem Bound.exists_events (h : c.Bound r) {k : Deed} {taken given : List Token}
    (acts : c.Acts r k taken given r') : ∃ es, c.Marks es k.passages ∧
      ∀ name id, r.id? name = some id → r'.get? name = (r.recordAll es).get? name := by
  cases acts with
  | registered address =>
    refine ⟨[(c.handlers, .add 1)], .quiet (by simp [Event.mark?]), fun name id hid => ?_⟩
    cases hn : c.rules.node? address with
    | none => rw [handlerRegistered_of_none hn]; rfl
    | some node =>
      rw [handlerRegistered_of_some hn Prod.mk.eta.symm]
      exact Registry.get?_metricIfFree (r := r.record c.handlers (.add 1)) hid _
  | unregistered _ =>
    exact ⟨[(c.handlers, .add (-1))], .quiet (by simp [Event.mark?]), fun _ _ _ => rfl⟩
  | sent publish isLocal =>
    refine ⟨(if publish then c.published else c.sent).mark isLocal 1, ?_, fun _ _ _ => rfl⟩
    cases publish with
    | true => exact h.marks_mark ⟨.published, isLocal, 1⟩
    | false => exact h.marks_mark ⟨.sent, isLocal, 1⟩
  | received isLocal handlers =>
    refine ⟨_, h.marks_received isLocal handlers, fun _ _ _ => ?_⟩
    rw [messageReceived_eq]
  | begun _ isLocal =>
    exact ⟨[(c.pending, .add (-1)), (c.pendingSide isLocal, .add (-1))],
      .quiet (by simp [Event.mark?]), fun _ _ _ => rfl⟩
  | ended h' m =>
    rw [endHandleMessage]
    cases h'.2.timer with
    | none => exact ⟨[], .quiet (by simp), fun _ _ _ => rfl⟩
    | some id =>
      exact ⟨[(id, .duration (r.now.since m.start))], .quiet (by simp [Event.mark?]),
        fun _ _ _ => rfl⟩
  | bytesRead n =>
    exact ⟨_, h.marks_other "bytes-read" n (by simp [handles]) (by simp), fun _ _ _ => rfl⟩
  | bytesWritten n =>
    exact ⟨_, h.marks_other "bytes-written" n (by simp [handles]) (by simp), fun _ _ _ => rfl⟩
  | replyFailure =>
    exact ⟨_, h.marks_other "reply-failures" 1 (by simp [handles]) (by simp), fun _ _ _ => rfl⟩

theorem Acts.clock_eq {k : Deed} {taken given : List Token} (acts : c.Acts r k taken given r') :
    r'.clock = r.clock := by
  obtain ⟨call, rfl⟩ : ∃ call, r' = c.call call r := by
    cases acts with
    | registered address => exact ⟨.handlerRegistered address, rfl⟩
    | unregistered _ => exact ⟨.handlerUnregistered, rfl⟩
    | sent publish isLocal => exact ⟨.messageSent publish isLocal, rfl⟩
    | received isLocal handlers => exact ⟨.messageReceived isLocal handlers, rfl⟩
    | begun _ isLocal => exact ⟨.beginHandleMessage isLocal, rfl⟩
    | ended h m => exact ⟨.endHandleMessage h.2 m, rfl⟩
    | bytesRead n => exact ⟨.messageRead n, rfl⟩
    | bytesWritten n => exact ⟨.messageWritten n, rfl⟩
    | replyFailure => exact ⟨.replyFailure, rfl⟩
  exact (c.uses_call call r).clock_eq

/-- What a deed marks is what passes by it. -/
theorem Bound.marked_of_acts (h : c.Bound r) {k : Deed} {taken given : List Token}
    (acts : c.Acts r k taken given r') {l : Lane} {side? : Option Bool}
    {journal : List (UInt64 × Deed)}
    (marked : r.Marked (l.place c.base side?) (marks l side? journal)) :
    r'.Marked (l.place c.base side?) (marks l side? (journal ++ [(r.now.seconds, k)])) := by
  have hid := h.meter l side?
  obtain ⟨es, told, same⟩ := h.exists_events acts
  have all := (marked.recordAll hid es).congr_get? (same _ _ hid)
  rw [told, List.map_map] at all
  simpa [marks, passing, List.filter_map, Function.comp_def] using all

/-! ### Runs -/

/-- The recorders there are, the tokens that are out, and what was done in which second. -/
structure Shift where
  registry : Registry
  recorders : List EventBus
  tokens : List Token
  journal : List (UInt64 × Deed)

namespace Shift

variable {s t : Shift}

def desk (s : Shift) : Desk.State EventBus Deed Token :=
  ⟨s.registry, s.recorders, s.tokens, s.journal.map (·.2)⟩

/-- Others spare the names of event buses, and the clock does not go back. -/
inductive Step (base : MetricName) (s : Shift) : Shift → Prop
  | build {c : EventBus} {r : Registry} (h : (buses base).builds s.registry c r) :
    Step base s { s with registry := r, recorders := c :: s.recorders }
  | act {c : EventBus} {k : Deed} {taken given rest : List Token} {r : Registry}
    (hc : c ∈ s.recorders) (h : c.Acts s.registry k taken given r)
    (hp : s.tokens.Perm (taken ++ rest)) :
    Step base s ⟨r, s.recorders, given ++ rest, s.journal ++ [(s.registry.now.seconds, k)]⟩
  | other {r : Registry} (h : Spares (fun name => ((buses base).watched name).isSome) s.registry r)
    (forward : s.registry.now ≤ r.now) : Step base s { s with registry := r }

/-- What may come after the first recorder was set up. -/
def Reaches (base : MetricName) (c : EventBus) (r : Registry) (s : Shift) : Prop :=
  Relation.ReflTransGen (Step base) ⟨r, [c], [], []⟩ s

theorem Step.desk (h : Step base s t) : (buses base).Step s.desk t.desk := by
  cases h with
  | build h => exact .build h
  | @act c k taken given rest r hc h hp =>
    have acted := Desk.Step.act (d := buses base) (s := s.desk) hc h hp
    simpa [Shift.desk] using acted
  | other h _ => exact .other h.leaves

theorem Reaches.desk {c : EventBus} (h : Reaches base c r s) : (buses base).Reaches c r s.desk := by
  induction h with
  | refl => exact .refl
  | tail _ step ih => exact ih.tail step.desk

end Shift

theorem provides_of_run {root : MetricName} {rules : RuleList} {c : EventBus}
    (h : (new root rules).run r = (.ok c, r')) :
    Provides (root.below ["eventbus"]) demands r r' := by
  have enrolls : Enrolls (root.below ["eventbus"]) [] demands (new root rules) fun ids r =>
      (.ok (.ofIds (root.below ["eventbus"]) rules ids), r.recordAll []) := new_eq root rules
  obtain ⟨ids, r₁, provides, -, -, rfl⟩ := enrolls.exists_of_run (by decide) h
  exact provides

theorem watched_of_mem_handles (c : EventBus) :
    ∀ e ∈ c.handles, ∃ kind, layout.schema c.base e.1 = some kind := by
  simp only [handles, Traffic.handles, List.forall_mem_append, List.forall_mem_cons,
    List.not_mem_nil, false_imp_iff, implies_true, and_true, MetricName.below_eq_join,
    Layout.schema_join]
  and_intros <;> exact ⟨_, rfl⟩

namespace Shift

variable {s t : Shift} {c : EventBus}

/-- The throughput meters have the marks of all that was done, in the order of their seconds. -/
structure Kept (base : MetricName) (s : Shift) : Prop where
  marked : ∀ l side?, Lane.kind l = .throughputMeter →
    s.registry.Marked (l.place base side?) (marks l side? s.journal)
  sorted : s.journal.Pairwise (·.1.toNat ≤ ·.1.toNat)
  past : ∀ e ∈ s.journal, e.1.toNat ≤ s.registry.now.seconds.toNat

theorem Kept.step (h : Kept base s)
    (bound : ∀ c ∈ s.recorders, c.base = base ∧ c.Bound s.registry)
    (there : ∃ c : EventBus, c.base = base ∧ c.Bound s.registry) (step : Step base s t) :
    Kept base t := by
  cases step with
  | @build c r hb =>
    obtain ⟨root, rules, hr, rfl⟩ := hb
    have named : c.base = root.below ["eventbus"] := (within_new root rules).post _ _ (by rw [hr])
    have provides := provides_of_run hr
    obtain ⟨c', same, bound'⟩ := there
    refine ⟨fun l side? hl => ?_, h.sorted, fun e he => ?_⟩
    · have held := bound'.meter l side?
      rw [same] at held
      exact (h.marked l side? hl).congr_get? (provides.get? held)
    · rw [Registry.now, provides.clock]
      exact h.past e he
  | @act c k taken given rest r hc acts hp =>
    obtain ⟨rfl, own⟩ := bound c hc
    have now : r.now = s.registry.now := congrArg Clock.now acts.clock_eq
    refine ⟨fun l side? hl => own.marked_of_acts acts (h.marked l side? hl), ?_, ?_⟩
    · refine List.pairwise_append.mpr ⟨h.sorted, List.pairwise_singleton .., ?_⟩
      simpa using h.past
    · intro e he
      change e.1.toNat ≤ r.now.seconds.toNat
      rw [now]
      rcases List.mem_append.mp he with he | he
      · exact h.past e he
      · exact Nat.le_of_eq (congrArg (·.1.toNat) (List.mem_singleton.mp he))
  | other spares forward =>
    obtain ⟨c', rfl, -⟩ := there
    refine ⟨fun l side? hl => ?_, h.sorted, fun e he => ?_⟩
    · obtain ⟨kind, hk⟩ := c'.watched_of_mem_handles _ (c'.meter_mem_handles l side?)
      exact spares.marked (Option.isSome_of_eq_some hk) (h.marked l side? hl)
    · exact Nat.le_trans (h.past e he) (Nanos.toNat_seconds_mono forward)

theorem Kept.run (start : Kept base ⟨r, [c], [], []⟩) (fit : c.base = base)
    (books : Registry.Books (buses base).watched c.handles [] r) (h : Reaches base c r s) :
    Kept base s := by
  induction h with
  | refl => exact start
  | @tail s t reached step ih =>
    obtain ⟨held, kept⟩ := Desk.Accounts.Kept.run (a := accounts base) fit books
      (Reaches.desk reached)
    have bound (c : EventBus) (known : c.base = base ∧ c.handles ⊆ held) :
        c.base = base ∧ c.Bound s.registry := by
      refine ⟨known.1, fun e he => ?_⟩
      obtain ⟨kind, hk⟩ := c.watched_of_mem_handles e he
      exact kept.books.bound e.1 e.2 kind (known.2 he) (known.1 ▸ hk)
    exact ih.step (fun c hc => bound c (kept.recorders c hc)) (kept.someone.imp bound) step

end Shift

/-- From a fresh base on, as long as the clock does not go back and its seconds fit into 32 bits,
the rate of each lane is that of its two sides together, and these tell what was done in the last
second. -/
theorem rates_add_up (root : MetricName) (rules : RuleList) (r : Registry)
    (free : r.namesFrom (root.below ["eventbus"]) = []) :
    ∃ c r', (new root rules).run r = (.ok c, r') ∧
      ∀ s, Shift.Reaches (root.below ["eventbus"]) c r' s →
        s.registry.now.seconds.toNat < 2 ^ 32 → ∀ l : Lane, l.kind = .throughputMeter →
          let rate? := fun side? =>
            s.registry.oneSecondRate? (l.place (root.below ["eventbus"]) side?)
          let before := fun isLocal => eventsBefore s.registry.now.seconds.toNat
            ((marks l (some isLocal) s.journal).map toNats)
          ∃ all near far, rate? none = some all ∧ rate? (some true) = some near ∧
            rate? (some false) = some far ∧ all.toNat = min cap (near.toNat + far.toNat) ∧
            near.toNat = min cap (before true) ∧ far.toNat = min cap (before false) := by
  obtain ⟨c, r', hr, ⟨fit, -⟩, books⟩ := Setup.exists_run_of_unbound (within_new root rules)
    (leads_new (Schema.agrees_refl _)) (fun _ _ hs => hs)
    (fun _ => Layout.unbound_of_namesFrom _ free)
  refine ⟨c, r', hr, fun s reached small l hl => ?_⟩
  have unbound := Registry.namesFrom_eq_nil_iff.mp free
  have start : Shift.Kept (root.below ["eventbus"]) ⟨r', [c], [], []⟩ := by
    refine ⟨fun l side? hl => ?_, .nil, fun _ he => by cases he⟩
    exact marked_of_provides (provides_of_run hr) hl side?
      (unbound _ (MetricName.below_startsWith ..))
  have kept := start.run fit books reached
  have rate (side? : Option Bool) := by
    refine (kept.marked l side? hl).rate small (marks_sorted kept.sorted) fun m hm => ?_
    obtain ⟨e, he, same⟩ := second_of_mem_marks hm
    exact same ▸ kept.past e he
  obtain ⟨all, hall, whole⟩ := rate none
  obtain ⟨near, hnear, one⟩ := rate (some true)
  obtain ⟨far, hfar, other⟩ := rate (some false)
  refine ⟨all, near, far, hall, hnear, hfar, ?_, one, other⟩
  rw [whole, one, other, eventsBefore_marks]
  omega

end Runs

/-- Two event buses send a message each, one to each side. A second later all three rates show
it. -/
theorem rates_add_up_app :
    let root := MetricName.ofNode (.escape "app")
    let base := root.below ["eventbus"]
    let r := Registry.withClock (.startingAt 10000000000)
    r.namesFrom base = [] ∧ ∃ c r', (new root []).run r = (.ok c, r') ∧
      ∃ s, Shift.Reaches base c r' s ∧ s.registry.now.seconds.toNat < 2 ^ 32 ∧
        Lane.sent.kind = .throughputMeter ∧
        s.registry.oneSecondRate? (Lane.sent.place base none) = some 2 ∧
        s.registry.oneSecondRate? (Lane.sent.place base (some true)) = some 1 ∧
        s.registry.oneSecondRate? (Lane.sent.place base (some false)) = some 1 := by
  intro root base r
  obtain ⟨c, r', hr, law⟩ := rates_add_up root [] r rfl
  obtain ⟨second, r'', hr', hb⟩ := Setup.exists_run_again (within_new root [])
    (within_new root []) (Registry.respects_withClock _ _) hr
  have clock : r''.now = 10000000000 :=
    congrArg Clock.now ((provides_of_run hr').clock.trans (provides_of_run hr).clock)
  let sent := second.messageSent false false (c.messageSent false true r'')
  have now : sent.now = 10000000000 := clock
  obtain ⟨s, reached, later, done⟩ : ∃ s, Shift.Reaches base c r' s ∧
      s.registry.now = 11000000000 ∧
      s.journal = [(10, .sent false true), (10, .sent false false)] := by
    refine ⟨⟨sent.withTime (·.advance 1000000000), [second, c], [],
      [(r''.now.seconds, .sent false true), (r''.now.seconds, .sent false false)]⟩,
      ((((Relation.ReflTransGen.refl.tail (.build ⟨root, [], hr', hb⟩)).tail
      (.act (List.mem_cons_of_mem _ List.mem_cons_self) (.sent false true) (.refl _))).tail
      (.act List.mem_cons_self (.sent false false) (.refl _))).tail
      (.other (.withTime ..) ?_)), ?_, ?_⟩
    · change sent.now ≤ sent.now + 1000000000
      rw [now]
      decide
    · change sent.now + 1000000000 = _
      rw [now]
      rfl
    · rw [clock]
      rfl
  have small : s.registry.now.seconds.toNat < 2 ^ 32 := by
    rw [later]
    decide
  obtain ⟨all, near, far, hall, hnear, hfar, sum, one, other⟩ := law s reached small .sent rfl
  rw [later, done] at one other
  obtain rfl : near = 1 := UInt32.toNat_inj.mp one
  obtain rfl : far = 1 := UInt32.toNat_inj.mp other
  obtain rfl : all = 2 := UInt32.toNat_inj.mp sum
  exact ⟨rfl, c, r', hr, s, reached, small, rfl, hall, hnear, hfar⟩

end EventBus

end Component

end Telemetry
