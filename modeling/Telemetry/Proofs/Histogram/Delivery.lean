import Mathlib.Logic.Relation
import Telemetry.Histogram.Feed

/-!
Delivery of recorded values. Recorders and a refresh work side by side, each one small action at a
time: a value is counted, handed over, taken, and not counted any more. The counter is not part of
what hands the values over, but it is never behind. What the histogram was given is always the
beginning of what was sent, and a refresh does not end before it was given all that was sent before.
-/

namespace Telemetry.Feed

variable {η ε : Type}

/-- The values that wait, if there is a histogram to wait for. -/
def waiting (f : Feed η) : List Nat := (f.intake.map fun i => i.waiting.toList).getD []

/-- What a histogram becomes by one value. -/
def given (record : η → Nat → η × Option ε) (h : η) (v : Nat) : η := (record h v).1

/-- Without a histogram a value is not sent, and the counter is as before. -/
theorem record_of_isClosed {f : Feed η} (h : f.isClosed) (v : Nat) : f.record v = (f, false) := by
  obtain ⟨intake, pending, recorders⟩ := f
  obtain rfl : intake = none := Option.isNone_iff_eq_none.mp h
  rfl

theorem record_of_intake {f : Feed η} {i : Intake η} (h : f.intake = some i) (v : Nat) :
    (f.record v).2 = true := by
  simp [record, send, raise, h]

/-- How far a refresh is. It keeps in mind what was sent before it. -/
inductive Refresh (ε : Type)
  | idle
  | taking (before : List Nat) (fault? : Option ε) (received : Nat)
  /-- Nothing was waiting any more. -/
  | emptied (before : List Nat) (fault? : Option ε) (received : Nat)

def Refresh.received : Refresh ε → Nat
  | .idle => 0
  | .taking _ _ n | .emptied _ _ n => n

/-- A histogram with recorders at work, and all that was sent and taken so far. -/
structure Work (η ε : Type) where
  feed : Feed η
  /-- The values that are counted and not handed over yet. -/
  counted : List Nat
  /-- How many values could not be handed over and are still counted. -/
  refused : Nat
  refresh : Refresh ε
  sent : List Nat
  taken : List Nat

namespace Work

def start (h : η) : Work η ε := ⟨.start h, [], 0, .idle, [], []⟩

/-- What the recorders and the refresh may do next. -/
inductive Step (record : η → Nat → η × Option ε) (s : Work η ε) : Work η ε → Prop
  | count (v : Nat) : Step record s { s with feed := s.feed.raise, counted := v :: s.counted }
  | send {v : Nat} {rest : List Nat} {f : Feed η} (hv : s.counted.Perm (v :: rest))
    (h : s.feed.send v = some f) :
    Step record s { s with feed := f, counted := rest, sent := s.sent ++ [v] }
  /-- There is no histogram any more, but the value is counted already. -/
  | refuse {v : Nat} {rest : List Nat} (hv : s.counted.Perm (v :: rest))
    (h : s.feed.send v = none) :
    Step record s { s with counted := rest, refused := s.refused + 1 }
  | giveUp {n : Nat} (h : s.refused = n + 1) :
    Step record s { s with feed := s.feed.lower 1, refused := n }
  | cloneRecorder : Step record s { s with feed := s.feed.cloneRecorder }
  | dropRecorder : Step record s { s with feed := s.feed.dropRecorder }
  | dropRecorders : Step record s { s with feed := s.feed.dropRecorders }
  | refresh (h : s.refresh = .idle) (hf : ¬s.feed.isClosed) :
    Step record s { s with refresh := .taking s.sent none 0 }
  | take {before : List Nat} {fault? : Option ε} {received : Nat} {i : Intake η} {v : Nat}
    {rest : List Nat} {d : Drain η ε} (h : s.refresh = .taking before fault? received)
    (hi : s.feed.intake = some i) (hw : i.waiting.toList = v :: rest)
    (hd : Drain.take record ⟨i.histogram, fault?, received⟩ v = d) :
    Step record s { s with
      feed := { s.feed with intake := some ⟨d.histogram, rest.toArray⟩ }
      refresh := .taking before d.fault? d.received
      taken := s.taken ++ [v] }
  | empty {before : List Nat} {fault? : Option ε} {received : Nat} {i : Intake η}
    (h : s.refresh = .taking before fault? received) (hi : s.feed.intake = some i)
    (hw : i.waiting.toList = []) :
    Step record s { s with refresh := .emptied before fault? received }
  | finish {before : List Nat} {fault? : Option ε} {received : Nat}
    (h : s.refresh = .emptied before fault? received) :
    Step record s { s with feed := s.feed.lower received, refresh := .idle }
  | drop (h : s.refresh = .idle) : Step record s { s with feed := s.feed.drop }

variable {record : η → Nat → η × Option ε} {h₀ : η} {s t : Work η ε}

/-- Every value that was sent is either taken or waiting, as long as there is a histogram. The
counter holds what was sent and not taken, and what is about to be counted or not counted. -/
structure Exact (record : η → Nat → η × Option ε) (h₀ : η) (s : Work η ε) : Prop where
  pending : s.feed.pending + s.taken.length =
    s.sent.length + s.counted.length + s.refused + s.refresh.received
  taken : s.taken <+: s.sent
  waiting : ∀ i, s.feed.intake = some i → s.taken ++ i.waiting.toList = s.sent
  histogram : ∀ i, s.feed.intake = some i → i.histogram = s.taken.foldl (given record) h₀
  taking : ∀ before fault? received, s.refresh = .taking before fault? received →
    before <+: s.sent
  emptied : ∀ before fault? received, s.refresh = .emptied before fault? received →
    before <+: s.taken

theorem exact_start (record : η → Nat → η × Option ε) (h₀ : η) : (start h₀).Exact record h₀ where
  pending := rfl
  taken := List.nil_prefix
  waiting _ hi := by cases hi; rfl
  histogram _ hi := by cases hi; rfl
  taking _ _ _ h := by cases h
  emptied _ _ _ h := by cases h

/-- What is taken off the counter is on it. -/
theorem Exact.received_le (h : s.Exact record h₀) :
    s.refused + s.refresh.received ≤ s.feed.pending := by
  have balance := h.pending
  have behind := h.taken.length_le
  omega

theorem Exact.send {v : Nat} {rest : List Nat} {f : Feed η} (h : s.Exact record h₀)
    (hv : s.counted.Perm (v :: rest)) (hf : s.feed.send v = some f) :
    Exact record h₀ { s with feed := f, counted := rest, sent := s.sent ++ [v] } := by
  obtain ⟨i, hi, rfl⟩ := Option.map_eq_some_iff.mp hf
  have sent := List.prefix_append s.sent [v]
  refine ⟨?_, h.taken.trans sent, ?_, ?_, fun b e n hr => (h.taking b e n hr).trans sent, h.emptied⟩
  · have balance := h.pending
    have counted := hv.length_eq
    simp only [List.length_append, List.length_cons, List.length_nil] at counted ⊢
    omega
  · rintro _ ⟨⟩
    rw [← h.waiting i hi, Intake.push, Array.toList_push, List.append_assoc]
  · rintro _ ⟨⟩
    exact h.histogram i hi

theorem Exact.take {before : List Nat} {fault? : Option ε} {received : Nat} {i : Intake η} {v : Nat}
    {rest : List Nat} (h : s.Exact record h₀) (hr : s.refresh = .taking before fault? received)
    (hi : s.feed.intake = some i) (hw : i.waiting.toList = v :: rest) :
    let d := Drain.take record ⟨i.histogram, fault?, received⟩ v
    Exact record h₀ { s with
      feed := { s.feed with intake := some ⟨d.histogram, rest.toArray⟩ }
      refresh := .taking before d.fault? d.received
      taken := s.taken ++ [v] } := by
  have next : (s.taken ++ [v]) ++ rest = s.sent := by
    rw [List.append_assoc, List.singleton_append, ← hw, h.waiting i hi]
  refine ⟨?_, ⟨rest, next⟩, ?_, ?_, ?_, fun _ _ _ h => by cases h⟩
  · have balance := h.pending
    rw [hr] at balance
    simp only [Refresh.received, Drain.take, List.length_append, List.length_singleton] at balance ⊢
    omega
  · rintro _ ⟨⟩
    exact next
  · rintro _ ⟨⟩
    rw [List.foldl_append, ← h.histogram i hi]
    rfl
  · intro b e n same
    cases same
    exact h.taking before fault? received hr

theorem Exact.step (h : s.Exact record h₀) (hs : Step record s t) : t.Exact record h₀ := by
  have balance := h.pending
  have covered := h.received_le
  cases hs with
  | count v =>
    refine ⟨?_, h.taken, h.waiting, h.histogram, h.taking, h.emptied⟩
    simp only [raise, List.length_cons]
    omega
  | send hv hf => exact h.send hv hf
  | refuse hv _ =>
    refine ⟨?_, h.taken, h.waiting, h.histogram, h.taking, h.emptied⟩
    have counted := hv.length_eq
    simp only [List.length_cons] at counted ⊢
    omega
  | giveUp hn =>
    refine ⟨?_, h.taken, h.waiting, h.histogram, h.taking, h.emptied⟩
    simp only [lower]
    omega
  | cloneRecorder => exact ⟨balance, h.taken, h.waiting, h.histogram, h.taking, h.emptied⟩
  | dropRecorder => exact ⟨balance, h.taken, h.waiting, h.histogram, h.taking, h.emptied⟩
  | dropRecorders => exact ⟨balance, h.taken, h.waiting, h.histogram, h.taking, h.emptied⟩
  | refresh idle _ =>
    refine ⟨?_, h.taken, h.waiting, h.histogram, ?_, fun _ _ _ h => by cases h⟩
    · rw [idle] at balance
      exact balance
    · rintro _ _ _ ⟨⟩
      exact List.prefix_rfl
  | take hr hi hw hd => exact hd ▸ h.take hr hi hw
  | empty hr hi hw =>
    refine ⟨?_, h.taken, h.waiting, h.histogram, (fun _ _ _ h => by cases h), ?_⟩
    · rw [hr] at balance
      exact balance
    · rintro _ _ _ ⟨⟩
      have all := h.waiting _ hi
      rw [hw, List.append_nil] at all
      rw [all]
      exact h.taking _ _ _ hr
  | finish hr =>
    refine ⟨?_, h.taken, h.waiting, h.histogram, ?_, ?_⟩
    · rw [hr] at balance covered
      simp only [Refresh.received, lower] at balance covered ⊢
      omega
    · rintro _ _ _ ⟨⟩
    · rintro _ _ _ ⟨⟩
  | drop idle =>
    refine ⟨balance, h.taken, ?_, ?_, h.taking, h.emptied⟩
    · rintro _ ⟨⟩
    · rintro _ ⟨⟩

theorem Exact.run (h : s.Exact record h₀) (hr : Relation.ReflTransGen (Step record) s t) :
    t.Exact record h₀ := by
  induction hr with
  | refl => exact h
  | tail _ step ih => exact ih.step step

/-! ### Whole calls -/

/-- What may be called at a recorder or at the histogram. -/
inductive Call
  | record (v : Nat)
  | cloneRecorder
  | dropRecorder
  | dropRecorders
  | refresh
  | drop
deriving DecidableEq

/-- A call that nothing comes between. -/
def call (record : η → Nat → η × Option ε) (s : Work η ε) : Call → Work η ε
  | .record v =>
    let (f, sent) := s.feed.record v
    { s with feed := f, sent := if sent then s.sent ++ [v] else s.sent }
  | .cloneRecorder => { s with feed := s.feed.cloneRecorder }
  | .dropRecorder => { s with feed := s.feed.dropRecorder }
  | .dropRecorders => { s with feed := s.feed.dropRecorders }
  | .refresh =>
    { s with feed := (s.feed.refreshBy record).1, taken := s.taken ++ s.feed.waiting }
  | .drop => { s with feed := s.feed.drop }

/-- Nothing is under way. -/
structure Quiet (s : Work η ε) : Prop where
  counted : s.counted = []
  refused : s.refused = 0
  refresh : s.refresh = .idle

theorem quiet_start (h : η) : (start h : Work η ε).Quiet := ⟨rfl, rfl, rfl⟩

theorem Quiet.call (h : s.Quiet) (c : Call) : (s.call record c).Quiet := by
  cases c <;> exact ⟨h.counted, h.refused, h.refresh⟩

/-- In the middle of a refresh that began with `before` sent, and came to `d`. -/
def during (s : Work η ε) (before : List Nat) (d : Drain η ε) (waiting taken : List Nat) :
    Work η ε :=
  { s with
    feed := { s.feed with intake := some ⟨d.histogram, waiting.toArray⟩ }
    refresh := .taking before d.fault? d.received
    taken }

/-- A refresh that nothing comes between takes all that waits, one value after the other. -/
theorem takes (record : η → Nat → η × Option ε) (s : Work η ε) (before : List Nat)
    (d : Drain η ε) (waiting taken : List Nat) :
    Relation.ReflTransGen (Step record) (s.during before d waiting taken)
      (s.during before (waiting.foldl (Drain.take record) d) [] (taken ++ waiting)) := by
  induction waiting generalizing d taken with
  | nil => rw [List.append_nil]; exact .refl
  | cons v rest ih =>
    have first : Step record (s.during before d (v :: rest) taken)
        (s.during before (d.take record v) rest (taken ++ [v])) := .take rfl rfl rfl rfl
    rw [List.foldl_cons, List.append_cons]
    exact .head first (ih _ _)

theorem record_steps (h : s.Quiet) (v : Nat) :
    Relation.ReflTransGen (Step record) s (s.call record (.record v)) := by
  obtain ⟨feed, _, _, _, sent, taken⟩ := s
  obtain ⟨rfl, rfl, rfl⟩ := h
  refine .head (.count v) ?_
  cases hi : feed.raise.send v with
  | some f =>
    simp only [Work.call, Feed.record, hi]
    exact .single (.send (.refl _) hi)
  | none =>
    simp only [Work.call, Feed.record, hi]
    exact .head (.refuse (.refl _) hi) (.single (.giveUp rfl))

theorem refresh_steps (h : s.Quiet) :
    Relation.ReflTransGen (Step record) s (s.call record .refresh) := by
  obtain ⟨⟨intake, pending, recorders⟩, _, _, _, sent, taken⟩ := s
  obtain ⟨rfl, rfl, rfl⟩ := h
  cases intake with
  | none =>
    simp only [Work.call, refreshBy, waiting, Option.map_none, Option.getD_none, List.append_nil]
    exact .refl
  | some i =>
    -- It begins, takes value after value, finds nothing more, and lowers the counter.
    have stillOpen : ¬(⟨some i, pending, recorders⟩ : Feed η).isClosed := Bool.false_ne_true
    have all := takes record ⟨⟨some i, pending, recorders⟩, [], 0, .idle, sent, taken⟩ sent
      ⟨i.histogram, none, 0⟩ i.waiting.toList taken
    refine .head (.refresh rfl stillOpen) (.trans all (.head (.empty rfl rfl rfl) ?_))
    rw [Array.foldl_toList]
    exact .single (.finish rfl)

theorem call_steps (h : s.Quiet) (c : Call) :
    Relation.ReflTransGen (Step record) s (s.call record c) := by
  cases c with
  | record v => exact record_steps h v
  | cloneRecorder => exact .single .cloneRecorder
  | dropRecorder => exact .single .dropRecorder
  | dropRecorders => exact .single .dropRecorders
  | refresh => exact refresh_steps h
  | drop => exact .single (.drop h.refresh)

/-- Calls one after the other are work like any other, and leave nothing under way. -/
theorem calls_steps (record : η → Nat → η × Option ε) (h : s.Quiet) (calls : List Call) :
    (calls.foldl (call record) s).Quiet ∧
      Relation.ReflTransGen (Step record) s (calls.foldl (call record) s) := by
  induction calls generalizing s with
  | nil => exact ⟨h, .refl⟩
  | cons c rest ih =>
    obtain ⟨quiet, steps⟩ := ih (h.call c)
    exact ⟨quiet, (call_steps h c).trans steps⟩

theorem isClosed_call (record : η → Nat → η × Option ε) (s : Work η ε) (c : Call) :
    (s.call record c).feed.isClosed ↔ s.feed.isClosed ∨ .drop = c := by
  cases c with
  | record v =>
    cases hf : s.feed.intake <;>
      simp [call, Feed.record, Feed.send, raise, lower, isClosed, hf]
  | refresh =>
    cases hf : s.feed.intake <;> simp [call, refreshBy, lower, isClosed, hf]
  | drop => simp [call, Feed.drop, isClosed]
  | cloneRecorder => simp [call, Feed.cloneRecorder, isClosed]
  | dropRecorder => simp [call, Feed.dropRecorder, isClosed]
  | dropRecorders => simp [call, Feed.dropRecorders, isClosed]

/-- Only the drop of the histogram closes it, and nothing opens it again. -/
theorem isClosed_calls (record : η → Nat → η × Option ε) (s : Work η ε) (calls : List Call) :
    (calls.foldl (call record) s).feed.isClosed ↔ s.feed.isClosed ∨ .drop ∈ calls := by
  induction calls generalizing s with
  | nil => simp
  | cons c rest ih =>
    rw [List.foldl_cons, ih, List.mem_cons, ← or_assoc, isClosed_call]

/-- A refresh leaves nothing to take, so all that was sent is taken by then. -/
theorem Exact.refresh {i : Intake η} (h : s.Exact record h₀) (quiet : s.Quiet)
    (hi : s.feed.intake = some i) :
    let t := s.call record .refresh
    t.taken = s.sent ∧ t.feed.pending = 0 ∧
      t.feed.intake = some (.ofHistogram (s.sent.foldl (given record) h₀)) := by
  intro t
  have after : t.Exact record h₀ := h.run (refresh_steps quiet)
  have idle : t.Quiet := quiet.call .refresh
  have intake : t.feed.intake = some (.ofHistogram (i.drain record).histogram) := by
    simp only [t, call, refreshBy, hi, lower]
  have taken : t.taken = s.sent := by
    have all := after.waiting _ intake
    rwa [Intake.ofHistogram, List.append_nil] at all
  refine ⟨taken, ?_, ?_⟩
  · -- With all that was sent taken and nothing under way, nothing is left for the counter.
    have sent : t.sent = s.sent := rfl
    have balance := after.pending
    rw [taken, sent, idle.counted, idle.refused, idle.refresh] at balance
    simp only [List.length_nil, Refresh.received] at balance
    omega
  · have histogram := after.histogram _ intake
    rw [taken] at histogram
    rw [intake, Intake.ofHistogram, ← histogram]
    rfl

/-- What a refresh takes off the counter is on it. -/
theorem Exact.received_drain_le {i : Intake η} (h : s.Exact record h₀) (quiet : s.Quiet)
    (hi : s.feed.intake = some i) : (i.drain record).received ≤ s.feed.pending := by
  have balance := h.pending
  have sent := congrArg List.length (h.waiting i hi)
  rw [quiet.counted, quiet.refused, quiet.refresh] at balance
  rw [List.length_append, Array.length_toList] at sent
  simp only [List.length_nil, Refresh.received] at balance
  rw [Intake.received_drain]
  omega

/-- Each value that a recorder sends is given to the histogram once, in the order of sending, and
the counter holds what is not given yet: after whole calls, and in between when recorders and a
refresh work side by side. -/
theorem delivered_once (record : η → Nat → η × Option ε) (h₀ : η) :
    (∀ calls : List Call, let s := calls.foldl (call record) (start h₀)
      s.feed.pending + s.taken.length = s.sent.length ∧ s.taken <+: s.sent ∧
        (.drop ∉ calls →
          (∀ v, (s.feed.record v).2 = true) ∧
          (∃ i, s.feed.intake = some i ∧ i.histogram = s.taken.foldl (given record) h₀ ∧
            (i.drain record).received ≤ s.feed.pending) ∧
          let t := s.call record .refresh
          t.taken = s.sent ∧ t.feed.pending = 0 ∧
            t.feed.intake = some (.ofHistogram (s.sent.foldl (given record) h₀))) ∧
        (.drop ∈ calls → ∀ v, s.feed.record v = (s.feed, false))) ∧
      ∀ s, Relation.ReflTransGen (Step record) (start h₀) s →
        s.Exact record h₀ ∧ s.refused + s.refresh.received ≤ s.feed.pending := by
  constructor
  · intro calls s
    obtain ⟨quiet, steps⟩ := calls_steps record (quiet_start h₀) calls
    have h : s.Exact record h₀ := (exact_start record h₀).run steps
    have closed : s.feed.isClosed ↔ .drop ∈ calls :=
      (isClosed_calls record (start h₀) calls).trans (or_iff_right Bool.false_ne_true)
    refine ⟨?_, h.taken, fun kept => ?_, fun dropped v => ?_⟩
    · have balance := h.pending
      rwa [quiet.counted, quiet.refused, quiet.refresh] at balance
    · obtain ⟨i, hi⟩ : ∃ i, s.feed.intake = some i := by
        have opened : s.feed.isClosed = false := Bool.eq_false_iff.mpr (kept ∘ closed.mp)
        exact Option.isSome_iff_exists.mp (Option.isNone_eq_false_iff.mp opened)
      exact ⟨record_of_intake hi, ⟨i, hi, h.histogram i hi, h.received_drain_le quiet hi⟩,
        h.refresh quiet hi⟩
    · exact record_of_isClosed (closed.mpr dropped) v
  · intro s steps
    have h := (exact_start record h₀).run steps
    exact ⟨h, h.received_le⟩

/-- The histogram refuses one of the values, all recorders are gone before the last refresh, and in
between a value is sent while a refresh that does not see it is not at its end. -/
theorem delivered_once_refusing :
    let record : Histogram → Nat → Histogram × Option Nat :=
      fun h v => if v < 64 then (h.record v, none) else (h, some v)
    let h₀ := Histogram.empty .standard (UInt64.size - 1)
    let calls := [.record 1, .cloneRecorder, .record 70, .record 2, .refresh, .record 3,
      .dropRecorders]
    let s := calls.foldl (call record) (start h₀)
    .drop ∉ calls ∧ s.feed.pending = 1 ∧ s.feed.recorders = 0 ∧
      (s.call record .refresh).feed.pending = 0 ∧
      (s.call record .refresh).feed.intake =
        some (.ofHistogram (((h₀.record 1).record 2).record 3)) ∧
      (∀ v, (s.call record .drop).feed.record v = ((s.call record .drop).feed, false)) ∧
      ∃ t, Relation.ReflTransGen (Step record) (start h₀) t ∧ t.sent = [1, 70] ∧ t.taken = [1] ∧
        t.refresh = .emptied [1] none 1 ∧ t.feed.pending = 2 ∧
        t.refused + t.refresh.received ≤ t.feed.pending := by
  intro record h₀ calls s
  obtain ⟨whole, side⟩ := delivered_once record h₀
  have kept : .drop ∉ calls := by decide
  obtain ⟨-, -, -, pending, intake⟩ := (whole calls).2.2.1 kept
  have dropped := (whole (calls ++ [.drop])).2.2.2 (List.mem_append_right _ List.mem_cons_self)
  obtain ⟨t, steps, sent, taken, emptied, pending'⟩ : ∃ t,
      Relation.ReflTransGen (Step record) (start h₀) t ∧ t.sent = [1, 70] ∧ t.taken = [1] ∧
        t.refresh = .emptied [1] none 1 ∧ t.feed.pending = 2 :=
    ⟨_, (((((((Relation.ReflTransGen.refl.tail (.count 1)).tail (.send (.refl _) rfl)).tail
      (.refresh rfl Bool.false_ne_true)).tail (.count 70)).tail (.take rfl rfl rfl rfl)).tail
      (.empty rfl rfl rfl)).tail (.send (.refl _) rfl)), rfl, rfl, rfl, rfl⟩
  exact ⟨kept, rfl, rfl, pending, intake, dropped, t, steps, sent, taken, emptied, pending',
    (side t steps).2⟩

end Work

end Telemetry.Feed
