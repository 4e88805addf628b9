import Mathlib.Algebra.BigOperators.Group.List.Basic
import Mathlib.Tactic.Abel
import Telemetry.Proofs.Component.Handles
import Telemetry.Proofs.Name.Escape

/-!
Counters that are kept as a whole and in parts. Whoever comes or goes is counted in the whole and in
the part of a text. The parts are found by the escaped text, the whole by a handle that is held all
the time, and yet both tell the same.
-/

namespace Telemetry

namespace Registry

/-- The bound names one node below a name. -/
def partsOf (r : Registry) (total : MetricName) : List MetricName :=
  r.nameList.filter fun name => (name.nodesBelow? total).any (·.length = 1)

def countOf (r : Registry) (name : MetricName) : BitVec 64 :=
  ((r.account? name).map Account.count).getD 0

theorem mem_partsOf {r : Registry} {total name : MetricName} :
    name ∈ r.partsOf total ↔ (r.id? name).isSome ∧ ∃ node, name = total.child node := by
  rw [partsOf, List.mem_filter, mem_nameList]
  refine and_congr_right fun _ => ?_
  constructor
  · intro h
    cases hn : name.nodesBelow? total with
    | none => simp [hn] at h
    | some ns =>
      obtain ⟨node, rfl⟩ := List.length_eq_one_iff.mp (by simpa [hn] using h)
      exact ⟨node, MetricName.eq_join_of_nodesBelow? hn⟩
  · rintro ⟨node, rfl⟩
    have below : (total.child node).nodesBelow? total = some [node] :=
      MetricName.nodesBelow?_join total (.ofNode node)
    rw [below]
    rfl

theorem nodup_partsOf (r : Registry) (total : MetricName) : (r.partsOf total).Nodup :=
  r.names.nodup_keys.filter _

/-- Distinct names that cover a log share out all that is in it. -/
theorem sum_balance {names : List MetricName} (distinct : names.Nodup)
    {log : List (MetricName × BitVec 64)} (covered : ∀ entry ∈ log, entry.1 ∈ names) :
    (names.map (balance log)).sum = (log.map (·.2)).sum := by
  induction log with
  | nil =>
    have empty : balance [] = fun _ => 0 := rfl
    simp [empty]
  | cons entry log ih =>
    rw [List.forall_mem_cons] at covered
    -- the entry goes to one of the names and to no other
    have own : (names.map fun name => if entry.1 = name then entry.2 else 0).sum = entry.2 := by
      rw [List.sum_map_eq_nsmul_single entry.1 _ fun name ne _ => if_neg (Ne.symm ne),
        List.count_eq_one_of_mem distinct covered.1, if_pos rfl, one_nsmul]
    have split : balance (entry :: log) = fun name =>
        (if entry.1 = name then entry.2 else 0) + balance log name :=
      funext (balance_cons entry log)
    rw [split, List.sum_map_add, own, ih covered.2, List.map_cons, List.sum_cons]

end Registry

namespace Component

open Registry (Books balance)

/-- Someone comes or goes, under any text. -/
inductive Move
  | enter (value : String)
  | leave (value : String)
deriving DecidableEq

namespace Move

def value : Move → String
  | .enter v | .leave v => v

def delta : Move → BitVec 64
  | .enter _ => 1
  | .leave _ => -1

def isEnter : Move → Bool
  | .enter _ => true
  | .leave _ => false

@[simp] theorem isEnter_enter (v : String) : (enter v).isEnter = true := rfl

@[simp] theorem isEnter_leave (v : String) : (leave v).isEnter = false := rfl

/-- Leaving may also be counted by itself. -/
def entries (total : MetricName) (exits : Option MetricName) : Move → List (MetricName × BitVec 64)
  | .enter v => [(total, 1), (total.childOf v, 1)]
  | .leave v => (total, -1) :: (total.childOf v, -1) :: exits.toList.map (·, 1)

end Move

variable {total : MetricName} {exits : Option MetricName} {moves : List Move}

/-- As many as came and did not go, as 64 bits hold it. -/
def net (moves : List Move) : BitVec 64 :=
  .ofNat 64 (moves.countP (·.isEnter)) - .ofNat 64 (moves.countP (!·.isEnter))

def netOf (moves : List Move) (v : String) : BitVec 64 :=
  .ofNat 64 (moves.count (.enter v)) - .ofNat 64 (moves.count (.leave v))

theorem ofNat_succ (n : Nat) : BitVec.ofNat 64 (n + 1) = .ofNat 64 n + 1 := BitVec.ofNat_add n 1

theorem net_cons (m : Move) (moves : List Move) : net (m :: moves) = m.delta + net moves := by
  cases m with
  | enter v =>
    rw [net, List.countP_cons_of_pos rfl, List.countP_cons_of_neg (by simp), ofNat_succ]
    change _ = 1 + (_ - _)
    abel
  | leave v =>
    rw [net, List.countP_cons_of_neg (by simp), List.countP_cons_of_pos rfl, ofNat_succ]
    change _ = -1 + (_ - _)
    abel

theorem netOf_cons (m : Move) (moves : List Move) (v : String) :
    netOf (m :: moves) v = (if m.value = v then m.delta else 0) + netOf moves v := by
  by_cases h : m.value = v
  · subst h
    rw [if_pos rfl]
    cases m with
    | enter v =>
      rw [netOf, Move.value, List.count_cons_self, List.count_cons_of_ne (by simp), ofNat_succ]
      change _ = 1 + (_ - _)
      abel
    | leave v =>
      rw [netOf, Move.value, List.count_cons_self, List.count_cons_of_ne (by simp), ofNat_succ]
      change _ = -1 + (_ - _)
      abel
  · have other : m ≠ .enter v ∧ m ≠ .leave v := by
      constructor <;> rintro rfl <;> exact h rfl
    rw [if_neg h, zero_add, netOf, List.count_cons_of_ne other.1, List.count_cons_of_ne other.2]
    rfl

theorem child_ne (total : MetricName) (node : Node) : total.child node ≠ total := by
  intro h
  have lengths := congrArg (·.nodes.length) h
  simp [MetricName.child] at lengths

theorem childOf_inj {v w : String} : total.childOf v = total.childOf w ↔ v = w := by
  constructor
  · intro h
    have nodes := congrArg MetricName.nodes (MetricName.join_left_cancel (b := ⟨[.escape w]⟩) h)
    exact Node.escape_injective (List.singleton_inj.mp nodes)
  · rintro rfl
    rfl

/-- What leaving is counted by is neither the whole nor a part. -/
def Aside (total : MetricName) (exits : Option MetricName) : Prop :=
  ∀ e ∈ exits, e ≠ total ∧ ∀ node, e ≠ total.child node

theorem balance_exits {name : MetricName} (h : ∀ e ∈ exits, e ≠ name) :
    balance (exits.toList.map (·, 1)) name = 0 := by
  apply Registry.balance_of_notMem
  rw [List.map_map]
  intro hm
  obtain ⟨e, he, same⟩ := List.mem_map.mp hm
  exact h e (Option.mem_toList.mp he) same

namespace Move

theorem balance_total (aside : Aside total exits) (m : Move) :
    balance (m.entries total exits) total = m.delta := by
  have part (v : String) : total.childOf v ≠ total := child_ne total _
  cases m with
  | enter v =>
    rw [entries, Registry.balance_cons, Registry.balance_cons, if_pos rfl, if_neg (part v)]
    rfl
  | leave v =>
    rw [entries, Registry.balance_cons, Registry.balance_cons, if_pos rfl, if_neg (part v),
      balance_exits fun e he => (aside e he).1]
    rfl

theorem balance_child (aside : Aside total exits) (m : Move) (node : Node) :
    balance (m.entries total exits) (total.child node) =
      balance [(total.childOf m.value, m.delta)] (total.child node) := by
  have whole : total ≠ total.child node := (child_ne total node).symm
  cases m with
  | enter v =>
    rw [entries, Registry.balance_cons, if_neg whole, zero_add]
    rfl
  | leave v =>
    rw [entries, Registry.balance_cons, if_neg whole, zero_add, Registry.balance_cons,
      Registry.balance_cons, balance_exits fun e he => (aside e he).2 node]
    rfl

end Move

theorem balance_total (aside : Aside total exits) (moves : List Move) :
    balance (moves.flatMap (·.entries total exits)) total = net moves := by
  induction moves with
  | nil => rfl
  | cons m moves ih =>
    rw [List.flatMap_cons, Registry.balance_append, m.balance_total aside, ih, net_cons]

/-- What the moves are counted by in parts. -/
def partEntries (total : MetricName) (moves : List Move) : List (MetricName × BitVec 64) :=
  moves.map fun m => (total.childOf m.value, m.delta)

theorem balance_child (aside : Aside total exits) (moves : List Move) (node : Node) :
    balance (moves.flatMap (·.entries total exits)) (total.child node) =
      balance (partEntries total moves) (total.child node) := by
  induction moves with
  | nil => rfl
  | cons m moves ih =>
    rw [List.flatMap_cons, Registry.balance_append, m.balance_child aside, ih,
      ← Registry.balance_append]
    rfl

theorem balance_partEntries (moves : List Move) (v : String) :
    balance (partEntries total moves) (total.childOf v) = netOf moves v := by
  induction moves with
  | nil => simp [partEntries, netOf]
  | cons m moves ih =>
    rw [partEntries, List.map_cons, Registry.balance_cons, ← partEntries, ih, netOf_cons]
    simp only [childOf_inj]

theorem sum_partEntries (total : MetricName) (moves : List Move) :
    ((partEntries total moves).map (·.2)).sum = net moves := by
  induction moves with
  | nil => rfl
  | cons m moves ih =>
    rw [partEntries, List.map_cons, List.map_cons, List.sum_cons, ← partEntries, ih, net_cons]

theorem balance_exit {e : MetricName} (aside : Aside total (some e)) (moves : List Move) :
    balance (moves.flatMap (·.entries total (some e))) e =
      .ofNat 64 (moves.countP (!·.isEnter)) := by
  obtain ⟨whole, part⟩ := aside e rfl
  have part (v : String) : total.childOf v ≠ e := (part _).symm
  induction moves with
  | nil => rfl
  | cons m moves ih =>
    rw [List.flatMap_cons, Registry.balance_append, ih]
    cases m with
    | enter v =>
      rw [Move.entries, Registry.balance_cons, Registry.balance_cons, if_neg whole.symm,
        if_neg (part v), List.countP_cons_of_neg (by simp)]
      simp
    | leave v =>
      rw [Move.entries, Registry.balance_cons, Registry.balance_cons, if_neg whole.symm,
        if_neg (part v), List.countP_cons_of_pos rfl, ofNat_succ, add_comm (BitVec.ofNat _ _)]
      simp [Registry.balance_cons]

theorem mem_entries_child (aside : Aside total exits) {node : Node} :
    total.child node ∈ (moves.flatMap (·.entries total exits)).map (·.1) ↔
      ∃ v ∈ moves.map Move.value, total.child node = total.childOf v := by
  have own (m : Move) : total.child node ∈ (m.entries total exits).map (·.1) ↔
      total.child node = total.childOf m.value := by
    have exit : total.child node ∉ (exits.toList.map (·, (1 : BitVec 64))).map (·.1) := by
      intro hm
      simp only [List.map_map, List.mem_map, Option.mem_toList, Function.comp] at hm
      obtain ⟨e, he, same⟩ := hm
      exact (aside e he).2 node same
    cases m with
    | enter v => simp [Move.entries, child_ne, Move.value]
    | leave v =>
      rw [Move.entries, List.map_cons, List.map_cons, List.mem_cons, List.mem_cons]
      simp only [child_ne, exit, Move.value, or_false, false_or]
  rw [List.map_flatMap, List.mem_flatMap]
  simp only [own, List.mem_map, exists_exists_and_eq_and]

/-! ### Books of the whole and its parts -/

/-- A counter with parts, and perhaps a timer of those who leave. -/
def presenceLayout (path : String) (timer? : Option String) : Layout
  | [t] => if t = path then some .counter else if timer? = some t then some .timer else none
  | [t, _] => if t = path then some .counter else none
  | _ => none

theorem presenceLayout_sub {path : String} {timer? : Option String} {L : Layout}
    (whole : L [path] = some .counter) (part : ∀ t, L [path, t] = some .counter)
    (exit : ∀ t ∈ timer?, L [t] = some .timer) : (presenceLayout path timer?).Sub L := by
  intro ts kind h
  unfold presenceLayout at h
  split at h
  · split at h
    · next same => exact (same ▸ whole).trans h
    · split at h
      · next timed => exact (exit _ timed).trans h
      · cases h
  · split at h
    · next same => exact (same ▸ part _).trans h
    · cases h
  · cases h

theorem presenceLayout_total {path : String} (plain : (Node.escape path).text = path)
    (timer? : Option String) (base : MetricName) :
    (presenceLayout path timer?).schema base (base.below [path]) = some .counter :=
  (Layout.schema_join _ base ⟨[_]⟩).trans (by simp [presenceLayout, plain])

theorem presenceLayout_child {path : String} (plain : (Node.escape path).text = path)
    (timer? : Option String) (base : MetricName) (node : Node) :
    (presenceLayout path timer?).schema base ((base.below [path]).child node) = some .counter := by
  rw [show (base.below [path]).child node = _ from base.child_join ⟨[.escape path]⟩ node]
  exact (Layout.schema_join _ base ⟨[_, node]⟩).trans (by simp [presenceLayout, plain])

end Component

namespace Registry

variable {S : Schema} {r : Registry} {total : MetricName} {whole part : MetricId} {v : String}
  {held : List (MetricName × MetricId)} {log : List (MetricName × BitVec 64)}

/-- Counting under a text asks for the part and hands it out. -/
theorem Books.countIn (books : Books S held log r) (hm : (total, whole) ∈ held)
    (ht : S total = some .counter) (v : String) (hv : S (total.childOf v) = some .counter)
    (n : Int64) :
    ∃ part r', (r.record whole (.add n)).metricIfFree (.ok (total.childOf v)) .counter =
        (some part, r') ∧
      Books S (held ++ [(total.childOf v, part)])
        (log ++ [(total, n.toBitVec), (total.childOf v, n.toBitVec)])
        (r'.record part (.add n)) := by
  obtain ⟨part, r', hr, asked⟩ := (books.record (e := .add n) hm ht rfl).metricIfFree hv (by decide)
  have counted := asked.record (e := .add n)
    (List.mem_append_right _ (List.mem_singleton_self _)) hv rfl
  rw [List.append_assoc] at counted
  exact ⟨part, r', hr, counted⟩

/-- Whoever has the part need not ask for it again. -/
theorem Books.countBack (books : Books S held log r) (hm : (total, whole) ∈ held)
    (hp : (total.childOf v, part) ∈ held) (ht : S total = some .counter)
    (hv : S (total.childOf v) = some .counter) (n : Int64) :
    Books S held (log ++ [(total, n.toBitVec), (total.childOf v, n.toBitVec)])
      ((r.record whole (.add n)).record part (.add n)) := by
  have counted := (books.record (e := .add n) hm ht rfl).record (e := .add n) hp hv rfl
  rw [List.append_assoc] at counted
  exact counted

/-- The whole is what is said, it is the sum of its parts, and these are the parts of those who were
seen, each with what is said of it. -/
structure Splits (r : Registry) (total : MetricName) (all : BitVec 64) (part : String → BitVec 64)
    (seen : List String) : Prop where
  whole : r.account? total = some ⟨.counter, all⟩
  parts : ∀ v, r.account? (total.childOf v) = if v ∈ seen then some ⟨.counter, part v⟩ else none
  named : ∀ name ∈ r.partsOf total, ∃ v ∈ seen, name = total.childOf v
  sum : all = ((r.partsOf total).map r.countOf).sum

open Component (Move net netOf Aside partEntries)

variable {exits : Option MetricName} {moves : List Move}

theorem known_part (aside : Aside total exits)
    (own : ∀ node, total.child node ∈ held.map (·.1) →
      total.child node ∈ (moves.flatMap (·.entries total exits)).map (·.1)) (node : Node) :
    Known held (moves.flatMap (·.entries total exits)) (total.child node) ↔
      ∃ v ∈ moves.map Move.value, total.child node = total.childOf v := by
  rw [Known, or_iff_right_of_imp (own node), Component.mem_entries_child aside]

theorem Books.account_part (books : Books S held (moves.flatMap (·.entries total exits)) r)
    (aside : Aside total exits) (hc : ∀ node, S (total.child node) = some .counter) {node : Node}
    (known : Known held (moves.flatMap (·.entries total exits)) (total.child node)) :
    r.account? (total.child node) =
      some ⟨.counter, balance (partEntries total moves) (total.child node)⟩ := by
  rw [books.account _ _ (hc node) known, Component.balance_child aside]

/-- No part is left out and none is counted twice, since each is bound under a name of its own. -/
theorem Books.sum_parts (books : Books S held (moves.flatMap (·.entries total exits)) r)
    (aside : Aside total exits) (hc : ∀ node, S (total.child node) = some .counter)
    (own : ∀ node, total.child node ∈ held.map (·.1) →
      total.child node ∈ (moves.flatMap (·.entries total exits)).map (·.1)) :
    ((r.partsOf total).map r.countOf).sum = net moves := by
  have counts : (r.partsOf total).map r.countOf =
      (r.partsOf total).map (balance (partEntries total moves)) := by
    refine List.map_congr_left fun name hn => ?_
    obtain ⟨bound, node, rfl⟩ := mem_partsOf.mp hn
    obtain ⟨id, hid⟩ := Option.isSome_iff_exists.mp bound
    rw [countOf, books.account_part aside hc (books.known_of_id? (hc node) hid)]
    rfl
  have covered : ∀ entry ∈ partEntries total moves, entry.1 ∈ r.partsOf total := by
    intro entry he
    obtain ⟨m, hm, rfl⟩ := List.mem_map.mp he
    have entered := (known_part aside own (.escape m.value)).mpr
      ⟨m.value, List.mem_map_of_mem hm, rfl⟩
    refine mem_partsOf.mpr ⟨?_, _, rfl⟩
    rw [Option.isSome_iff_ne_none]
    intro unbound
    cases (books.account_part aside hc entered).symm.trans (account?_eq_none_iff.mpr unbound)
  rw [counts, sum_balance (r.nodup_partsOf total) covered, Component.sum_partEntries]

theorem Books.splits (books : Books S held (moves.flatMap (·.entries total exits)) r)
    (aside : Aside total exits) (hm : (total, whole) ∈ held) (ht : S total = some .counter)
    (hc : ∀ node, S (total.child node) = some .counter)
    (own : ∀ node, total.child node ∈ held.map (·.1) →
      total.child node ∈ (moves.flatMap (·.entries total exits)).map (·.1)) :
    Splits r total (net moves) (netOf moves) (moves.map Move.value) := by
  have known := known_part aside own
  refine ⟨?_, fun v => ?_, fun name hn => ?_, (books.sum_parts aside hc own).symm⟩
  · rw [books.account _ _ ht (known_of_held hm), Component.balance_total aside]
  · split
    · next seen =>
      rw [← Component.balance_partEntries]
      exact books.account_part aside hc ((known (.escape v)).mpr ⟨v, seen, rfl⟩)
    · next unseen =>
      refine account?_eq_none_iff.mpr (books.free _ _ (hc _) fun hk => ?_)
      obtain ⟨w, seen, same⟩ := (known _).mp hk
      exact unseen (Component.childOf_inj.mp same ▸ seen)
  · obtain ⟨bound, node, rfl⟩ := mem_partsOf.mp hn
    obtain ⟨id, hid⟩ := Option.isSome_iff_exists.mp bound
    exact (known node).mp (books.known_of_id? (hc node) hid)

end Registry

end Telemetry
