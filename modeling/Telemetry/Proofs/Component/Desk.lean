import Mathlib.Data.BitVec
import Mathlib.Logic.Relation
import Telemetry.Proofs.Component.Handles

/-!
Desks: any number of recorders with one base, which hand out tokens and take them back. A deed adds
known amounts to metrics below the base. So what these metrics count is what the deeds add up to, at
whatever recorders and in whatever order they were done, and how many tokens are out can be told
from the deeds alone.
-/

namespace Telemetry.Component

open Registry (Books Leaves Known balance)

variable {ρ κ τ : Type}

/-- Recorders with one base. What is done at one may take tokens, and may give others. -/
structure Desk (ρ κ τ : Type) where
  base : MetricName
  /-- What is counted. -/
  layout : Layout
  builds : Registry → ρ → Registry → Prop
  acts : ρ → Registry → κ → List τ → List τ → Registry → Prop

namespace Desk

/-- The recorders there are, the tokens that are out, and all that was done. -/
structure State (ρ κ τ : Type) where
  registry : Registry
  recorders : List ρ
  tokens : List τ
  deeds : List κ

def watched (d : Desk ρ κ τ) : Schema := d.layout.schema d.base

inductive Step (d : Desk ρ κ τ) (s : State ρ κ τ) : State ρ κ τ → Prop
  | build {c : ρ} {r : Registry} (h : d.builds s.registry c r) :
    Step d s { s with registry := r, recorders := c :: s.recorders }
  | act {c : ρ} {k : κ} {taken given rest : List τ} {r : Registry} (hc : c ∈ s.recorders)
    (h : d.acts c s.registry k taken given r) (hp : s.tokens.Perm (taken ++ rest)) :
    Step d s ⟨r, s.recorders, given ++ rest, s.deeds ++ [k]⟩
  | other {r : Registry} (h : Leaves d.watched s.registry r) : Step d s { s with registry := r }

/-- What may come after the first recorder was set up. -/
def Reaches (d : Desk ρ κ τ) (c : ρ) (r : Registry) (s : State ρ κ τ) : Prop :=
  Relation.ReflTransGen d.Step ⟨r, [c], [], []⟩ s

variable {d : Desk ρ κ τ} {s t : State ρ κ τ}

/-! ### Tokens -/

/-- As many tokens of a sort are out as the deeds added. -/
def State.Tallies (s : State ρ κ τ) (sort : τ → Bool) (net : κ → Int) : Prop :=
  (s.tokens.countP sort : Int) = (s.deeds.map net).sum

/-- The deeds tell how many tokens of a sort they add. -/
def Moves (d : Desk ρ κ τ) (sort : τ → Bool) (net : κ → Int) : Prop :=
  ∀ c r k taken given r', d.acts c r k taken given r' →
    (given.countP sort : Int) = taken.countP sort + net k

section Tokens

variable {sort : τ → Bool} {net : κ → Int}

theorem State.Tallies.step (h : s.Tallies sort net) (moves : d.Moves sort net) (hs : d.Step s t) :
    t.Tallies sort net := by
  cases hs with
  | build => exact h
  | @act c k taken given rest r _ ha hp =>
    have moved := moves c s.registry k taken given r ha
    rw [Tallies, hp.countP_eq, List.countP_append] at h
    rw [Tallies, List.countP_append, List.map_append, List.sum_append, ← h]
    push_cast
    rw [moved]
    simp only [List.map_cons, List.map_nil, List.sum_cons, List.sum_nil]
    omega
  | other => exact h

theorem Reaches.tallies {c : ρ} {r : Registry} (moves : d.Moves sort net) (h : d.Reaches c r s) :
    s.Tallies sort net := by
  induction h with
  | refl => rfl
  | tail _ step ih => exact ih.step moves step

end Tokens

/-! ### Amounts -/

/-- What of some amounts is for one path. -/
def share (amounts : List (List Node × Int)) (path : List Node) : Int :=
  ((amounts.filter (·.1 = path)).map (·.2)).sum

def total (amounts : κ → List (List Node × Int)) (deeds : List κ) (path : List Node) : Int :=
  (deeds.map fun k => share (amounts k) path).sum

def entered (base : MetricName) (amounts : List (List Node × Int)) :
    List (MetricName × BitVec 64) :=
  amounts.map fun a => (base.join ⟨a.1⟩, .ofInt 64 a.2)

@[simp] theorem share_nil (path : List Node) : share [] path = 0 := rfl

theorem share_cons (a : List Node × Int) (amounts : List (List Node × Int)) (path : List Node) :
    share (a :: amounts) path = (if a.1 = path then a.2 else 0) + share amounts path := by
  by_cases h : a.1 = path <;> simp [share, h]

theorem share_append (xs ys : List (List Node × Int)) (path : List Node) :
    share (xs ++ ys) path = share xs path + share ys path := by
  simp [share]

theorem share_singleton (p path : List Node) (n : Int) :
    share [(p, n)] path = if p = path then n else 0 := by
  rw [share_cons]
  exact add_zero _

theorem balance_entered (base : MetricName) (amounts : List (List Node × Int))
    (path : List Node) :
    balance (entered base amounts) (base.join ⟨path⟩) = .ofInt 64 (share amounts path) := by
  induction amounts with
  | nil => rfl
  | cons a amounts ih =>
    have same : base.join ⟨a.1⟩ = base.join ⟨path⟩ ↔ a.1 = path :=
      ⟨fun h => congrArg MetricName.nodes (MetricName.join_left_cancel h), fun h => by rw [h]⟩
    rw [entered, List.map_cons, Registry.balance_cons, ← entered, ih, share_cons, BitVec.ofInt_add]
    by_cases h : a.1 = path
    · rw [if_pos (same.mpr h), if_pos h]
    · rw [if_neg (mt same.mp h), if_neg h]
      rfl

theorem balance_total (base : MetricName) (amounts : κ → List (List Node × Int)) (deeds : List κ)
    (path : List Node) :
    balance (deeds.flatMap fun k => entered base (amounts k)) (base.join ⟨path⟩) =
      .ofInt 64 (total amounts deeds path) := by
  induction deeds with
  | nil => rfl
  | cons k deeds ih =>
    rw [List.flatMap_cons, Registry.balance_append, balance_entered, ih, ← BitVec.ofInt_add]
    rfl

theorem total_cons (amounts : κ → List (List Node × Int)) (k : κ) (deeds : List κ)
    (path : List Node) :
    total amounts (k :: deeds) path = share (amounts k) path + total amounts deeds path := rfl

/-! ### Books -/

/-- A deed is on the books: the metrics that it asked for and those that it recorded in are known
from then on. -/
structure Enters (S : Schema) (held : List (MetricName × MetricId))
    (log : List (MetricName × BitVec 64)) (asked : List (MetricName × MetricId))
    (amounts : List (MetricName × BitVec 64)) (r : Registry) : Prop where
  books : Books S (held ++ asked) (log ++ amounts) r
  known : ∀ a ∈ amounts, a.1 ∈ (held ++ asked).map (·.1)

/-- A metric that is held under the name takes the event. -/
def Recordable (S : Schema) (held : List (MetricName × MetricId)) (name : MetricName)
    (id : MetricId) (e : Event) : Prop :=
  (name, id) ∈ held ∧ ∃ kind, S name = some kind ∧ e.suits kind

theorem Recordable.below {L : Layout} {base : MetricName} {held : List (MetricName × MetricId)}
    {path : List String} {id : MetricId} {kind : Kind} {e : Event}
    (hk : L ((path.map Node.escape).map Node.text) = some kind)
    (hm : (base.below path, id) ∈ held) (suits : e.suits kind) :
    Recordable (L.schema base) held (base.below path) id e :=
  ⟨hm, kind, (Layout.schema_join L base _).trans hk, suits⟩

namespace Enters

variable {S : Schema} {held asked : List (MetricName × MetricId)}
  {log amounts : List (MetricName × BitVec 64)} {r : Registry}

theorem refl (h : Books S held log r) : Enters S held log [] [] r where
  books := by simpa using h
  known _ ha := by cases ha

theorem record {name : MetricName} {id : MetricId} {e : Event}
    (h : Enters S held log asked amounts r) (hr : Recordable S (held ++ asked) name id e) :
    Enters S held log asked (amounts ++ [(name, e.amount)]) (r.record id e) := by
  obtain ⟨hm, kind, hs, suits⟩ := hr
  refine ⟨?_, fun a ha => ?_⟩
  · rw [← List.append_assoc]
    exact h.books.record hm hs suits
  · rcases List.mem_append.mp ha with ha | ha
    · exact h.known a ha
    · obtain rfl := List.mem_singleton.mp ha
      exact List.mem_map_of_mem hm

/-- A metric is asked for, and had. -/
theorem ask {name : MetricName} {kind : Kind} (h : Enters S held log asked amounts r)
    (hs : S name = some kind) (plain : kind ≠ .gauge) :
    ∃ id r', r.metricIfFree (.ok name) kind = (some id, r') ∧
      Enters S held log (asked ++ [(name, id)]) amounts r' := by
  obtain ⟨id, r', ho, books⟩ := h.books.metricIfFree hs plain
  rw [List.append_assoc] at books
  refine ⟨id, r', ho, books, fun a ha => ?_⟩
  rw [← List.append_assoc, List.map_append]
  exact List.mem_append_left _ (h.known a ha)

end Enters

/-- How a desk keeps its books: which metrics its recorders know from the start, and for each deed
which metrics it asks for and what it adds to those that are known. -/
structure Accounts (d : Desk ρ κ τ) where
  fits : ρ → Prop
  handles : ρ → List (MetricName × MetricId)
  /-- What a token needs is held. -/
  bears : List (MetricName × MetricId) → τ → Prop
  asks : κ → List (List Node)
  amounts : κ → List (List Node × Int)
  mono {held held' : List (MetricName × MetricId)} {t : τ} (sub : held ⊆ held') :
    bears held t → bears held' t
  builds {r : Registry} {c : ρ} {r' : Registry} {held : List (MetricName × MetricId)}
    {log : List (MetricName × BitVec 64)} (h : d.builds r c r')
    (books : Books d.watched held log r) :
    fits c ∧ Books d.watched (held ++ handles c) log r'
  acts {c : ρ} {r : Registry} {k : κ} {taken given : List τ} {r' : Registry}
    {held : List (MetricName × MetricId)} {log : List (MetricName × BitVec 64)}
    (h : d.acts c r k taken given r') (fit : fits c) (known : handles c ⊆ held)
    (ht : ∀ t ∈ taken, bears held t) (books : Books d.watched held log r) :
    ∃ asked, asked.map (·.1) = (asks k).map (fun path => d.base.join ⟨path⟩) ∧
      (∀ t ∈ given, bears (held ++ asked) t) ∧
      Enters d.watched held log asked (entered d.base (amounts k)) r'

namespace Accounts

variable (a : Accounts d)

def log (deeds : List κ) : List (MetricName × BitVec 64) :=
  deeds.flatMap fun k => entered d.base (a.amounts k)

/-- The books show all deeds, and what recorders and tokens need is held. -/
structure Kept (held : List (MetricName × MetricId)) (s : State ρ κ τ) : Prop where
  books : Books d.watched held (a.log s.deeds) s.registry
  posted : ∀ e ∈ a.log s.deeds, e.1 ∈ held.map (·.1)
  own : ∀ e ∈ held, (∃ c, a.fits c ∧ e ∈ a.handles c) ∨
    ∃ k ∈ s.deeds, ∃ path ∈ a.asks k, e.1 = d.base.join ⟨path⟩
  asked : ∀ k ∈ s.deeds, ∀ path ∈ a.asks k, d.base.join ⟨path⟩ ∈ held.map (·.1)
  someone : ∃ c, a.fits c ∧ a.handles c ⊆ held
  recorders : ∀ c ∈ s.recorders, a.fits c ∧ a.handles c ⊆ held
  tokens : ∀ t ∈ s.tokens, a.bears held t

variable {a} {held : List (MetricName × MetricId)}

theorem Kept.start {c : ρ} {r : Registry} (fit : a.fits c)
    (books : Books d.watched (a.handles c) [] r) :
    a.Kept (a.handles c) ⟨r, [c], [], []⟩ where
  books := books
  posted _ he := by cases he
  own e he := .inl ⟨c, fit, he⟩
  asked _ hk := by cases hk
  someone := ⟨c, fit, List.Subset.refl _⟩
  recorders b hb := by
    obtain rfl := List.mem_singleton.mp hb
    exact ⟨fit, List.Subset.refl _⟩
  tokens _ ht := by cases ht

theorem Kept.step (h : a.Kept held s) (hs : d.Step s t) : ∃ held', a.Kept held' t := by
  have mono {more : List (MetricName × MetricId)} {name : MetricName}
      (hm : name ∈ held.map (·.1)) : name ∈ (held ++ more).map (·.1) := by
    rw [List.map_append]
    exact List.mem_append_left _ hm
  cases hs with
  | @build c r hb =>
    obtain ⟨fit, books⟩ := a.builds hb h.books
    have sub := List.subset_append_left held (a.handles c)
    refine ⟨held ++ a.handles c, books, fun e he => mono (h.posted e he), fun e he => ?_,
      fun k hk path hp => mono (h.asked k hk path hp), ⟨c, fit, List.subset_append_right ..⟩,
      fun b hb => ?_, fun t ht => a.mono sub (h.tokens t ht)⟩
    · rcases List.mem_append.mp he with he | he
      · exact h.own e he
      · exact .inl ⟨c, fit, he⟩
    · rcases List.mem_cons.mp hb with rfl | hb
      · exact ⟨fit, List.subset_append_right ..⟩
      · exact (h.recorders b hb).imp_right fun known => List.Subset.trans known sub
  | @act c k taken given rest r hc ha hp =>
    obtain ⟨fit, known⟩ := h.recorders c hc
    obtain ⟨asked, names, borne, books, posted⟩ := a.acts ha fit known
      (fun t ht => h.tokens t (hp.mem_iff.mpr (List.mem_append_left _ ht))) h.books
    have sub := List.subset_append_left held asked
    -- What is asked for is held from here on, so whoever was equipped still is.
    have log : a.log (s.deeds ++ [k]) = a.log s.deeds ++ entered d.base (a.amounts k) := by
      rw [Accounts.log, List.flatMap_append, List.flatMap_singleton]
      rfl
    refine ⟨held ++ asked, log ▸ books, fun e he => ?_, fun e he => ?_, fun k' hk path hpath => ?_,
      h.someone.imp fun _ known => known.imp_right fun sub' => List.Subset.trans sub' sub,
      fun b hb => (h.recorders b hb).imp_right fun sub' => List.Subset.trans sub' sub,
      fun t ht => ?_⟩
    · rcases List.mem_append.mp (log ▸ he) with he | he
      · exact mono (h.posted e he)
      · exact posted e he
    · rcases List.mem_append.mp he with he | he
      · exact (h.own e he).imp_right fun ⟨k', hk, path, hpath, same⟩ =>
          ⟨k', List.mem_append_left _ hk, path, hpath, same⟩
      · have named := List.mem_map_of_mem (f := (·.1)) he
        rw [names] at named
        obtain ⟨path, hpath, same⟩ := List.mem_map.mp named
        exact .inr ⟨k, List.mem_append_right _ (List.mem_singleton_self k), path, hpath, same.symm⟩
    · rcases List.mem_append.mp hk with hk | hk
      · exact mono (h.asked k' hk path hpath)
      · obtain rfl := List.mem_singleton.mp hk
        rw [List.map_append, names]
        exact List.mem_append_right _ (List.mem_map_of_mem hpath)
    · rcases List.mem_append.mp ht with ht | ht
      · exact borne t ht
      · exact a.mono sub (h.tokens t (hp.mem_iff.mpr (List.mem_append_right _ ht)))
  | other left =>
    exact ⟨held, h.books.leaves left, h.posted, h.own, h.asked, h.someone, h.recorders, h.tokens⟩

theorem Kept.run {c : ρ} {r : Registry} (fit : a.fits c)
    (books : Books d.watched (a.handles c) [] r) (h : d.Reaches c r s) :
    ∃ held, a.Kept held s := by
  induction h with
  | refl => exact ⟨_, .start fit books⟩
  | tail _ step ih =>
    obtain ⟨_, kept⟩ := ih
    exact kept.step step

/-! ### What the metrics count -/

variable {path : List Node} {kind : Kind}

theorem Kept.account (h : a.Kept held s) (hs : d.watched (d.base.join ⟨path⟩) = some kind)
    (hm : d.base.join ⟨path⟩ ∈ held.map (·.1)) :
    s.registry.account? (d.base.join ⟨path⟩) =
      some ⟨kind, .ofInt 64 (total a.amounts s.deeds path)⟩ := by
  rw [h.books.account _ _ hs (.inl hm), log, balance_total]

/-- A metric that every recorder has counts from the start. -/
theorem Kept.account_of_own (h : a.Kept held s) (path : List Node)
    (hs : d.watched (d.base.join ⟨path⟩) = some kind)
    (own : ∀ c, a.fits c → d.base.join ⟨path⟩ ∈ (a.handles c).map (·.1)) :
    s.registry.account? (d.base.join ⟨path⟩) =
      some ⟨kind, .ofInt 64 (total a.amounts s.deeds path)⟩ := by
  obtain ⟨c, fit, known⟩ := h.someone
  exact h.account hs (List.map_subset _ known (own c fit))

theorem Kept.counter_of_own (h : a.Kept held s) {path : List String} {n : Int}
    (hk : d.layout ((path.map Node.escape).map Node.text) = some .counter)
    (own : ∀ c, a.fits c → d.base.below path ∈ (a.handles c).map (·.1))
    (sum : total a.amounts s.deeds (path.map Node.escape) = n) (fits : -2 ^ 63 ≤ n ∧ n < 2 ^ 63) :
    s.registry.Counts (d.base.below path) .counter n := by
  rw [← sum] at fits ⊢
  exact Registry.counts_of_counter (h.account_of_own _ ((Layout.schema_join ..).trans hk) own) fits

theorem Kept.timer_of_own (h : a.Kept held s) {path : List String} {n : Int}
    (hk : d.layout ((path.map Node.escape).map Node.text) = some .timer)
    (own : ∀ c, a.fits c → d.base.below path ∈ (a.handles c).map (·.1))
    (sum : total a.amounts s.deeds (path.map Node.escape) = n) (fits : 0 ≤ n ∧ n < 2 ^ 64) :
    s.registry.Counts (d.base.below path) .timer n := by
  rw [← sum] at fits ⊢
  exact Registry.counts_of_timer (h.account_of_own _ ((Layout.schema_join ..).trans hk) own) fits

/-- Any other metric is there from when it is first asked for. -/
theorem Kept.account_of_asked (h : a.Kept held s) (path : List Node)
    (hs : d.watched (d.base.join ⟨path⟩) = some kind)
    (other : ∀ c, a.fits c → d.base.join ⟨path⟩ ∉ (a.handles c).map (·.1)) :
    ((∃ k ∈ s.deeds, path ∈ a.asks k) → s.registry.account? (d.base.join ⟨path⟩) =
      some ⟨kind, .ofInt 64 (total a.amounts s.deeds path)⟩) ∧
    ((∀ k ∈ s.deeds, path ∉ a.asks k) → s.registry.account? (d.base.join ⟨path⟩) = none ∧
      ∀ k ∈ s.deeds, path ∉ (a.amounts k).map (·.1)) := by
  refine ⟨fun ⟨k, hk, hp⟩ => h.account hs (h.asked k hk path hp), fun unasked => ?_⟩
  have unheld : d.base.join ⟨path⟩ ∉ held.map (·.1) := by
    intro hm
    obtain ⟨e, he, named⟩ := List.mem_map.mp hm
    rcases h.own e he with ⟨c, fit, hc⟩ | ⟨k, hk, asked, ha, same⟩
    · exact other c fit (named ▸ List.mem_map_of_mem hc)
    · have nodes : path = asked :=
        congrArg MetricName.nodes (MetricName.join_left_cancel (named.symm.trans same))
      exact unasked k hk (nodes ▸ ha)
  have unposted : d.base.join ⟨path⟩ ∉ (a.log s.deeds).map (·.1) := by
    intro hm
    obtain ⟨e, he, named⟩ := List.mem_map.mp hm
    exact unheld (named ▸ h.posted e he)
  refine ⟨?_, fun k hk hm => unposted ?_⟩
  · rw [Registry.account?_eq_none_iff]
    exact h.books.free _ _ hs (not_or.mpr ⟨unheld, unposted⟩)
  · obtain ⟨e, he, rfl⟩ := List.mem_map.mp hm
    exact List.mem_map.mpr ⟨_, List.mem_flatMap.mpr ⟨k, hk, List.mem_map_of_mem he⟩, rfl⟩

end Accounts

end Desk

end Telemetry.Component
