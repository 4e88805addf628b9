import Telemetry.Pattern.Standard
import Telemetry.Proofs.Component.Isolation
import Telemetry.Proofs.Component.Presence

/-!
Verticles. They come and go without tokens: whoever has a runtime may say of any name that it is
gone, even if it never came. Still the counter of all is the sum of the counters of the names. The
other components below the root are free to do what they want.
-/

namespace Telemetry.Component

open Registry (Books Leaves Splits)

def Runtime.total (root : MetricName) : MetricName := root.below ["verticles"]

/-- The metrics of verticles, among all that there are below the root. -/
def Runtime.watched (root : MetricName) : Schema := (presenceLayout "verticles" none).schema root

theorem Runtime.watched_total (root : MetricName) : watched root (total root) = some .counter :=
  presenceLayout_total (by decide) none root

theorem Runtime.watched_child (root : MetricName) (node : Node) :
    watched root ((total root).child node) = some .counter :=
  presenceLayout_child (by decide) none root node

theorem Runtime.watched_ne_gauge (root name : MetricName) : watched root name ≠ some .gauge := by
  intro hk
  obtain ⟨ns, -, hl⟩ := Option.bind_eq_some_iff.mp hk
  unfold presenceLayout at hl
  split at hl <;> simp at hl

theorem Runtime.watched_sub (root : MetricName) : (watched root).Sub (layout.schema root) :=
  (presenceLayout_sub rfl (fun _ => rfl) (by rintro _ ⟨⟩)).schema root

/-- The runtimes there are at a root, and all verticles that came and went. -/
structure Deployments where
  registry : Registry
  runtimes : List Runtime
  moves : List Move

namespace Deployments

inductive Step (root : MetricName) (s : Deployments) : Deployments → Prop
  | build {eventLoops workers : Nat} {c : Runtime} {r : Registry}
    (h : (Runtime.new root eventLoops workers).run s.registry = (.ok c, r)) :
    Step root s { s with registry := r, runtimes := c :: s.runtimes }
  | deploy {c : Runtime} (hc : c ∈ s.runtimes) (v : String) :
    Step root s ⟨c.verticleDeployed v s.registry, s.runtimes, s.moves ++ [.enter v]⟩
  | undeploy {c : Runtime} (hc : c ∈ s.runtimes) (v : String) :
    Step root s ⟨c.verticleUndeployed v s.registry, s.runtimes, s.moves ++ [.leave v]⟩
  | other {r : Registry} (h : Leaves (Runtime.watched root) s.registry r) :
    Step root s { s with registry := r }

variable {root : MetricName} {s t : Deployments} {held : List (MetricName × MetricId)}
  {log : List (MetricName × BitVec 64)}

/-- The part is asked for at each call, and so nobody needs to keep it. -/
theorem books_deploy {c : Runtime} {r : Registry} (books : Books (Runtime.watched root) held log r)
    (base : c.base = root) (hm : (Runtime.total root, c.verticles) ∈ held) (v : String)
    (n : Int64) :
    Books (Runtime.watched root) held
      (log ++ [(Runtime.total root, n.toBitVec), ((Runtime.total root).childOf v, n.toBitVec)])
      (c.deploy v n r) := by
  obtain ⟨part, r', hr, counted⟩ := books.countIn hm (Runtime.watched_total root) v
    (Runtime.watched_child root _) n
  have name : composeDynamic c.base "verticles" v = .ok ((Runtime.total root).childOf v) :=
    base ▸ composeDynamic_childOf rfl v
  have deployed : c.deploy v n r = r'.record part (.add n) := by
    simp only [Runtime.deploy, name, hr]
    rfl
  rw [deployed]
  exact counted.drop (.inr (by simp))

/-- The books show all moves, and only the whole is held. -/
structure Kept (root : MetricName) (held : List (MetricName × MetricId)) (s : Deployments) :
    Prop where
  books : Books (Runtime.watched root) held
    (s.moves.flatMap (·.entries (Runtime.total root) none)) s.registry
  whole : ∃ id, (Runtime.total root, id) ∈ held
  own : ∀ e ∈ held, e.1 = Runtime.total root
  runtimes : ∀ c ∈ s.runtimes, c.base = root ∧ (Runtime.total root, c.verticles) ∈ held

theorem Kept.step (h : s.Kept root held) (hs : Step root s t) : ∃ held', t.Kept root held' := by
  cases hs with
  | @build _ _ c r hr =>
    obtain ⟨base, books⟩ := Runtime.leads_new (Runtime.watched_sub root).agrees
      (Runtime.watched_ne_gauge root) s.registry c r h.books hr
    refine ⟨held ++ [(Runtime.total root, c.verticles)], books,
      h.whole.imp fun _ => List.mem_append_left _, fun e he => ?_, fun d hd => ?_⟩
    · rcases List.mem_append.mp he with he | he
      · exact h.own e he
      · cases List.mem_singleton.mp he
        rfl
    · rcases List.mem_cons.mp hd with rfl | hd
      · exact ⟨base, List.mem_append_right _ (List.mem_singleton_self _)⟩
      · exact (h.runtimes d hd).imp_right (List.mem_append_left _)
  | @deploy c hc v =>
    obtain ⟨base, hm⟩ := h.runtimes c hc
    refine ⟨held, ?_, h.whole, h.own, h.runtimes⟩
    rw [List.flatMap_append, List.flatMap_singleton]
    exact books_deploy h.books base hm v 1
  | @undeploy c hc v =>
    obtain ⟨base, hm⟩ := h.runtimes c hc
    refine ⟨held, ?_, h.whole, h.own, h.runtimes⟩
    rw [List.flatMap_append, List.flatMap_singleton]
    exact books_deploy h.books base hm v (-1)
  | other left => exact ⟨held, h.books.leaves left, h.whole, h.own, h.runtimes⟩

theorem Kept.run (h : s.Kept root held) (hr : Relation.ReflTransGen (Step root) s t) :
    ∃ held', t.Kept root held' := by
  induction hr with
  | refl => exact ⟨held, h⟩
  | tail _ step ih =>
    obtain ⟨_, kept⟩ := ih
    exact kept.step step

theorem Kept.splits (h : s.Kept root held) :
    Splits s.registry (Runtime.total root) (net s.moves) (netOf s.moves)
      (s.moves.map Move.value) := by
  obtain ⟨id, hm⟩ := h.whole
  have aside : Aside (Runtime.total root) none := fun _ he => by cases he
  refine h.books.splits aside hm (Runtime.watched_total root) (Runtime.watched_child root) ?_
  intro node hn
  obtain ⟨e, he, named⟩ := List.mem_map.mp hn
  exact absurd (named.symm.trans (h.own e he)) (child_ne _ node)

end Deployments

/-- Other components may have been there before, as long as they leave the runtime its names. -/
theorem Runtime.exists_new (root : MetricName) (eventLoops workers : Nat) {r : Registry}
    (free : ∀ path ∈ ownNames, r.namesFrom (root.below [path]) = []) :
    ∃ c r', (new root eventLoops workers).run r = (.ok c, r') ∧
      (Deployments.mk r' [c] []).Kept root [(total root, c.verticles)] := by
  have unbound : ∀ name, (layout.schema root name).isSome → r.id? name = none := by
    intro name hs
    obtain ⟨path, hp, below⟩ := Runtime.owns_of_schema hs
    obtain ⟨own, ho, rfl⟩ := List.mem_map.mp hp
    exact Registry.namesFrom_eq_nil_iff.mp (free own ho) name below
  obtain ⟨c, r', hr, base, books⟩ := Setup.exists_run_of_unbound
    (within_new root eventLoops workers)
    (leads_new (watched_sub root).agrees (watched_ne_gauge root)) (watched_sub root) unbound
  refine ⟨c, r', hr, books, ⟨_, List.mem_singleton_self _⟩, fun e he => ?_, fun d hd => ?_⟩
  · cases List.mem_singleton.mp he
    rfl
  · obtain rfl := List.mem_singleton.mp hd
    exact ⟨base, List.mem_singleton_self _⟩

/-- From a fresh base on, whatever happens, what is open in all is the sum of what is open of each
remote host, web sockets as well as sockets, and each host is shown with its own sockets. All who
left are timed. Verticles add up in the same way, each name with its balance. -/
theorem total_eq_sum_of_parts [Pattern.Engine] :
    (∀ base r, r.namesFrom base = [] →
      ∃ c r', (Tcp.new base).run r = (.ok c, r') ∧
        ∀ s, Relation.ReflTransGen (sockets base).Step ⟨r', [c], [], []⟩ s →
          Splits s.registry (base.below ["open-netsockets"]) (.ofNat 64 s.present.length)
              (fun v => .ofNat 64 (s.present.countP (·.1 = v))) (s.moves.map Move.value) ∧
            s.registry.account? (base.below ["connections"]) =
              some ⟨.timer, .ofNat 64 (s.moves.countP (!·.isEnter))⟩) ∧
    (∀ root host port rules r,
      r.namesFrom (root.below ["http", "servers", address host port]) = [] →
        ∃ c r', (HttpServer.new root host port rules).run r = (.ok c, r') ∧
          ∀ s, Relation.ReflTransGen (webSockets root host port).Step ⟨r', [c], [], []⟩ s →
            Splits s.registry
              ((root.below ["http", "servers", address host port]).below ["open-websockets"])
              (.ofNat 64 s.present.length) (fun v => .ofNat 64 (s.present.countP (·.1 = v)))
              (s.moves.map Move.value)) ∧
    ∀ root eventLoops workers r,
      (∀ path ∈ Runtime.ownNames, r.namesFrom (root.below [path]) = []) →
        ∃ c r', (Runtime.new root eventLoops workers).run r = (.ok c, r') ∧
          ∀ s, Relation.ReflTransGen (Deployments.Step root) ⟨r', [c], []⟩ s →
            Splits s.registry (root.below ["verticles"]) (net s.moves) (netOf s.moves)
              (s.moves.map Move.value) := by
  refine ⟨fun base r free => ?_, fun root host port rules r free => ?_,
    fun root eventLoops workers r free => ?_⟩
  · have lawful := lawful_sockets base
    obtain ⟨c, r', hr, fit, books⟩ := Setup.exists_run_of_unbound (Tcp.within_new base)
      (lawful.leads _ rfl [] []) (sockets_watched_sub base)
      (fun _ => Layout.unbound_of_namesFrom _ free)
    refine ⟨c, r', hr, fun s reached => ?_⟩
    obtain ⟨split, exits⟩ := Visits.splits lawful fit books reached
    exact ⟨split, exits _ rfl⟩
  · have lawful := lawful_webSockets root host port
    obtain ⟨c, r', hr, fit, books⟩ := Setup.exists_run_of_unbound
      (HttpServer.within_new root host port rules) (lawful.leads _ ⟨rules, rfl⟩ [] [])
      (webSockets_watched_sub root host port) (fun _ => Layout.unbound_of_namesFrom _ free)
    exact ⟨c, r', hr, fun s reached => (Visits.splits lawful fit books reached).1⟩
  · obtain ⟨c, r', hr, start⟩ := Runtime.exists_new root eventLoops workers free
    refine ⟨c, r', hr, fun s reached => ?_⟩
    obtain ⟨held, kept⟩ := start.run reached
    exact kept.splits

/-- One of two sockets goes again, and a verticle goes that never came. -/
theorem total_eq_sum_of_parts_app :
    let base := MetricName.ofNode (.escape "app")
    let r := Registry.withClock (.startingAt 0)
    (r.namesFrom base = [] ∧ ∃ c r', (Tcp.new base).run r = (.ok c, r') ∧
      ∃ s, Relation.ReflTransGen (sockets base).Step ⟨r', [c], [], []⟩ s ∧
        s.registry.account? (base.below ["open-netsockets"]) = some ⟨.counter, 1⟩ ∧
        s.registry.account? ((base.below ["open-netsockets"]).childOf "") = some ⟨.counter, 1⟩ ∧
        s.registry.account? ((base.below ["open-netsockets"]).childOf "a.b") =
          some ⟨.counter, 0⟩ ∧
        s.registry.account? (base.below ["connections"]) = some ⟨.timer, 1⟩) ∧
    (∀ path ∈ Runtime.ownNames, r.namesFrom (base.below [path]) = []) ∧
      ∃ c r', (Runtime.new base 2 20).run r = (.ok c, r') ∧
        ∃ s, Relation.ReflTransGen (Deployments.Step base) ⟨r', [c], []⟩ s ∧
          s.registry.account? (base.below ["verticles"]) = some ⟨.counter, -1⟩ := by
  intro base r
  obtain ⟨opened, -, deployed⟩ := total_eq_sum_of_parts
  refine ⟨⟨rfl, ?_⟩, fun _ _ => rfl, ?_⟩
  · obtain ⟨c, r', hr, law⟩ := opened base r rfl
    obtain ⟨s, reached, inside, moved⟩ : ∃ s,
        Relation.ReflTransGen (sockets base).Step ⟨r', [c], [], []⟩ s ∧
          s.present.map (·.1) = [""] ∧ s.moves = [.enter "", .enter "a.b", .leave "a.b"] :=
      ⟨_, ((Relation.ReflTransGen.refl.tail (.enter List.mem_cons_self "")).tail
        (.enter List.mem_cons_self "a.b")).tail (.leave List.mem_cons_self (.refl _)), rfl, rfl⟩
    obtain ⟨t, present⟩ : ∃ t, s.present = [("", t)] := by
      obtain ⟨⟨v, t⟩, single⟩ := List.length_eq_one_iff.mp (by simpa using congrArg List.length inside)
      rw [single] at inside
      cases inside
      exact ⟨t, single⟩
    obtain ⟨split, exits⟩ := law s reached
    rw [moved, present] at split
    rw [moved] at exits
    exact ⟨c, r', hr, s, reached, split.whole, split.parts "", split.parts "a.b", exits⟩
  · obtain ⟨c, r', hr, law⟩ := deployed base 2 20 r fun _ _ => rfl
    obtain ⟨s, reached, moved⟩ : ∃ s,
        Relation.ReflTransGen (Deployments.Step base) ⟨r', [c], []⟩ s ∧ s.moves = [.leave "v"] :=
      ⟨_, Relation.ReflTransGen.refl.tail (.undeploy List.mem_cons_self "v"), rfl⟩
    have split := law s reached
    rw [moved] at split
    exact ⟨c, r', hr, s, reached, split.whole⟩

end Telemetry.Component
