import Mathlib.Logic.Relation
import Telemetry.Proofs.Component.Parts

/-!
Who is inside. Sockets and web sockets come and go through any number of recorders with one base, in
any order, each with a token that it gives back when it goes. The counter of all of them, the
counters of their remote hosts and the tokens always agree. Verticles are counted in the same way,
but they have no tokens.
-/

namespace Telemetry.Component

open Registry (Books Leaves Splits balance)
open Setup (Leads)

/-- Recorders with one base that let peers in and out. -/
structure Gate (ρ τ : Type) where
  base : MetricName
  /-- What is counted is counted below this name. -/
  path : String
  /-- What else those who leave are counted by. -/
  timer? : Option String
  builds : Setup ρ → Prop
  enter : ρ → String → Registry → τ × Registry
  leave : ρ → τ → Registry → Registry

def sockets (base : MetricName) : Gate Tcp Socket where
  base := base
  path := "open-netsockets"
  timer? := some "connections"
  builds m := m = Tcp.new base
  enter := Tcp.connected
  leave := Tcp.disconnected

def webSockets [Pattern.Engine] (root : MetricName) (host : String) (port : Nat) :
    Gate HttpServer WebSocket where
  base := root.below ["http", "servers", address host port]
  path := "open-websockets"
  timer? := none
  builds m := ∃ rules, m = HttpServer.new root host port rules
  enter := HttpServer.webSocketConnected
  leave := HttpServer.webSocketDisconnected

variable {ρ τ : Type}

/-- The recorders there are, who is inside, and all who came and went. -/
structure Visits (ρ τ : Type) where
  registry : Registry
  recorders : List ρ
  present : List (String × τ)
  moves : List Move

namespace Gate

def total (g : Gate ρ τ) : MetricName := g.base.below [g.path]

def exits (g : Gate ρ τ) : Option MetricName := g.timer?.map fun t => g.base.below [t]

def watched (g : Gate ρ τ) : Schema := (presenceLayout g.path g.timer?).schema g.base

/-- Anyone may come, but only those who are inside may go. -/
inductive Step (g : Gate ρ τ) (s : Visits ρ τ) : Visits ρ τ → Prop
  | build {m : Setup ρ} {c : ρ} {r : Registry} (hm : g.builds m)
    (h : m.run s.registry = (.ok c, r)) :
    Step g s { s with registry := r, recorders := c :: s.recorders }
  | enter {c : ρ} (hc : c ∈ s.recorders) (v : String) :
    Step g s ⟨(g.enter c v s.registry).2, s.recorders, (v, (g.enter c v s.registry).1) :: s.present,
      s.moves ++ [.enter v]⟩
  | leave {c : ρ} (hc : c ∈ s.recorders) {v : String} {t : τ} {rest : List (String × τ)}
    (h : s.present.Perm ((v, t) :: rest)) :
    Step g s ⟨g.leave c t s.registry, s.recorders, rest, s.moves ++ [.leave v]⟩
  | other {r : Registry} (h : Leaves g.watched s.registry r) : Step g s { s with registry := r }

/-- How recorders of a gate keep their books: with the metrics that they know from the start, and
with those that they hand out in tokens. -/
structure Lawful (g : Gate ρ τ) (fits : ρ → Prop) (handles : ρ → List (MetricName × MetricId))
    (remote : τ → Option MetricId) : Prop where
  plain : (Node.escape g.path).text = g.path
  timer : ∀ t ∈ g.timer?, t ≠ g.path ∧ (Node.escape t).text = t
  leads : ∀ m, g.builds m → ∀ held log, Leads (Books g.watched held log) m fun c r =>
    fits c ∧ Books g.watched (held ++ handles c) log r
  own : ∀ c, fits c → ∀ e ∈ handles c, ∃ t, e.1 = g.base.below [t]
  whole : ∀ c, fits c → ∃ id, (g.total, id) ∈ handles c
  exits : ∀ c, fits c → ∀ e ∈ g.exits, ∃ id, (e, id) ∈ handles c
  enter : ∀ c v r held log, fits c → handles c ⊆ held → Books g.watched held log r →
    ∃ part, remote (g.enter c v r).1 = some part ∧
      Books g.watched (held ++ [(g.total.childOf v, part)])
        (log ++ (Move.enter v).entries g.total g.exits) (g.enter c v r).2
  leave : ∀ c v t part r held log, fits c → handles c ⊆ held → remote t = some part →
    (g.total.childOf v, part) ∈ held → Books g.watched held log r →
    Books g.watched held (log ++ (Move.leave v).entries g.total g.exits) (g.leave c t r)

end Gate

namespace Visits

variable {g : Gate ρ τ} {fits : ρ → Prop} {handles : ρ → List (MetricName × MetricId)}
  {remote : τ → Option MetricId} {held held' : List (MetricName × MetricId)} {s t : Visits ρ τ}

/-! ### Tokens -/

/-- Those are inside who came and did not go. -/
structure Tallies (s : Visits ρ τ) : Prop where
  all : s.moves.countP (·.isEnter) = s.present.length + s.moves.countP (!·.isEnter)
  each : ∀ v, s.moves.count (.enter v) = s.present.countP (·.1 = v) + s.moves.count (.leave v)

theorem Tallies.step (h : s.Tallies) (hs : g.Step s t) : t.Tallies := by
  obtain ⟨all, each⟩ := h
  cases hs with
  | build => exact ⟨all, each⟩
  | enter _ v =>
    refine ⟨?_, fun w => ?_⟩
    · simp [List.countP_append, all]
      omega
    · simp only [List.count_append, List.count_singleton, List.countP_cons, each]
      by_cases same : v = w <;> simp [same]
      omega
  | @leave _ _ v t rest hp =>
    refine ⟨?_, fun w => ?_⟩
    · simp [List.countP_append, all, hp.length_eq]
      omega
    · simp only [List.count_append, List.count_singleton, hp.countP_eq, List.countP_cons, each]
      by_cases same : v = w <;> simp [same]
      omega
  | other => exact ⟨all, each⟩

theorem Tallies.run (h : s.Tallies) (hr : Relation.ReflTransGen g.Step s t) : t.Tallies := by
  induction hr with
  | refl => exact h
  | tail _ step ih => exact ih.step step

theorem Tallies.net_eq (h : s.Tallies) : net s.moves = .ofNat 64 s.present.length := by
  rw [net, h.all, BitVec.ofNat_add]
  exact add_sub_cancel_right ..

theorem Tallies.netOf_eq (h : s.Tallies) (v : String) :
    netOf s.moves v = .ofNat 64 (s.present.countP (·.1 = v)) := by
  rw [netOf, h.each, BitVec.ofNat_add]
  exact add_sub_cancel_right ..

/-! ### Books -/

/-- What recorders and tokens need in order to count is there. -/
structure Equipped (g : Gate ρ τ) (fits : ρ → Prop) (handles : ρ → List (MetricName × MetricId))
    (remote : τ → Option MetricId) (held : List (MetricName × MetricId)) (s : Visits ρ τ) :
    Prop where
  whole : ∃ id, (g.total, id) ∈ held
  exits : ∀ e ∈ g.exits, ∃ id, (e, id) ∈ held
  recorders : ∀ c ∈ s.recorders, fits c ∧ handles c ⊆ held
  tokens : ∀ t ∈ s.present, ∃ part, remote t.2 = some part ∧ (g.total.childOf t.1, part) ∈ held

theorem Equipped.mono (h : s.Equipped g fits handles remote held) (sub : held ⊆ held') :
    s.Equipped g fits handles remote held' where
  whole := h.whole.imp fun _ hm => sub hm
  exits e he := (h.exits e he).imp fun _ hm => sub hm
  recorders c hc := (h.recorders c hc).imp_right fun known => List.Subset.trans known sub
  tokens t ht := (h.tokens t ht).imp fun _ => And.imp_right fun hm => sub hm

/-- The books show all moves. Apart from what is known from the start only parts are held. -/
structure Kept (g : Gate ρ τ) (fits : ρ → Prop) (handles : ρ → List (MetricName × MetricId))
    (remote : τ → Option MetricId) (held : List (MetricName × MetricId)) (s : Visits ρ τ) :
    Prop where
  books : Books g.watched held (s.moves.flatMap (·.entries g.total g.exits)) s.registry
  own : ∀ e ∈ held, (∃ t, e.1 = g.base.below [t]) ∨ ∃ m ∈ s.moves, e.1 = g.total.childOf m.value
  equipped : s.Equipped g fits handles remote held

theorem Kept.step (h : s.Kept g fits handles remote held) (lawful : g.Lawful fits handles remote)
    (hs : g.Step s t) : ∃ held', t.Kept g fits handles remote held' := by
  cases hs with
  | @build m c r hm hr =>
    obtain ⟨fit, books⟩ := lawful.leads m hm held _ s.registry c r h.books hr
    have before := h.equipped.mono (List.subset_append_left held (handles c))
    refine ⟨held ++ handles c, books, fun e he => ?_, { before with recorders := fun d hd => ?_ }⟩
    · rcases List.mem_append.mp he with he | he
      · exact h.own e he
      · exact .inl (lawful.own c fit e he)
    · rcases List.mem_cons.mp hd with rfl | hd
      · exact ⟨fit, List.subset_append_right ..⟩
      · exact before.recorders d hd
  | @enter c hc v =>
    obtain ⟨fit, known⟩ := h.equipped.recorders c hc
    obtain ⟨part, hp, books⟩ := lawful.enter c v s.registry held _ fit known h.books
    -- the token keeps the part for as long as its owner is inside, and so it is held from now on
    have before := h.equipped.mono (List.subset_append_left held [(g.total.childOf v, part)])
    refine ⟨held ++ [(g.total.childOf v, part)], ?_, fun e he => ?_,
      { before with tokens := fun t ht => ?_ }⟩
    · rw [List.flatMap_append, List.flatMap_singleton]
      exact books
    · rcases List.mem_append.mp he with he | he
      · exact (h.own e he).imp_right fun ⟨m, hm, named⟩ => ⟨m, List.mem_append_left _ hm, named⟩
      · cases List.mem_singleton.mp he
        exact .inr ⟨.enter v, List.mem_append_right _ (List.mem_singleton_self _), rfl⟩
    · rcases List.mem_cons.mp ht with rfl | ht
      · exact ⟨part, hp, List.mem_append_right _ (List.mem_singleton_self _)⟩
      · exact before.tokens t ht
  | @leave c hc v t rest perm =>
    obtain ⟨fit, known⟩ := h.equipped.recorders c hc
    obtain ⟨part, hp, hm⟩ := h.equipped.tokens (v, t) (perm.mem_iff.mpr List.mem_cons_self)
    have books := lawful.leave c v t part s.registry held _ fit known hp hm h.books
    refine ⟨held, ?_, fun e he => ?_, { h.equipped with tokens := fun t ht => ?_ }⟩
    · rw [List.flatMap_append, List.flatMap_singleton]
      exact books
    · exact (h.own e he).imp_right fun ⟨m, hm, named⟩ => ⟨m, List.mem_append_left _ hm, named⟩
    · exact h.equipped.tokens t (perm.mem_iff.mpr (List.mem_cons_of_mem _ ht))
  | other left => exact ⟨held, h.books.leaves left, h.own, { h.equipped with }⟩

theorem Kept.run (h : s.Kept g fits handles remote held) (lawful : g.Lawful fits handles remote)
    (hr : Relation.ReflTransGen g.Step s t) : ∃ held', t.Kept g fits handles remote held' := by
  induction hr with
  | refl => exact ⟨held, h⟩
  | tail _ step ih =>
    obtain ⟨_, kept⟩ := ih
    exact kept.step lawful step

end Visits

/-! ### Sockets and web sockets -/

namespace Gate

variable {g : Gate ρ τ} {fits : ρ → Prop} {handles : ρ → List (MetricName × MetricId)}
  {remote : τ → Option MetricId}

theorem Lawful.watched_exit (lawful : g.Lawful fits handles remote) {e : MetricName}
    (he : e ∈ g.exits) : g.watched e = some .timer := by
  obtain ⟨t, ht, rfl⟩ := Option.map_eq_some_iff.mp he
  obtain ⟨other, plain⟩ := lawful.timer t ht
  refine (Layout.schema_join _ g.base ⟨[_]⟩).trans ?_
  simp [presenceLayout, plain, other, ht]

theorem Lawful.aside (lawful : g.Lawful fits handles remote) : Aside g.total g.exits := by
  intro e he
  obtain ⟨t, ht, rfl⟩ := Option.map_eq_some_iff.mp he
  refine ⟨fun same => ?_, fun node same => ?_⟩
  · exact (lawful.timer t ht).1 (childOf_inj.mp same)
  · have lengths := congrArg (·.nodes.length) same
    simp [total, MetricName.below, MetricName.child] at lengths

end Gate

theorem composeDynamic_childOf {base : MetricName} {path : String}
    (h : base.joinPath path = .ok (base.below [path])) (v : String) :
    composeDynamic base path v = .ok ((base.below [path]).childOf v) := by
  rw [composeDynamic_of_plain h, MetricName.below_childOf]
  rfl

theorem sockets_watched_sub (base : MetricName) :
    (sockets base).watched.Sub (Tcp.layout.schema base) :=
  (presenceLayout_sub rfl (fun _ => rfl) (by rintro _ ⟨⟩; rfl)).schema base

theorem webSockets_watched_sub [Pattern.Engine] (root : MetricName) (host : String) (port : Nat) :
    (webSockets root host port).watched.Sub
      (HttpServer.layout.schema (root.below ["http", "servers", address host port])) :=
  (presenceLayout_sub rfl (fun _ => rfl) (by rintro _ ⟨⟩)).schema _

theorem lawful_sockets (base : MetricName) :
    (sockets base).Lawful (·.base = base) Tcp.handles Socket.remote := by
  have plain : (Node.escape "open-netsockets").text = "open-netsockets" := by decide
  have total := presenceLayout_total plain (some "connections") base
  have child := presenceLayout_child plain (some "connections") base
  constructor
  case plain => exact plain
  case timer =>
    rintro _ ⟨⟩
    have known : "connections" ≠ "open-netsockets" ∧
      (Node.escape "connections").text = "connections" := by decide
    exact known
  case leads =>
    rintro _ rfl held log
    exact Tcp.leads_new (sockets_watched_sub base).agrees
  case own =>
    rintro c rfl e he
    obtain ⟨path, -, named⟩ := c.exists_text_of_mem_handles e he
    exact ⟨path, named⟩
  case whole =>
    rintro c rfl
    exact ⟨c.openSockets, List.mem_cons_self⟩
  case exits =>
    rintro c rfl _ ⟨⟩
    exact ⟨c.connections, List.mem_cons_of_mem _ List.mem_cons_self⟩
  case enter =>
    rintro c v r held log rfl known books
    obtain ⟨part, r', hr, counted⟩ := books.countIn (known List.mem_cons_self) total v (child _) 1
    have name : composeDynamic c.base "open-netsockets" v =
        .ok ((c.base.below ["open-netsockets"]).childOf v) := composeDynamic_childOf rfl v
    have enters : c.connected v r = (⟨some part, r'.now⟩, r'.record part (.add 1)) := by
      simp only [Tcp.connected, name, hr]
      rfl
    exact ⟨part, congrArg (·.1.remote) enters, (congrArg (·.2) enters).symm ▸ counted⟩
  case leave =>
    rintro c v ⟨_, start⟩ part r held log rfl known rfl hm books
    have counted := books.countBack (known List.mem_cons_self) hm total (child _) (-1)
    have timed : (sockets c.base).watched (c.base.below ["connections"]) = some .timer :=
      Layout.schema_join ..
    have left := counted.record (e := .duration (Nanos.since r.now start))
      (known (List.mem_cons_of_mem _ List.mem_cons_self)) timed rfl
    rw [List.append_assoc] at left
    exact left

theorem lawful_webSockets [Pattern.Engine] (root : MetricName) (host : String) (port : Nat) :
    (webSockets root host port).Lawful
      (·.base = root.below ["http", "servers", address host port]) HttpServer.handles
      WebSocket.remote := by
  have plain : (Node.escape "open-websockets").text = "open-websockets" := by decide
  have total := presenceLayout_total plain none (webSockets root host port).base
  have child := presenceLayout_child plain none (webSockets root host port).base
  have whole (c : HttpServer) (fit : c.base = root.below ["http", "servers", address host port]) :
      ((webSockets root host port).total, c.openWebSockets) ∈ c.handles := by
    have own : (c.base.below ["open-websockets"], c.openWebSockets) ∈ c.handles :=
      List.mem_append_right _ List.mem_cons_self
    rw [fit] at own
    exact own
  constructor
  case plain => exact plain
  case timer => rintro _ ⟨⟩
  case leads =>
    rintro _ ⟨rules, rfl⟩ held log r c r' books hr
    have agrees := (webSockets_watched_sub root host port).agrees
    exact (HttpServer.leads_new agrees r c r' books hr).imp_left (·.1)
  case own =>
    intro c fit e he
    obtain ⟨path, -, named⟩ := exists_text_of_mem_sideHandles he
    exact ⟨path, named.trans (congrArg (·.below [path]) fit)⟩
  case whole =>
    intro c fit
    exact ⟨c.openWebSockets, whole c fit⟩
  case exits => rintro c fit _ ⟨⟩
  case enter =>
    intro c v r held log fit known books
    obtain ⟨part, r', hr, counted⟩ := books.countIn (known (whole c fit)) total v (child _) 1
    have name : composeDynamic c.base "open-websockets" v =
        .ok ((webSockets root host port).total.childOf v) := fit ▸ composeDynamic_childOf rfl v
    have enters : c.webSocketConnected v r = (⟨some part⟩, r'.record part (.add 1)) := by
      simp only [HttpServer.webSocketConnected, name, hr]
      rfl
    exact ⟨part, congrArg (·.1.remote) enters, (congrArg (·.2) enters).symm ▸ counted⟩
  case leave =>
    rintro c v ⟨_⟩ part r held log fit known rfl hm books
    exact books.countBack (known (whole c fit)) hm total (child _) (-1)

/-! ### What the counters tell -/

namespace Visits

variable {g : Gate ρ τ} {fits : ρ → Prop} {handles : ρ → List (MetricName × MetricId)}
  {remote : τ → Option MetricId} {held : List (MetricName × MetricId)} {s : Visits ρ τ}

theorem Kept.part_entered (h : s.Kept g fits handles remote held) (aside : Aside g.total g.exits)
    (node : Node) (hm : g.total.child node ∈ held.map (·.1)) :
    g.total.child node ∈ (s.moves.flatMap (·.entries g.total g.exits)).map (·.1) := by
  obtain ⟨e, he, named⟩ := List.mem_map.mp hm
  rcases h.own e he with ⟨t, ht⟩ | ⟨m, moved, hp⟩
  · -- what is known from the start is directly below the base
    have lengths := congrArg (·.nodes.length) (named.symm.trans ht)
    simp [Gate.total, MetricName.below, MetricName.child] at lengths
  · exact (mem_entries_child aside).mpr ⟨m.value, List.mem_map_of_mem moved, named.symm.trans hp⟩

theorem splits (lawful : g.Lawful fits handles remote) {c : ρ} {r : Registry} (fit : fits c)
    (books : Books g.watched (handles c) [] r)
    (reached : Relation.ReflTransGen g.Step ⟨r, [c], [], []⟩ s) :
    Splits s.registry g.total (.ofNat 64 s.present.length)
        (fun v => .ofNat 64 (s.present.countP (·.1 = v))) (s.moves.map Move.value) ∧
      ∀ e ∈ g.exits,
        s.registry.account? e = some ⟨.timer, .ofNat 64 (s.moves.countP (!·.isEnter))⟩ := by
  have start : (Visits.mk r [c] [] []).Kept g fits handles remote (handles c) := by
    refine ⟨books, fun e he => .inl (lawful.own c fit e he), ⟨lawful.whole c fit,
      lawful.exits c fit, fun d hd => ?_, fun _ ht => by cases ht⟩⟩
    obtain rfl := List.mem_singleton.mp hd
    exact ⟨fit, List.Subset.refl _⟩
  obtain ⟨held, kept⟩ := start.run lawful reached
  have none_yet : (Visits.mk r [c] [] [] : Visits ρ τ).Tallies := ⟨rfl, fun _ => rfl⟩
  have tallies := none_yet.run reached
  obtain ⟨whole, hm⟩ := kept.equipped.whole
  refine ⟨?_, fun e he => ?_⟩
  · have counted := kept.books.splits lawful.aside hm
      (presenceLayout_total lawful.plain g.timer? g.base)
      (presenceLayout_child lawful.plain g.timer? g.base) (kept.part_entered lawful.aside)
    rw [tallies.net_eq, funext tallies.netOf_eq] at counted
    exact counted
  · obtain ⟨id, hm⟩ := kept.equipped.exits e he
    have timed := kept.books.account e .timer (lawful.watched_exit he) (Registry.known_of_held hm)
    have aside := lawful.aside
    rw [Option.mem_def.mp he] at timed aside
    rw [timed, balance_exit aside]

end Visits

end Telemetry.Component
