import Telemetry.Proofs.Component.Isolation

/-!
The names that a call asks for. They are bound once it is done, whether or not they were bound
before, and nothing else changes. So what is bound below the base of a recorder that has it to
itself can be told from the calls, in particular after everything there was removed.
-/

namespace Telemetry

namespace Registry

variable {r r' : Registry} {name base : MetricName} {names : List MetricName}

theorem namesFrom_eq_nil_iff :
    r.namesFrom base = [] ↔ ∀ name, name.startsWith base → r.id? name = none := by
  rw [List.eq_nil_iff_forall_not_mem]
  apply forall_congr'
  intro name
  rw [mem_namesFrom, Option.isSome_iff_ne_none]
  tauto

/-- The names are bound too, and all else is bound as before. -/
def Gains (r r' : Registry) (names : List MetricName) : Prop :=
  ∀ name, (r'.id? name).isSome ↔ (r.id? name).isSome ∨ name ∈ names

namespace Gains

theorem refl : Gains r r [] := fun name => by simp

theorem record (h : Gains r r' names) (id : MetricId) (e : Event) :
    Gains r (r'.record id e) names := h

theorem recordIn (h : Gains r r' names) (id? : Option MetricId) (e : Event) :
    Gains r (r'.recordIn id? e) names := by
  cases id? with
  | none => exact h
  | some id => exact h.record id e

theorem recordAll (h : Gains r r' names) (es : List (MetricId × Event)) :
    Gains r (r'.recordAll es) names := by
  induction es generalizing r' with
  | nil => exact h
  | cons e es ih => exact ih (h.record e.1 e.2)

theorem insert (h : Gains r r' names) (name : MetricName) (m : Metric) :
    Gains r (r'.insert name m) (names ++ [name]) := by
  intro other
  by_cases same : other = name
  · simp [same]
  · rw [id?_insert_of_ne r' m same, h other]
    simp [same]

theorem metricIfFree (h : Gains r r' names) (name : MetricName) {kind : Kind}
    (plain : kind ≠ .gauge) : Gains r (r'.metricIfFree (.ok name) kind).2 (names ++ [name]) := by
  have bound {id : MetricId} (hid : r'.id? name = some id) : Gains r r' (names ++ [name]) := by
    intro other
    rw [h other, List.mem_append, List.mem_singleton, ← or_assoc]
    refine (or_iff_left_of_imp ?_).symm
    rintro rfl
    exact (h other).mp (Option.isSome_of_eq_some hid)
  obtain ⟨m, hm⟩ : ∃ m, Metric.new? kind r'.now = some m :=
    Option.ne_none_iff_exists'.mp (mt Metric.new?_eq_none_iff.mp plain)
  rw [Registry.metricIfFree]
  simp only [typed_eq, getOrCreate, hm]
  rcases r'.obtain_cases name kind (some m) with ⟨id, hid, -, ho⟩ | ⟨id, _, hid, -, -, ho⟩ |
    ⟨-, no, -⟩ | ⟨m, -, -, ho⟩
  · rw [ho]
    exact bound hid
  · rw [ho]
    exact bound hid
  · cases no
  · rw [ho]
    exact h.insert name m

end Gains

theorem Uses.id?_of_bound {S : Schema} {id : MetricId} (h : Uses S r r')
    (hid : r.id? name = some id) : r'.id? name = some id := by
  induction h with
  | refl => exact hid
  | record _ _ _ ih => exact ih
  | @obtain r' _ n kind _ new? _ ih =>
    rcases r'.obtain_snd_cases n kind new? with ho | ⟨m, -, free, ho⟩ <;> rw [ho]
    · exact ih
    · rw [id?_insert_of_ne r' m, ih]
      rintro rfl
      rw [free] at ih
      cases ih
  | skip _ _ _ ih => exact ih

end Registry

namespace Component

open Registry (Gains)

def Request.ownNames (q : Request) (base : MetricName) : List MetricName :=
  match q.method with
  | none => []
  | some method => base.child method :: q.uri.toList.map (base.child method).child

theorem Request.gains_finish (q : Request) (base : MetricName) (requests : MetricId)
    (r : Registry) : Gains r (q.finish base requests r) (q.ownNames base) := by
  have timed : Kind.throughputTimer ≠ .gauge := by decide
  rw [finish, ownNames]
  have all := (Gains.refl (r := r)).record requests (.duration (r.now.since q.start))
  cases q.method with
  | none => exact all
  | some method =>
    have byMethod := (all.metricIfFree (base.child method) timed).recordIn
    cases q.uri with
    | none => exact byMethod _ _
    | some uri => exact ((byMethod _ _).metricIfFree _ timed).recordIn _ _

theorem Request.startsWith_of_mem_ownNames {q : Request} {base name : MetricName}
    (h : name ∈ q.ownNames base) : name.startsWith base := by
  unfold ownNames at h
  split at h
  · cases h
  · next method _ =>
    rcases List.mem_cons.mp h with rfl | h
    · exact base.child_startsWith method
    · obtain ⟨uri, -, rfl⟩ := List.mem_map.mp h
      exact MetricName.startsWith_trans (MetricName.child_startsWith _ uri)
        (base.child_startsWith method)

theorem Request.ownNames_eq_nil_iff {q : Request} {base : MetricName} :
    q.ownNames base = [] ↔ q.method = none := by
  rw [ownNames]
  split <;> simp [*]

theorem composeDynamic_of_plain {base : MetricName} {path : String}
    (h : base.joinPath path = .ok (base.below [path])) (name : String) :
    composeDynamic base path name = .ok (base.below [path, name]) := by
  rw [composeDynamic, h]
  exact congrArg Except.ok (MetricName.below_childOf base [path] name)

/-! ### What a call asks for -/

def Runtime.asked (c : Runtime) : Runtime.Call → List MetricName
  | .verticleDeployed name | .verticleUndeployed name => [c.base.below ["verticles", name]]

theorem Runtime.gains_call (c : Runtime) (k : Runtime.Call) (r : Registry) :
    Gains r (c.call k r) (c.asked k) := by
  have deployed (name : String) (n : Int64) :
      Gains r (c.deploy name n r) [c.base.below ["verticles", name]] := by
    rw [deploy, composeDynamic_of_plain rfl]
    exact ((Gains.refl.record _ _).metricIfFree _ (by decide)).recordIn _ _
  cases k with
  | verticleDeployed name => exact deployed name 1
  | verticleUndeployed name => exact deployed name (-1)

def Tcp.asked (c : Tcp) : Tcp.Call → List MetricName
  | .connected remote => [c.base.below ["open-netsockets", remote]]
  | _ => []

theorem Tcp.gains_call (c : Tcp) (k : Tcp.Call) (r : Registry) :
    Gains r (c.call k r) (c.asked k) := by
  cases k with
  | connected remote =>
    change Gains r (c.connected remote r).2 _
    rw [connected, composeDynamic_of_plain rfl]
    exact ((Gains.refl.record _ _).metricIfFree _ (by decide)).recordIn _ _
  | disconnected s => exact ((Gains.refl.record _ _).recordIn _ _).record _ _
  | received bytes => exact Gains.refl.record _ _
  | sent bytes => exact Gains.refl.record _ _
  | exceptionOccurred => exact Gains.refl.record _ _

theorem Tcp.startsWith_of_mem_asked {c : Tcp} {k : Tcp.Call} {name : MetricName}
    (h : name ∈ c.asked k) : name.startsWith c.base := by
  cases k with
  | connected remote =>
    obtain rfl := List.mem_singleton.mp h
    exact c.base.below_startsWith _
  | _ => cases h

theorem Endpoint.gains_call (c : Endpoint) (k : Endpoint.Call) (r : Registry) :
    Gains r (c.call k r) [] := by
  cases k with
  | enqueue => exact Gains.refl.record _ _
  | dequeue q => exact Gains.refl.recordAll _
  | connected => exact Gains.refl.record _ _
  | disconnected => exact Gains.refl.record _ _
  | requestBegin => exact Gains.refl.record _ _
  | responseBegin q => exact Gains.refl.record _ _
  | responseEnd q => exact Gains.refl.recordAll _

def Datagram.asked (c : Datagram) : Datagram.Call → List MetricName
  | .listen host port =>
    match c.listening with
    | some _ => []
    | none => [c.base.below [address host port, "bytes-read"]]
  | _ => []

theorem Datagram.gains_call (c : Datagram) (k : Datagram.Call) (r : Registry) :
    Gains r (c.call k r).2 (c.asked k) := by
  cases k with
  | listen host port =>
    rw [call, listen, asked, compose_ownBase]
    cases c.listening with
    | some l => exact .refl
    | none => exact Gains.refl.metricIfFree _ (by decide)
  | received bytes => exact Gains.refl.recordIn _ _
  | sent bytes => exact Gains.refl.record _ _
  | exceptionOccurred => exact Gains.refl.record _ _

theorem Pool.gains_call (c : Pool) (k : Pool.Call) (r : Registry) : Gains r (c.call k r) [] := by
  cases k with
  | submitted => exact Gains.refl.record _ _
  | rejected => exact Gains.refl.record _ _
  | begin t => exact Gains.refl.recordAll _
  | finish u => exact Gains.refl.recordAll _

variable [Pattern.Engine]

def EventBus.asked (c : EventBus) : EventBus.Call → List MetricName
  | .handlerRegistered address =>
    (c.rules.node? address).toList.map (c.base.below ["handlers"]).child
  | _ => []

theorem EventBus.gains_call (c : EventBus) (k : EventBus.Call) (r : Registry) :
    Gains r (c.call k r) (c.asked k) := by
  cases k with
  | handlerRegistered address =>
    have path : compose c.base "handlers" = .ok (c.base.below ["handlers"]) := rfl
    change Gains r (c.handlerRegistered address r).2 _
    rw [handlerRegistered, asked, path]
    cases c.rules.node? address with
    | none => exact Gains.refl.record _ _
    | some node => exact (Gains.refl.record _ _).metricIfFree _ (by decide)
  | handlerUnregistered => exact Gains.refl.record _ _
  | messageSent publish isLocal => exact Gains.refl.recordAll _
  | messageReceived isLocal handlers =>
    rw [call, messageReceived]
    split
    · exact Gains.refl.recordAll _
    · exact (Gains.refl.recordAll _).recordAll _
  | beginHandleMessage isLocal => exact Gains.refl.recordAll _
  | endHandleMessage h m => exact Gains.refl.recordIn _ _
  | messageRead bytes => exact Gains.refl.record _ _
  | messageWritten bytes => exact Gains.refl.record _ _
  | replyFailure => exact Gains.refl.record _ _

def HttpServer.asked (c : HttpServer) : HttpServer.Call → List MetricName
  | .socket k => c.tcp.asked k
  | .responseEnd q _ => q.ownNames c.base
  | .webSocketConnected remote => [c.base.below ["open-websockets", remote]]
  | .webSocketDisconnected _ => []

theorem HttpServer.gains_call (c : HttpServer) (k : HttpServer.Call) (r : Registry) :
    Gains r (c.call k r) (c.asked k) := by
  cases k with
  | socket k => exact c.tcp.gains_call k r
  | responseEnd q status => exact (q.gains_finish c.base c.requests r).recordIn _ _
  | webSocketConnected remote =>
    change Gains r (c.webSocketConnected remote r).2 _
    rw [webSocketConnected, composeDynamic_of_plain rfl]
    exact ((Gains.refl.record _ _).metricIfFree _ (by decide)).recordIn _ _
  | webSocketDisconnected w => exact (Gains.refl.record _ _).recordIn _ _

def HttpClient.asked (c : HttpClient) : HttpClient.Call → List MetricName
  | .socket k => c.tcp.asked k
  | .responseEnd q _ => q.ownNames c.base
  | .webSocketConnected | .webSocketDisconnected => []

theorem HttpClient.gains_call (c : HttpClient) (k : HttpClient.Call) (r : Registry) :
    Gains r (c.call k r) (c.asked k) := by
  cases k with
  | socket k => exact c.tcp.gains_call k r
  | responseEnd q status => exact (q.gains_finish c.base c.requests r).recordIn _ _
  | webSocketConnected => exact Gains.refl.record _ _
  | webSocketDisconnected => exact Gains.refl.record _ _

/-- The names that a call asks for. -/
def asked : Component → Call → List MetricName
  | .runtime c, .runtime k => c.asked k
  | .eventBus c, .eventBus k => c.asked k
  | .tcp c, .tcp k => c.asked k
  | .httpServer c, .httpServer k => c.asked k
  | .httpClient c, .httpClient k => c.asked k
  | .datagram c, .datagram k => c.asked k
  | _, _ => []

theorem gains_call (c : Component) (k : Call) (r : Registry) :
    Gains r (c.call k r).2 (c.asked k) := by
  cases c with
  | runtime c =>
    cases k with
    | runtime k => exact c.gains_call k r
    | _ => exact .refl
  | eventBus c =>
    cases k with
    | eventBus k => exact c.gains_call k r
    | _ => exact .refl
  | tcp c =>
    cases k with
    | tcp k => exact c.gains_call k r
    | _ => exact .refl
  | httpServer c =>
    cases k with
    | httpServer k => exact c.gains_call k r
    | _ => exact .refl
  | httpClient c =>
    cases k with
    | httpClient k => exact c.gains_call k r
    | _ => exact .refl
  | endpoint c =>
    cases k with
    | endpoint k => exact c.gains_call k r
    | _ => exact .refl
  | datagram c =>
    cases k with
    | datagram k => exact c.gains_call k r
    | _ => exact .refl
  | pool c =>
    cases k with
    | pool k => exact c.gains_call k r
    | _ => exact .refl

/-! ### Where the names are -/

variable {name : MetricName}

theorem EventBus.startsWith_of_mem_asked {c : EventBus} {k : EventBus.Call}
    (h : name ∈ c.asked k) : name.startsWith c.base := by
  cases k with
  | handlerRegistered address =>
    obtain ⟨node, -, rfl⟩ := List.mem_map.mp h
    exact MetricName.startsWith_trans (MetricName.child_startsWith _ node)
      (c.base.below_startsWith ["handlers"])
  | _ => cases h

theorem HttpServer.startsWith_of_mem_asked {c : HttpServer} {k : HttpServer.Call}
    (h : name ∈ c.asked k) : name.startsWith c.base := by
  cases k with
  | socket k => exact Tcp.startsWith_of_mem_asked h
  | responseEnd q status => exact Request.startsWith_of_mem_ownNames h
  | webSocketConnected remote =>
    obtain rfl := List.mem_singleton.mp h
    exact c.base.below_startsWith _
  | webSocketDisconnected w => cases h

theorem HttpClient.startsWith_of_mem_asked {c : HttpClient} {k : HttpClient.Call}
    (h : name ∈ c.asked k) : name.startsWith c.base := by
  cases k with
  | socket k => exact Tcp.startsWith_of_mem_asked h
  | responseEnd q status => exact Request.startsWith_of_mem_ownNames h
  | _ => cases h

variable {c : Component} {k : Call}

theorem exists_closedBase_of_mem_asked (hc : ∀ d, c ≠ .datagram d) (h : name ∈ c.asked k) :
    ∃ b ∈ c.closedBases, name.startsWith b := by
  unfold asked at h
  split at h
  · next c k =>
    refine ⟨c.base.below ["verticles"], List.mem_map_of_mem (by decide), ?_⟩
    cases k <;> obtain rfl := List.mem_singleton.mp h <;>
      exact MetricName.below_startsWith_below_iff.mpr ⟨_, rfl⟩
  · exact ⟨_, List.mem_singleton_self _, EventBus.startsWith_of_mem_asked h⟩
  · exact ⟨_, List.mem_singleton_self _, Tcp.startsWith_of_mem_asked h⟩
  · exact ⟨_, List.mem_singleton_self _, HttpServer.startsWith_of_mem_asked h⟩
  · exact ⟨_, List.mem_singleton_self _, HttpClient.startsWith_of_mem_asked h⟩
  · next d _ => exact absurd rfl (hc d)
  · cases h

theorem call_fst (hc : ∀ d, c ≠ .datagram d) (k : Call) (r : Registry) : (c.call k r).1 = c := by
  cases c with
  | datagram d => exact absurd rfl (hc d)
  | _ => cases k <;> rfl

end Component

namespace Site

variable [Pattern.Engine] {root name b : MetricName} {bases : List MetricName} {s : Site} {i : Nat}
  {x : Recorder}

/-- The step leaves the names at and below the bases as they are. -/
def Spares (root : MetricName) (bases : List MetricName) (s : Site) (a : Action) : Prop :=
  ∀ b ∈ bases, ∀ name, name.startsWith b →
    (s.step root a).2.registry.id? name = s.registry.id? name

/-- Nothing but the calls of the recorder at `i` touches what is at and below the bases. -/
def Alone (root : MetricName) (i : Nat) (bases : List MetricName) : Site → List Action → Prop
  | _, [] => True
  | s, a :: actions =>
    ((∃ k, a = .call i k) ∨ s.Spares root bases a) ∧ Alone root i bases (s.step root a).2 actions

theorem alone_calls (root : MetricName) (i : Nat) (bases : List MetricName) (s : Site)
    (ks : List Component.Call) : Alone root i bases s (ks.map (.call i)) := by
  induction ks generalizing s with
  | nil => trivial
  | cons k ks ih => exact ⟨.inl ⟨k, rfl⟩, ih _⟩

theorem recorder_step (hx : s.recorders[i]? = some x) (hc : ∀ d, x.component ≠ .datagram d)
    (a : Action) : (s.step root a).2.recorders[i]? = some x := by
  have stays (ys : List Recorder) : (s.recorders ++ ys)[i]? = some x := by
    rw [List.getElem?_append_left (List.getElem?_eq_some_iff.mp hx).1, hx]
  have hstep := step_case root s a
  generalize s.step root a = t at hstep
  cases hstep with
  | quiet => exact hx
  | built => exact stays _
  | failed => exact hx
  | setCluster => exact hx
  | endpoint => exact stays _
  | @call j y k hy =>
    by_cases hj : j = i
    · subst hj
      cases hx.symm.trans hy
      have same : (x.call k s.registry).1 = x :=
        congrArg (Recorder.mk x.plan) (Component.call_fst hc k s.registry)
      rw [same]
      exact List.getElem?_set_self (List.getElem?_eq_some_iff.mp hx).1
    · exact (List.getElem?_set_ne hj).trans hx

theorem bound_step {a : Action} (hx : s.recorders[i]? = some x)
    (ha : (∃ k, a = .call i k) ∨ s.Spares root bases a) (hb : b ∈ bases)
    (hn : name.startsWith b) :
    ((s.step root a).2.registry.id? name).isSome ↔
      (s.registry.id? name).isSome ∨ ∃ k, a = .call i k ∧ name ∈ x.component.asked k := by
  have gains (k : Component.Call) :
      ((s.step root (.call i k)).2.registry.id? name).isSome ↔
        (s.registry.id? name).isSome ∨ name ∈ x.component.asked k := by
    rw [step, hx]
    exact x.component.gains_call k s.registry name
  rcases ha with ⟨k, rfl⟩ | spares
  · simpa using gains k
  · -- The step may still be a call of the recorder, one that asks only for bound names.
    rw [spares b hb name hn]
    refine (or_iff_left_of_imp ?_).symm
    rintro ⟨k, rfl, hr⟩
    rw [← spares b hb name hn]
    exact (gains k).mpr (.inr hr)

theorem bound_run {actions : List Action} (h : Alone root i bases s actions)
    (hx : s.recorders[i]? = some x) (hc : ∀ d, x.component ≠ .datagram d) (hb : b ∈ bases)
    (hn : name.startsWith b) :
    ((s.run root actions).registry.id? name).isSome ↔
      (s.registry.id? name).isSome ∨ ∃ k, .call i k ∈ actions ∧ name ∈ x.component.asked k := by
  induction actions generalizing s with
  | nil => simp
  | cons a actions ih =>
    rw [run_cons, ih h.2 (recorder_step hx hc a), bound_step hx h.1 hb hn, or_assoc,
      ← exists_or]
    simp only [List.mem_cons, or_and_right, eq_comm]

theorem mem_namesFrom_run {actions : List Action} (h : Alone root i bases s actions)
    (hx : s.recorders[i]? = some x) (hc : ∀ d, x.component ≠ .datagram d) (hb : b ∈ bases)
    (empty : s.registry.namesFrom b = []) :
    name ∈ (s.run root actions).registry.namesFrom b ↔
      name.startsWith b ∧ ∃ k, .call i k ∈ actions ∧ name ∈ x.component.asked k := by
  rw [Registry.mem_namesFrom, and_comm]
  refine and_congr_right fun hn => ?_
  rw [bound_run h hx hc hb hn, Registry.namesFrom_eq_nil_iff.mp empty name hn]
  simp

/-! ### Other recorders -/

theorem uses_of_subject (h : s.Fits root) {a : Action} {j : Nat} (hj : a.subject? root s = some j) :
    ∃ S, Registry.Uses S s.registry (s.step root a).2.registry := by
  have idle : ∃ S, Registry.Uses S s.registry s.registry := ⟨fun _ => none, .refl⟩
  have fits {j : Nat} {y : Recorder} (hy : s.recorders[j]? = some y) : y.Fits root :=
    h y (List.mem_of_getElem? hy)
  cases a with
  | build p =>
    have built := (p.within_build root).uses s.registry
    rw [step, build]
    rcases hm : (p.build root).run s.registry with ⟨_ | _, r⟩ <;> rw [hm] at built <;>
      exact ⟨_, built⟩
  | setCluster j host port =>
    rw [step]
    split
    · exact idle
    · next hy => exact ⟨_, ((fits hy).within_setCluster host port).uses _⟩
  | endpoint j host port =>
    rw [step]
    split
    · exact idle
    · next hy => exact ⟨_, ((fits hy).endpoint host port _).2⟩
  | call j k =>
    rw [step]
    split
    · exact idle
    · next hy => exact ⟨_, ((fits hy).call k _).2⟩
  | _ => cases hj

theorem spares_of_identity {a : Action} {j : Nat} {y : Recorder} {d e : Identity}
    (h : s.Fits root) (hx : x ∈ s.recorders) (hd : x.identity? = some d)
    (hj : a.subject? root s = some j) (hy : (s.step root a).2.recorders[j]? = some y)
    (he : y.identity? = some e) (hne : e ≠ d) : s.Spares root x.component.closedBases a := by
  intro b hb name hn
  have owned : d.Owns root name := ((h x hx).owns_of_closedBases hd hb).of_startsWith hn
  obtain ⟨S, uses⟩ := uses_of_subject h hj
  cases hid : s.registry.id? name with
  | some id => exact uses.id?_of_bound hid
  | none =>
    refine Option.eq_none_iff_forall_ne_some.mpr fun id hid' => ?_
    have binds : s.registry.Binds (s.step root a).2.registry name id := ⟨hid', by simp [hid]⟩
    obtain ⟨y', hy', held⟩ := holds_of_step h hj binds
    cases hy.symm.trans hy'
    rcases held with ⟨path, hp, rfl⟩ | held
    · exact d.not_owns_shared root hp owned
    · exact owned.not_of_ne hne (held y e (.refl y) he)

end Site

end Telemetry
