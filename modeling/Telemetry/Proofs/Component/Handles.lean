import Telemetry.Proofs.Component.Asking
import Telemetry.Proofs.Component.Ledger

/-!
What a component knows of its metrics once it is set up: which of them stand under which names.
-/

namespace Telemetry

/-- No name has two kinds. -/
def Schema.Agrees (S T : Schema) : Prop :=
  ∀ name kind kind', S name = some kind → T name = some kind' → kind = kind'

variable {S T T' : Schema}

theorem Schema.agrees_refl (S : Schema) : S.Agrees S := fun _ _ _ hs ht =>
  Option.some.inj (hs.symm.trans ht)

theorem Schema.Sub.agrees (h : S.Sub T) : S.Agrees T := fun name _ _ hs ht =>
  Option.some.inj ((h name _ hs).symm.trans ht)

theorem Schema.Agrees.anti (h : S.Agrees T) (hsub : T'.Sub T) : S.Agrees T' :=
  fun name kind kind' hs ht => h name kind kind' hs (hsub name kind' ht)

namespace Setup

open Registry (Books)

variable {α β : Type} {P : Registry → Prop} {Q : α → Registry → Prop} {R : β → Registry → Prop}

/-- If the steps succeed, they lead from `P` to `Q`. -/
def Leads (P : Registry → Prop) (m : Setup α) (Q : α → Registry → Prop) : Prop :=
  ∀ r a r', P r → m.run r = (.ok a, r') → Q a r'

namespace Leads

variable {L : Layout} {base n : MetricName} {path : String} {kind : Kind}
  {held : List (MetricName × MetricId)} {log : List (MetricName × BitVec 64)}

theorem pure {a : α} (h : ∀ r, P r → Q a r) : Leads P (Pure.pure a : Setup α) Q := by
  intro r _ _ hp ha
  cases ha
  exact h r hp

theorem bind {m : Setup α} {f : α → Setup β} (h : Leads P m Q) (hf : ∀ a, Leads (Q a) (f a) R) :
    Leads P (m >>= f) R := by
  intro r b r' hp hb
  rw [run_bind] at hb
  rcases hm : m.run r with ⟨_ | a, r₁⟩ <;> rw [hm] at hb
  · cases hb
  · exact hf a r₁ b r' (h r a r₁ hp hm) hb

/-- What is known without a registry may be taken out. -/
theorem given {p : Prop} {m : Setup α} (h : p → Leads P m Q) : Leads (fun r => p ∧ P r) m Q :=
  fun r a r' ⟨hp, hr⟩ => h hp r a r' hr

theorem name (h : compose base path = .ok n) :
    Leads P (Setup.name base path) fun a r => a = n ∧ P r := by
  intro r a r' hp ha
  change ((compose base path).mapError MeasureError.invalidName, r) = _ at ha
  rw [h] at ha
  cases ha
  exact ⟨rfl, hp⟩

theorem obtain (kind : Kind) (new? : Registry → Option Metric) (agrees : ∀ k ∈ S n, k = kind)
    (hnew : ∀ r, ∀ m ∈ new? r, m.account = ⟨kind, 0⟩) {m : Setup MetricId}
    (hm : ∀ r, m.run r = ((r.obtain n kind (new? r)).1.mapError MeasureError.registry,
      (r.obtain n kind (new? r)).2)) :
    Leads (Books S held log) m fun id => Books S (held ++ [(n, id)]) log := by
  intro r id r' books hid
  rw [hm] at hid
  rcases ho : r.obtain n kind (new? r) with ⟨_ | i, r₁⟩ <;> rw [ho] at hid <;> cases hid
  exact books.obtain agrees (hnew r) ho

theorem metricAt (hs : S.Agrees (L.schema base)) (hk : L.kindBelow path [] = some kind)
    (hc : compose base path = .ok n) :
    Leads (Books S held log) (Setup.metric base path kind) fun id =>
      Books S (held ++ [(n, id)]) log := by
  obtain ⟨_, hc', ht⟩ := Layout.exists_name_of_kindBelow base hk
  cases hc.symm.trans hc'
  refine .bind (.name hc) fun n => ?_
  rintro r id r' ⟨rfl, books⟩ hid
  refine obtain kind (Metric.new? kind ·.now) (fun k hk => hs _ k kind hk ht)
    (fun _ _ => Books.account_of_mem_new?) (fun r => ?_) r id r' books hid
  rw [← Registry.getOrCreate, ← Registry.typed_eq]
  rfl

theorem metric (hs : S.Agrees (L.schema base)) (hk : L.kindBelow path [] = some kind)
    (hc : compose base path = .ok (base.below [path])) :
    Leads (Books S held log) (Setup.metric base path kind) fun id =>
      Books S (held ++ [(base.below [path], id)]) log := metricAt hs hk hc

/-- Where no gauges are watched, it does not matter whether there are any. -/
theorem gauge (hs : S.Agrees (L.schema base)) (plain : ∀ name, S name ≠ some .gauge)
    (hk : L.kindBelow path [] = some .gauge) (hc : compose base path = .ok n) (g : Gauge) :
    Leads (Books S held log) (Setup.gauge base path g) fun _ => Books S held log := by
  obtain ⟨_, hc', ht⟩ := Layout.exists_name_of_kindBelow base hk
  cases hc.symm.trans hc'
  have unwatched : S n = none := Option.eq_none_iff_forall_ne_some.mpr fun k hk =>
    plain n (hs n k .gauge hk ht ▸ hk)
  refine .bind (.name hc) fun n => ?_
  rintro r id r' ⟨rfl, books⟩ hid
  refine (obtain .gauge (fun _ => some (.gauge g)) (fun k hk => hs _ k .gauge hk ht)
    (fun _ m hm => ?_) (fun r => ?_) r id r' books hid).drop (.inl unwatched)
  · cases hm
    rfl
  · rw [← Registry.getOrAddGauge_eq]
    rfl

/-- Metrics of one kind, one for each path. -/
theorem metrics (hs : S.Agrees (L.schema base)) {paths : List String}
    (hk : ∀ path ∈ paths, L.kindBelow path [] = some kind)
    (hc : ∀ path ∈ paths, compose base path = .ok (base.below [path])) :
    Leads (Books S held log) (paths.mapM fun path => Setup.metric base path kind) fun ids r =>
      ids.length = paths.length ∧
        Books S (held ++ (paths.map fun path => base.below [path]).zip ids) log r := by
  induction paths generalizing held with
  | nil => exact .pure fun r books => ⟨rfl, by simpa using books⟩
  | cons path paths ih =>
    rw [List.forall_mem_cons] at hk hc
    rw [List.mapM_cons]
    refine .bind (.metric hs hk.1 hc.1) fun id => .bind (ih hk.2 hc.2) fun ids => .pure ?_
    rintro r ⟨length, books⟩
    exact ⟨congrArg Nat.succ length, by simpa using books⟩

end Leads

theorem run_map {f : α → β} {m : Setup α} {r r' : Registry} {a : α}
    (h : m.run r = (.ok a, r')) : (f <$> m).run r = (.ok (f a), r') := by
  rw [map_eq_pure_bind, run_bind, h]
  rfl

theorem exists_of_run_map {f : α → β} {m : Setup α} {r r' : Registry} {b : β}
    (h : (f <$> m).run r = (.ok b, r')) : ∃ a, m.run r = (.ok a, r') ∧ f a = b := by
  rw [map_eq_pure_bind, run_bind] at h
  rcases hm : m.run r with ⟨_ | a, r₁⟩ <;> rw [hm] at h <;> cases h
  exact ⟨a, rfl, rfl⟩

/-- Where no name of its schema is bound, a component can be set up, with nothing on the books. -/
theorem exists_run_of_unbound {T : Schema} {P' : α → Prop} {m : Setup α} {r : Registry}
    (within : Within T P' m) (leads : Leads (Books S [] []) m Q) (hsub : S.Sub T)
    (unbound : ∀ name, (T name).isSome → r.id? name = none) :
    ∃ a r', m.run r = (.ok a, r') ∧ Q a r' := by
  have respects : r.Respects T := by
    intro name kind id ht hid
    rw [unbound name (Option.isSome_of_eq_some ht)] at hid
    cases hid
  have free : ∀ name, (S name).isSome → r.id? name = none := fun name hs => by
    obtain ⟨kind, hk⟩ := Option.isSome_iff_exists.mp hs
    exact unbound name (Option.isSome_of_eq_some (hsub name kind hk))
  obtain ⟨a, ha⟩ := within.ok r respects
  exact ⟨a, (m.run r).2, Prod.ext ha rfl, leads r a _ (.start free) (Prod.ext ha rfl)⟩

/-- Where something was set up by a schema that was respected, more can be set up by it. -/
theorem exists_run_again {T : Schema} {P : α → Prop} {P' : β → Prop} {m : Setup α} {m' : Setup β}
    {r r' : Registry} {x : Except MeasureError α} (within : Within T P m) (within' : Within T P' m')
    (respects : r.Respects T) (h : m.run r = (x, r')) :
    ∃ b r'', m'.run r' = (.ok b, r'') ∧ P' b := by
  have after := (within.uses r).respects respects
  rw [h] at after
  obtain ⟨b, hb⟩ := within'.ok r' after
  exact ⟨b, _, Prod.ext hb rfl, within'.post r' b hb⟩

end Setup

theorem Layout.unbound_of_namesFrom {base name : MetricName} {r : Registry} (L : Layout)
    (h : r.namesFrom base = []) (hs : (L.schema base name).isSome) : r.id? name = none := by
  obtain ⟨below, rfl, -⟩ := Layout.exists_join_of_schema hs
  exact Registry.namesFrom_eq_nil_iff.mp h _ (MetricName.startsWith_join base below)

namespace Component

open Registry (Books)
open Setup (Leads)

variable {root base : MetricName} {held : List (MetricName × MetricId)}
  {log : List (MetricName × BitVec 64)}

theorem leads_clientBase {P : Registry → Prop} {path : String} (vs : List String)
    (h : compose root path = .ok (root.below vs)) (id? : Option String) :
    Leads P (clientBase root path id?) fun base r =>
      base = root.below (vs ++ (clientId? id?).toList) ∧ P r := by
  refine .bind (.name h) fun base => ?_
  split
  · exact .pure fun r ⟨hb, hp⟩ => ⟨by simp [hb], hp⟩
  · exact .pure fun r ⟨hb, hp⟩ => ⟨by simp [hb], hp⟩
  · next id hid =>
    have named : clientId? (some id) = some id := by
      simpa [clientId?] using hid
    exact .pure fun r ⟨hb, hp⟩ => ⟨by rw [named, hb, MetricName.below_childOf]; rfl, hp⟩

/-- The metrics of sockets by their names. -/
def Tcp.handles (c : Tcp) : List (MetricName × MetricId) :=
  [(c.base.below ["open-netsockets"], c.openSockets), (c.base.below ["connections"], c.connections),
    (c.base.below ["exceptions"], c.exceptions), (c.base.below ["bytes-read"], c.bytesRead),
    (c.base.below ["bytes-written"], c.bytesWritten)]

def Tcp.texts : List String :=
  ["open-netsockets", "connections", "exceptions", "bytes-read", "bytes-written"]

theorem Tcp.exists_text_of_mem_handles (c : Tcp) :
    ∀ e ∈ c.handles, ∃ path ∈ texts, e.1 = c.base.below [path] := by
  simp only [handles, List.forall_mem_cons]
  exact ⟨⟨_, by decide, rfl⟩, ⟨_, by decide, rfl⟩, ⟨_, by decide, rfl⟩, ⟨_, by decide, rfl⟩,
    ⟨_, by decide, rfl⟩, List.forall_mem_nil _⟩

theorem Tcp.leads_new (hs : S.Agrees (layout.schema base)) :
    Leads (Books S held log) (new base) fun c r =>
      c.base = base ∧ Books S (held ++ c.handles) log r := by
  refine .bind (.metric hs rfl rfl) fun openSockets => ?_
  refine .bind (.metric hs rfl rfl) fun connections => ?_
  refine .bind (.metric hs rfl rfl) fun exceptions => ?_
  refine .bind (.metric hs rfl rfl) fun bytesRead => ?_
  refine .bind (.metric hs rfl rfl) fun bytesWritten => ?_
  exact .pure fun r books => ⟨rfl, by simpa [handles] using books⟩

/-- The metrics of requests and of their answers by their names. -/
def requestHandles (base : MetricName) (requests : MetricId) (responses : List MetricId) :
    List (MetricName × MetricId) :=
  (base.below ["requests"], requests) ::
    (responseNames.map fun path => base.below [path]).zip responses

theorem compose_responseNames (base : MetricName) :
    ∀ path ∈ responseNames, compose base path = .ok (base.below [path]) := by
  simp only [responseNames, List.forall_mem_cons]
  exact ⟨rfl, rfl, rfl, rfl, rfl, List.forall_mem_nil _⟩

/-- What servers and clients have in common. -/
def sideHandles (tcp : Tcp) (requests : MetricId) (responses : List MetricId)
    (openWebSockets : MetricId) : List (MetricName × MetricId) :=
  requestHandles tcp.base requests responses ++
    (tcp.base.below ["open-websockets"], openWebSockets) :: tcp.handles

def sideTexts : List String := "requests" :: responseNames ++ "open-websockets" :: Tcp.texts

theorem exists_text_of_mem_sideHandles {tcp : Tcp} {requests openWebSockets : MetricId}
    {responses : List MetricId} {e : MetricName × MetricId}
    (h : e ∈ sideHandles tcp requests responses openWebSockets) :
    ∃ path ∈ sideTexts, e.1 = tcp.base.below [path] := by
  rcases List.mem_append.mp h with h | h
  · rcases List.mem_cons.mp h with rfl | h
    · exact ⟨_, by decide, rfl⟩
    · obtain ⟨path, hp, he⟩ := List.mem_map.mp (List.of_mem_zip h).1
      exact ⟨path, by simp [sideTexts, hp], he.symm⟩
  · rcases List.mem_cons.mp h with rfl | h
    · exact ⟨_, by decide, rfl⟩
    · obtain ⟨path, hp, he⟩ := tcp.exists_text_of_mem_handles e h
      exact ⟨path, by simp [sideTexts, hp], he⟩

theorem exists_handle (base : MetricName) (requests : MetricId) {responses : List MetricId}
    (length : responses.length = responseNames.length) {path : String}
    (h : path ∈ "requests" :: responseNames) :
    ∃ id, (base.below [path], id) ∈ requestHandles base requests responses := by
  rcases List.mem_cons.mp h with rfl | h
  · exact ⟨requests, List.mem_cons_self⟩
  · obtain ⟨i, hi, rfl⟩ := List.getElem_of_mem h
    refine ⟨responses[i], List.mem_cons_of_mem _ (List.mem_of_getElem? (i := i) ?_)⟩
    rw [List.getElem?_zip_eq_some, List.getElem?_map, List.getElem?_eq_getElem hi]
    exact ⟨rfl, List.getElem?_eq_getElem _⟩

/-- The books of a runtime are kept of its verticles. -/
theorem Runtime.leads_new {eventLoops workers : Nat} (hs : S.Agrees (layout.schema root))
    (plain : ∀ name, S name ≠ some .gauge) :
    Leads (Books S held log) (new root eventLoops workers) fun c r =>
      c.base = root ∧ Books S (held ++ [(root.below ["verticles"], c.verticles)]) log r := by
  refine .bind (.gauge hs plain rfl rfl _) fun _ => ?_
  refine .bind (.gauge hs plain rfl rfl _) fun _ => ?_
  refine .bind (.metric hs rfl rfl) fun verticles => ?_
  exact .pure fun r books => ⟨rfl, books⟩

variable [Pattern.Engine]

def HttpServer.handles (c : HttpServer) : List (MetricName × MetricId) :=
  sideHandles c.tcp c.requests c.responses c.openWebSockets

theorem HttpServer.leads_new {host : String} {port : Nat} {rules : RuleList}
    (hs : S.Agrees (layout.schema (root.below ["http", "servers", address host port]))) :
    Leads (Books S held log) (new root host port rules) fun c r =>
      (c.base = root.below ["http", "servers", address host port] ∧ c.rules = rules ∧
        c.responses.length = responseNames.length) ∧ Books S (held ++ c.handles) log r := by
  refine .bind (.name (n := root.below ["http", "servers"]) rfl) fun n => .given ?_
  rintro rfl
  rw [MetricName.below_childOf]
  have sockets := hs.anti ((tcp_sub_sideLayout _ _).schema _)
  refine .bind (.metric hs rfl rfl) fun requests => ?_
  refine .bind (.metrics hs (by decide) (compose_responseNames _)) fun responses => .given ?_
  intro length
  refine .bind (.metric hs rfl rfl) fun openWebSockets => ?_
  refine .bind (Tcp.leads_new sockets) fun tcp => .given ?_
  intro base
  refine .pure fun r books => ⟨⟨base, rfl, length⟩, ?_⟩
  simpa [handles, sideHandles, requestHandles, base] using books

def HttpClient.handles (c : HttpClient) : List (MetricName × MetricId) :=
  sideHandles c.tcp c.requests c.responses c.openWebSockets

theorem HttpClient.leads_new {id? : Option String} {n : Nat} {uriRules endpointRules : RuleList}
    (hs : S.Agrees (layout.schema (root.below (["http", "clients"] ++ (clientId? id?).toList))))
    (plain : ∀ name, S name ≠ some .gauge) :
    Leads (Books S held log) (new root id? n uriRules endpointRules) fun c r =>
      (c.base = root.below (["http", "clients"] ++ (clientId? id?).toList) ∧ c.uriRules = uriRules ∧
        c.responses.length = responseNames.length) ∧ Books S (held ++ c.handles) log r := by
  refine .bind (leads_clientBase ["http", "clients"] rfl id?) fun n => .given ?_
  rintro rfl
  have sockets := hs.anti ((tcp_sub_sideLayout _ _).schema _)
  refine .bind (.metric hs rfl rfl) fun requests => ?_
  refine .bind (.metrics hs (by decide) (compose_responseNames _)) fun responses => .given ?_
  intro length
  refine .bind (.metric hs rfl rfl) fun openWebSockets => ?_
  refine .bind (Tcp.leads_new sockets) fun tcp => .given ?_
  intro base
  refine .bind (.gauge hs plain rfl rfl _) fun _ => ?_
  refine .bind (.gauge hs plain rfl rfl _) fun _ => ?_
  refine .pure fun r books => ⟨⟨base, rfl, length⟩, ?_⟩
  simpa [handles, sideHandles, requestHandles, base] using books

end Component

end Telemetry
