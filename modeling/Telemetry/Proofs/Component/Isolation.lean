import Telemetry.Component.Context
import Telemetry.Proofs.Component.Site

/-!
Recorders of different identities do not get into each other's way: what one has registered, another
one leaves alone when it is closed.
-/

namespace Telemetry

open Registry (Uses)

namespace Registry

variable {S : Schema} {r r' : Registry} {name n : MetricName} {id : MetricId} {kind : Kind}

def Binds (r r' : Registry) (name : MetricName) (id : MetricId) : Prop :=
  r'.id? name = some id ∧ r.id? name ≠ some id

theorem Shrinks.not_binds (h : r.Shrinks r') : ¬r.Binds r' name id :=
  fun hb => hb.2 (h.bound name id hb.1)

theorem Uses.isSome_of_binds (h : Uses S r r') (hb : r.Binds r' name id) : (S name).isSome :=
  h.isSome_of_changed fun he => hb.2 (he.symm.trans hb.1)

/-- If a metric is not free, then the registry only notes this. -/
theorem binds_metricIfFree (hb : r.Binds (r.metricIfFree (.ok n) kind).2 name id) :
    name = n ∧ (r.metricIfFree (.ok n) kind).1.isSome := by
  rw [metricIfFree] at hb ⊢
  simp only [typed_eq, getOrCreate] at hb ⊢
  rcases ho : r.obtain n kind (Metric.new? kind r.now) with ⟨_ | _, r'⟩ <;> rw [ho] at hb
  · have same := obtain_snd_of_error (congrArg Prod.fst ho)
    rw [ho] at same
    obtain rfl : r' = r := same
    exact absurd hb.1 hb.2
  · refine ⟨?_, rfl⟩
    rcases r.obtain_snd_cases n kind (Metric.new? kind r.now) with h | ⟨m, -, -, h⟩ <;>
      rw [ho] at h <;> obtain rfl : r' = _ := h
    · exact absurd hb.1 hb.2
    · by_contra hn
      have hid := hb.1
      rw [id?_insert_of_ne r m hn] at hid
      exact hb.2 hid

end Registry

/-! ### What belongs to a recorder -/

variable {root name : MetricName} {d e : Identity}

theorem Identity.Owns.of_startsWith {below : MetricName} (h : d.Owns root name)
    (hb : below.startsWith name) : d.Owns root below := by
  obtain ⟨path, hp, hn⟩ := h
  exact ⟨path, hp, MetricName.startsWith_trans hb hn⟩

namespace Component

theorem Runtime.first_mem_ownNames {ts : List String} (h : (Runtime.layout ts).isSome) :
    ∃ t rest, ts = t :: rest ∧ t ∈ Runtime.ownNames := by
  unfold Runtime.layout at h
  split at h <;> first | exact ⟨_, _, rfl, by decide⟩ | cases h

theorem Runtime.owns_of_schema (h : (Runtime.layout.schema root name).isSome) :
    Identity.runtime.Owns root name := by
  obtain ⟨below, rfl, hl⟩ := Layout.exists_join_of_schema h
  obtain ⟨t, rest, hts, ht⟩ := Runtime.first_mem_ownNames hl
  obtain ⟨n, ns, hn, rfl, -⟩ := List.map_eq_cons_iff.mp hts
  have plain : ∀ t ∈ Runtime.ownNames, (Node.escape t).text = t := by decide
  have escaped : Node.escape n.text = n := Node.text_injective (plain _ ht)
  refine ⟨[n.text], List.mem_map_of_mem ht, MetricName.startsWith_iff.mpr ⟨⟨ns⟩, ?_⟩⟩
  rw [MetricName.below_eq_join, MetricName.join_assoc]
  refine congrArg root.join (MetricName.eq_of_nodes_eq ?_)
  simp [hn, escaped]

theorem Datagram.eq_singleton_of_shared {ts : List String}
    (h : (Datagram.sharedLayout ts).isSome) :
    ∃ t ∈ Datagram.sharedNames, ts = [t] := by
  unfold Datagram.sharedLayout at h
  split at h <;> first | exact ⟨_, by decide, rfl⟩ | cases h

theorem Datagram.shared_of_schema
    (h : (Datagram.sharedLayout.schema (root.below ["datagram"]) name).isSome) :
    ∃ path ∈ sharedPaths, name = root.below path := by
  obtain ⟨below, rfl, hl⟩ := Layout.exists_join_of_schema h
  obtain ⟨t, ht, hts⟩ := Datagram.eq_singleton_of_shared hl
  obtain ⟨n, hn, rfl⟩ := List.map_eq_singleton_iff.mp hts
  have plain : ∀ t ∈ Datagram.sharedNames, (Node.escape t).text = t := by decide
  have escaped : Node.escape n.text = n := Node.text_injective (plain _ ht)
  refine ⟨["datagram", n.text], List.mem_map_of_mem ht, ?_⟩
  rw [MetricName.below_eq_join, MetricName.below_eq_join, MetricName.join_assoc]
  refine congrArg root.join (MetricName.eq_of_nodes_eq ?_)
  simp [hn, escaped]

/-- The only name that a call binds is the one that the socket has to itself. -/
theorem Datagram.binds_call {c : Datagram} {k : Datagram.Call} {r : Registry} {id : MetricId}
    (hb : r.Binds (c.call k r).2 name id) :
    ∃ l, (c.call k r).1.listening = some l ∧
      name = c.base.below [address l.host l.port, "bytes-read"] := by
  cases k with
  | listen host port =>
    rw [call, listen, compose_ownBase] at hb ⊢
    split at hb
    · exact absurd hb.1 hb.2
    · obtain ⟨rfl, hs⟩ := Registry.binds_metricIfFree hb
      obtain ⟨own, ho⟩ := Option.isSome_iff_exists.mp hs
      refine ⟨⟨host, port, own⟩, ?_, rfl⟩
      simp only [ho, Option.map_some]
  | received bytes => exact absurd hb (Registry.Shrinks.recordIn r _ _).not_binds
  | sent bytes => exact absurd hb (Registry.Shrinks.record r _ _).not_binds
  | exceptionOccurred => exact absurd hb (Registry.Shrinks.record r _ _).not_binds

end Component

variable [Pattern.Engine]

/-- Whether everything below the base belongs to what is built. -/
def Plan.ownsBase : Plan → Bool
  | .runtime .. | .datagram => false
  | _ => true

namespace Recorder

variable {x y : Recorder} {r : Registry} {id : MetricId}

theorem path_mem_paths (hp : x.plan.ownsBase) (hd : x.identity? = some d) :
    x.plan.path ∈ d.paths := by
  obtain ⟨p, c⟩ := x
  cases p with
  | runtime => cases hp
  | datagram => cases hp
  | netClient id? =>
    obtain ⟨id, hid, rfl⟩ := Option.map_eq_some_iff.mp hd
    simp [Plan.path, Identity.paths, hid]
  | httpClient id? =>
    obtain ⟨id, hid, rfl⟩ := Option.map_eq_some_iff.mp hd
    simp [Plan.path, Identity.paths, hid]
  | _ =>
    cases hd
    exact List.mem_singleton_self _

theorem Fits.base_startsWith (h : x.Fits root) :
    x.component.base.startsWith (x.plan.base root) := by
  obtain ⟨p, c⟩ := x
  cases h with
  | @endpoint _ _ _ _ c node h =>
    rw [Component.base, h]
    refine MetricName.startsWith_iff.mpr ⟨⟨[.escape "endpoint", node]⟩, ?_⟩
    exact MetricName.child_join _ _ node
  | _ h => exact h ▸ MetricName.startsWith_self _

theorem Fits.owns_of_closedBases (h : x.Fits root) (hd : x.identity? = some d) {b : MetricName}
    (hb : b ∈ x.component.closedBases) : d.Owns root b := by
  have within := h.base_startsWith
  obtain ⟨p, c⟩ := x
  cases h with
  | runtime h =>
    cases hd
    obtain ⟨own, ho, rfl⟩ := List.mem_map.mp hb
    rw [h, Plan.base_runtime]
    exact ⟨[own], List.mem_map_of_mem ho, MetricName.startsWith_self _⟩
  | @datagram c h =>
    obtain ⟨l, hl, rfl⟩ := Option.map_eq_some_iff.mp hd
    obtain ⟨l', hl', rfl⟩ := List.mem_map.mp hb
    rw [hl] at hl'
    obtain rfl := List.mem_singleton.mp hl'
    rw [Component.Datagram.ownBase, h, Plan.base, MetricName.below_childOf]
    exact ⟨_, List.mem_singleton_self _, MetricName.startsWith_self _⟩
  | _ =>
    obtain rfl := List.mem_singleton.mp hb
    exact ⟨_, path_mem_paths rfl hd, within⟩

theorem Fits.id?_close (h : x.Fits root) (hd : x.identity? = some d) (hn : ¬d.Owns root name)
    (r : Registry) : (x.component.close r).2.id? name = r.id? name := by
  rw [Component.id?_close, if_neg]
  intro ha
  obtain ⟨b, hb, hs⟩ := List.any_eq_true.mp ha
  exact hn ((h.owns_of_closedBases hd hb).of_startsWith hs)

/-- The name belongs to the recorder, whatever identity it will have, or to all datagram sockets. -/
def Holds (root : MetricName) (x : Recorder) (name : MetricName) : Prop :=
  (∃ path ∈ sharedPaths, name = root.below path) ∨
    ∀ y d, x.Becomes y → y.identity? = some d → d.Owns root name

theorem holds_of_uses (hp : x.plan ≠ .datagram) {r r' : Registry}
    (hu : Uses (x.plan.schema root) r r') (hb : r.Binds r' name id) : x.Holds root name := by
  refine .inr fun y d hy hd => ?_
  rw [identity?_eq_of_plan hy.plan hp] at hd
  have hs := hu.isSome_of_binds hb
  by_cases ho : x.plan.ownsBase
  · obtain ⟨below, rfl, -⟩ := Layout.exists_join_of_schema hs
    exact ⟨_, path_mem_paths ho hd, MetricName.startsWith_join _ below⟩
  · obtain ⟨p, c⟩ := x
    cases p with
    | runtime =>
      cases hd
      rw [Plan.schema, Plan.base_runtime] at hs
      exact Component.Runtime.owns_of_schema hs
    | datagram => exact absurd rfl hp
    | _ => exact absurd rfl ho

theorem holds_of_build {p : Plan} {c : Component} {r r' : Registry}
    (hm : (p.build root).run r = (.ok c, r')) (hb : r.Binds r' name id) :
    (Recorder.mk p c).Holds root name := by
  by_cases hp : p = .datagram
  · subst hp
    have hu := ((Component.Datagram.within_new root).map (f := Component.datagram)
      (Q := fun _ => True) fun _ _ => trivial).uses r
    change Uses _ r ((Plan.datagram.build root).run r).2 at hu
    rw [hm] at hu
    exact .inl (Component.Datagram.shared_of_schema (hu.isSome_of_binds hb))
  · have hu := (p.within_build root).uses r
    rw [hm] at hu
    exact holds_of_uses hp hu hb

theorem Fits.holds_of_setCluster (h : x.Fits root) {host : String} {port : Nat}
    (hb : r.Binds ((x.setCluster host port).run r).2 name id) : x.Holds root name := by
  by_cases hp : x.plan = .datagram
  · obtain ⟨p, c⟩ := x
    obtain rfl : p = .datagram := hp
    cases h with
    | datagram => exact absurd hb.1 hb.2
  · exact holds_of_uses hp ((h.within_setCluster host port).uses r) hb

theorem Fits.holds_of_endpoint (h : x.Fits root) {host : String} {port : Nat}
    (hb : r.Binds (x.endpoint host port r).2 name id) : x.Holds root name := by
  by_cases hp : x.plan = .datagram
  · obtain ⟨p, c⟩ := x
    obtain rfl : p = .datagram := hp
    cases h with
    | datagram => exact absurd hb.1 hb.2
  · exact holds_of_uses hp (h.endpoint host port r).2 hb

theorem Fits.holds_of_call (h : x.Fits root) {k : Component.Call}
    (hb : r.Binds (x.call k r).2 name id) : (x.call k r).1.Holds root name := by
  by_cases hp : x.plan = .datagram
  · obtain ⟨p, c⟩ := x
    obtain rfl : p = .datagram := hp
    cases h with
    | @datagram c hc =>
      cases k with
      | datagram k =>
        obtain ⟨l, hl, rfl⟩ := Component.Datagram.binds_call hb
        refine .inr fun y d hy hd => ?_
        have known := hy.identity (.datagram l.host l.port)
          (Option.map_eq_some_iff.mpr ⟨l, hl, rfl⟩)
        cases known.symm.trans hd
        refine ⟨_, List.mem_singleton_self _, ?_⟩
        rw [hc, Plan.base, MetricName.below_below]
        exact MetricName.below_startsWith_below_iff.mpr ⟨["bytes-read"], rfl⟩
      | _ => exact absurd hb.1 hb.2
  · exact holds_of_uses hp (h.call k r).2 hb

end Recorder

namespace Site

variable {s : Site} {a : Action} {j : Nat} {id : MetricId}

/-- The position of the recorder that an action sets up or goes to. -/
def Action.subject? (root : MetricName) (s : Site) : Action → Option Nat
  | .build p =>
    match (s.build root p).1 with
    | .ok _ => some s.recorders.length
    | .error _ => none
  | .setCluster i .. | .endpoint i .. | .call i _ => some i
  | _ => none

/-- What a step registers, it registers for the recorder that it is about. -/
theorem holds_of_step (h : s.Fits root) (hj : a.subject? root s = some j)
    (hb : s.registry.Binds (s.step root a).2.registry name id) :
    ∃ x, (s.step root a).2.recorders[j]? = some x ∧ x.Holds root name := by
  have hc := step_case root s a
  generalize s.step root a = t at hc hb
  cases hc with
  | quiet hr => exact absurd hb hr.not_binds
  | built p hm =>
    rw [Action.subject?, build, hm] at hj
    cases hj
    exact ⟨_, List.getElem?_concat_length, Recorder.holds_of_build hm hb⟩
  | failed p hm =>
    rw [Action.subject?, build, hm] at hj
    cases hj
  | setCluster host port hx =>
    cases hj
    exact ⟨_, hx, (h _ (List.mem_of_getElem? hx)).holds_of_setCluster hb⟩
  | endpoint host port hx =>
    cases hj
    refine ⟨_, ?_, (h _ (List.mem_of_getElem? hx)).holds_of_endpoint hb⟩
    exact (List.getElem?_append_left (List.getElem?_eq_some_iff.mp hx).1).trans hx
  | call k hx =>
    cases hj
    refine ⟨_, ?_, (h _ (List.mem_of_getElem? hx)).holds_of_call hb⟩
    exact List.getElem?_set_self (List.getElem?_eq_some_iff.mp hx).1

/-- Closing a recorder leaves alone all that recorders of other identities have registered or could
register, and removes all below its own base if the base is its own. No base lies below a base of
another identity. -/
theorem close_isolated (root : MetricName) (r : Registry) (actions : List Action) :
    let s := (Site.mk r []).run root actions
    (∀ (i j : Nat) (x y : Recorder) (d e : Identity), s.recorders[i]? = some x →
      s.recorders[j]? = some y → x.identity? = some d → y.identity? = some e → d ≠ e →
      (∀ before a after name id, actions = before ++ a :: after →
        let s' := (Site.mk r []).run root before
        a.subject? root s' = some j → s'.registry.Binds (s'.step root a).2.registry name id →
        (x.component.close s.registry).2.id? name = s.registry.id? name) ∧
      (∀ name, e.Owns root name ∨ (∃ path ∈ sharedPaths, name = root.below path) →
        (x.component.close s.registry).2.id? name = s.registry.id? name) ∧
      (∀ b ∈ x.component.closedBases, ∀ b' ∈ y.component.closedBases, ¬b'.startsWith b)) ∧
    (∀ x ∈ s.recorders, x.component.ownsBase →
      (x.component.close s.registry).1 = (s.registry.textsFrom x.component.base).length ∧
        (x.component.close s.registry).2.textsFrom x.component.base = []) := by
  intro s
  have start : (Site.mk r []).Fits root := fun _ h => by cases h
  have fits : s.Fits root := fits_run start actions
  refine ⟨fun i j x y d e hx hy hd he hne => ?_, fun x _ ho => ?_⟩
  · have hfx := fits x (List.mem_of_getElem? hx)
    have hfy := fits y (List.mem_of_getElem? hy)
    have leaves (name : MetricName)
        (hn : e.Owns root name ∨ ∃ path ∈ sharedPaths, name = root.below path) :
        (x.component.close s.registry).2.id? name = s.registry.id? name := by
      rcases hn with ho | ⟨path, hp, rfl⟩
      · exact hfx.id?_close hd (ho.not_of_ne hne) s.registry
      · exact hfx.id?_close hd (d.not_owns_shared root hp) s.registry
    refine ⟨?_, leaves, fun b hb b' hb' hs => ?_⟩
    · intro before a after name id hs s' hj hbinds
      have fits' : s'.Fits root := fits_run start before
      obtain ⟨z, hz, held⟩ := holds_of_step fits' hj hbinds
      obtain ⟨y', hy', later⟩ := becomes_run (fits_step fits' a) after hz
      have same : (s'.step root a).2.run root after = s := by
        rw [← run_cons, ← run_append, ← hs]
      rw [same, hy] at hy'
      cases hy'
      exact leaves name (held.symm.imp_left fun held => held y e later he)
    · have hd' := (hfx.owns_of_closedBases hd hb).of_startsWith hs
      exact (hfy.owns_of_closedBases he hb').not_of_ne hne hd'
  · rw [Component.close_eq_remove ho]
    exact ⟨s.registry.removed_eq_length_textsFrom _, s.registry.textsFrom_remove _⟩

end Site

/-- A context sets up nothing outside its base name, so contexts whose base names are apart can share a
registry. -/
theorem Context.id?_build (c : Context) (s : Subject) (r : Registry)
    (outside : ¬name.startsWith c.options.baseName) :
    ((c.build s).run r).2.id? name = r.id? name := by
  by_contra changed
  have within := (Plan.within_build c.options.baseName (c.plan s)).uses r
  obtain ⟨below, rfl, -⟩ := Layout.exists_join_of_schema (within.isSome_of_changed changed)
  exact outside (MetricName.startsWith_trans (MetricName.startsWith_join _ below)
    (MetricName.below_startsWith ..))

end Telemetry
