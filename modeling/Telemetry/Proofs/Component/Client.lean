import Telemetry.Pattern.Standard
import Telemetry.Proofs.Component.Asking

/-!
Clients without an id. They measure right where the bases of all clients of their protocol lie. To
close one takes away what the others have registered; they go on recording where nobody looks.
-/

namespace Telemetry

inductive Protocol
  | net
  | http
deriving DecidableEq

def Protocol.text : Protocol → String
  | .net => "net"
  | .http => "http"

/-- All clients of the protocol measure at or below this name. -/
def clientsBase (root : MetricName) (p : Protocol) : MetricName := root.below [p.text, "clients"]

def Identity.protocol? : Identity → Option Protocol
  | .netClient _ => some .net
  | .httpClient _ => some .http
  | _ => none

/-- The protocol of a client, and its id if it has one. -/
def Plan.client? [Pattern.Engine] : Plan → Option (Protocol × Option String)
  | .netClient id? => some (.net, clientId? id?)
  | .httpClient id? .. => some (.http, clientId? id?)
  | _ => none

def Recorder.isEndpoint [Pattern.Engine] (x : Recorder) : Bool :=
  match x.component with
  | .endpoint _ => true
  | _ => false

variable {root name : MetricName} {p : Protocol} {id? : Option String}

theorem Plan.base_of_client [Pattern.Engine] {plan : Plan} (h : plan.client? = some (p, id?)) :
    plan.base root = root.below ([p.text, "clients"] ++ id?.toList) := by
  cases plan with
  | netClient => cases h; rfl
  | httpClient => cases h; rfl
  | _ => cases h

theorem Identity.Owns.not_below_clients {d : Identity} (ho : d.Owns root name)
    (hd : d.protocol? ≠ some p) : ¬name.startsWith (clientsBase root p) := by
  intro hs
  obtain ⟨path, hp, hn⟩ := ho
  have comparable : path <+: [p.text, "clients"] ∨ [p.text, "clients"] <+: path := by
    rw [MetricName.startsWith, List.isPrefixOf_iff_prefix] at hs hn
    apply (List.prefix_or_prefix_of_prefix hn hs).imp
    · exact fun h => MetricName.below_startsWith_below_iff.mp (List.isPrefixOf_iff_prefix.mpr h)
    · exact fun h => MetricName.below_startsWith_below_iff.mp (List.isPrefixOf_iff_prefix.mpr h)
  cases d <;> cases p <;>
    simp [paths, protocol?, Protocol.text, Component.Runtime.ownNames]
      at hd hp comparable <;>
    grind

namespace Recorder

variable [Pattern.Engine] {x y : Recorder}

theorem Fits.startsWith_clientsBase (h : y.Fits root) (hy : y.plan.client? = some (p, id?)) :
    y.component.base.startsWith (clientsBase root p) := by
  apply MetricName.startsWith_trans h.base_startsWith
  rw [Plan.base_of_client hy]
  exact MetricName.below_startsWith_below_iff.mpr (List.prefix_append _ _)

theorem Fits.not_datagram (h : y.Fits root) (hy : y.plan.client? = some (p, id?))
    (d : Component.Datagram) : y.component ≠ .datagram d := by
  obtain ⟨plan, c⟩ := y
  rintro rfl
  cases h
  cases hy

theorem Fits.close_unnamed (h : x.Fits root) (hx : x.plan.client? = some (p, none))
    (client : x.isEndpoint = false) (r : Registry) :
    x.component.close r = r.remove (clientsBase root p) := by
  have base : x.plan.base root = clientsBase root p := Plan.base_of_client hx
  obtain ⟨plan, c⟩ := x
  cases h with
  | netClient h => exact congrArg r.remove (h.trans base)
  | httpClient h => exact congrArg r.remove (h.trans base)
  | endpoint => cases client
  | _ => cases hx

end Recorder

namespace Site

/-- When a client without an id is closed, exactly what lies at or below the base of all clients of
its protocol is unbound. Another client keeps its entries only if it had none. Its metrics go on,
but of these only those are seen again that its calls ask for by name. -/
theorem close_unnamed_client [Pattern.Engine] (root : MetricName) (r : Registry)
    (actions : List Action) (i : Nat) (x : Recorder) (p : Protocol)
    (hx : ((Site.mk r []).run root actions).recorders[i]? = some x)
    (hp : x.plan.client? = some (p, none)) (client : x.isEndpoint = false) :
    let s := (Site.mk r []).run root actions
    let t := (s.step root (.close i)).2
    (∀ name, t.registry.id? name =
      if name.startsWith (clientsBase root p) then none else s.registry.id? name) ∧
    (∀ (d : Identity) name, d.protocol? ≠ some p → d.Owns root name →
      t.registry.id? name = s.registry.id? name) ∧
    (x.component.close s.registry).1 = (s.registry.namesFrom (clientsBase root p)).length ∧
    (∀ id, t.registry.metric? id = s.registry.metric? id) ∧
    ∀ j y id, s.recorders[j]? = some y → y.plan.client? = some (p, some id) →
      ((∀ name, name.startsWith y.component.base →
        t.registry.id? name = s.registry.id? name) ↔
          s.registry.namesFrom y.component.base = []) ∧
      ∀ later, Alone root j [y.component.base] t later → ∀ name,
        name ∈ (t.run root later).registry.namesFrom y.component.base ↔
          name.startsWith y.component.base ∧
            ∃ k, .call j k ∈ later ∧ name ∈ y.component.asked k := by
  intro s t
  have fits : s.Fits root := fits_run (fun _ h => by cases h) actions
  have closes : x.component.close s.registry = s.registry.remove (clientsBase root p) :=
    (fits x (List.mem_of_getElem? hx)).close_unnamed hp client s.registry
  have ht : t = ⟨(s.registry.remove (clientsBase root p)).2, s.recorders⟩ := by
    rw [← closes]
    change (s.step root (.close i)).2 = _
    rw [step, hx]
  have id?_t (name : MetricName) : t.registry.id? name =
      if name.startsWith (clientsBase root p) then none else s.registry.id? name := by
    rw [ht, Registry.id?_remove]
  refine ⟨id?_t, fun d name hd ho => ?_, ?_, fun id => ?_, fun j y id hy hid => ?_⟩
  · rw [id?_t, if_neg (ho.not_below_clients hd)]
  · rw [closes, Registry.removed_eq_length_namesFrom]
  · rw [ht]
    rfl
  have fy : y.Fits root := fits y (List.mem_of_getElem? hy)
  have gone (name : MetricName) (hn : name.startsWith y.component.base) :
      t.registry.id? name = none := by
    rw [id?_t, if_pos (MetricName.startsWith_trans hn (fy.startsWith_clientsBase hid))]
  constructor
  · rw [Registry.namesFrom_eq_nil_iff]
    apply forall₂_congr
    intro name hn
    rw [gone name hn, eq_comm]
  · intro later alone name
    have hy' : t.recorders[j]? = some y := by rw [ht, hy]
    exact mem_namesFrom_run alone hy' (fy.not_datagram hid) (List.mem_singleton_self _)
      (Registry.namesFrom_eq_nil_iff.mpr gone)

def twoClients : List Action := [.build (.netClient (some "a")), .build (.netClient (some ""))]

theorem recorders_twoClients :
    let root := .ofNode (.escape "app")
    ((Site.mk (.withClock (.startingAt 0)) []).run root twoClients).recorders =
      [⟨.netClient (some "a"), .tcp ⟨root.below ["net", "clients", "a"], 0, 1, 2, 3, 4⟩⟩,
        ⟨.netClient (some ""), .tcp ⟨root.below ["net", "clients"], 5, 6, 7, 8, 9⟩⟩] := rfl

/-- A socket of the other client is seen again, but not what comes in over it. -/
theorem close_unnamed_client_twoClients :
    let root := .ofNode (.escape "app")
    let base := root.below ["net", "clients", "a"]
    let s := (Site.mk (.withClock (.startingAt 0)) []).run root twoClients
    let r := ((s.step root (.close 1)).2.run root
      [.call 0 (.tcp (.connected "h")), .call 0 (.tcp (.received 5))]).registry
    base.below ["open-netsockets", "h"] ∈ r.namesFrom base ∧
      base.below ["bytes-read"] ∉ r.namesFrom base := by
  intro root base s r
  have hx := congrArg (·[1]?) recorders_twoClients
  have hy := congrArg (·[0]?) recorders_twoClients
  have closed := close_unnamed_client root _ _ 1 _ .net hx (by decide) rfl
  have other := closed.2.2.2.2 0 _ "a" hy (by decide)
  have seen := other.2 _ (alone_calls root 0 _ _ [.tcp (.connected "h"), .tcp (.received 5)])
  constructor
  · exact (seen _).mpr ⟨by decide, _, .head _, .head _⟩
  · intro found
    obtain ⟨-, k, hk, hn⟩ := (seen _).mp found
    have calls : k = .tcp (.connected "h") ∨ k = .tcp (.received 5) := by simpa using hk
    rcases calls with rfl | rfl
    · exact absurd (List.mem_singleton.mp hn) (by decide)
    · cases hn

theorem close_unnamed_client_drops :
    let root := .ofNode (.escape "app")
    let base := root.below ["net", "clients", "a"]
    let s := (Site.mk (.withClock (.startingAt 0)) []).run root twoClients
    (s.registry.namesFrom base).length = 5 ∧
      (s.step root (.close 1)).2.registry.namesFrom base = [] := by
  decide +kernel

end Site

end Telemetry
