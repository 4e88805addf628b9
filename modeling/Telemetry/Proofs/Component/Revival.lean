import Telemetry.Pattern.Standard
import Telemetry.Proofs.Component.Asking

/-!
What is left of a component that is closed while some of its work is still going on. Most calls that
complete work record in metrics that they already have. Some ask for a metric by its name, and so
register again what was removed in between.
-/

namespace Telemetry

namespace Component

def Runtime.Call.completes : Runtime.Call → Bool
  | .verticleUndeployed _ => true
  | _ => false

def EventBus.Call.completes : EventBus.Call → Bool
  | .handlerUnregistered | .endHandleMessage .. => true
  | _ => false

def Tcp.Call.completes : Tcp.Call → Bool
  | .disconnected _ => true
  | _ => false

def HttpServer.Call.completes : HttpServer.Call → Bool
  | .socket k => k.completes
  | .responseEnd .. | .webSocketDisconnected _ => true
  | _ => false

def HttpClient.Call.completes : HttpClient.Call → Bool
  | .socket k => k.completes
  | .responseEnd .. | .webSocketDisconnected => true
  | _ => false

def Endpoint.Call.completes : Endpoint.Call → Bool
  | .dequeue _ | .disconnected | .responseBegin _ | .responseEnd _ => true
  | _ => false

def Pool.Call.completes : Pool.Call → Bool
  | .rejected | .begin _ | .finish _ => true
  | _ => false

/-- Whether a call goes on with work that began before. -/
def Call.completes : Call → Bool
  | .runtime k => k.completes
  | .eventBus k => k.completes
  | .tcp k => k.completes
  | .httpServer k => k.completes
  | .httpClient k => k.completes
  | .endpoint k => k.completes
  | .datagram _ => false
  | .pool k => k.completes

theorem Tcp.asked_of_completes (c : Tcp) {k : Tcp.Call} (h : k.completes) : c.asked k = [] := by
  cases k with
  | connected remote => cases h
  | _ => rfl

variable [Pattern.Engine]

/-- The calls that ask for names although they only complete work. -/
def revives : Component → Call → Bool
  | .runtime _, .runtime (.verticleUndeployed _) => true
  | .httpServer _, .httpServer (.responseEnd q _) => q.method.isSome
  | .httpClient _, .httpClient (.responseEnd q _) => q.method.isSome
  | _, _ => false

theorem asked_ne_nil_iff_of_completes {c : Component} {k : Call} (h : k.completes) :
    c.asked k ≠ [] ↔ c.revives k := by
  cases c with
  | runtime c =>
    cases k with
    | runtime k =>
      cases k with
      | verticleDeployed name => cases h
      | verticleUndeployed name => simp [asked, Runtime.asked, revives]
    | _ => simp [asked, revives]
  | eventBus c =>
    cases k with
    | eventBus k =>
      cases k with
      | handlerRegistered address => cases h
      | _ => simp [asked, EventBus.asked, revives]
    | _ => simp [asked, revives]
  | tcp c =>
    cases k with
    | tcp k => simp [asked, revives, c.asked_of_completes h]
    | _ => simp [asked, revives]
  | httpServer c =>
    cases k with
    | httpServer k =>
      cases k with
      | socket k => simp [asked, HttpServer.asked, revives, c.tcp.asked_of_completes h]
      | responseEnd q status =>
        simp [asked, HttpServer.asked, revives, Request.ownNames_eq_nil_iff,
          Option.isSome_iff_ne_none]
      | webSocketConnected remote => cases h
      | webSocketDisconnected w => simp [asked, HttpServer.asked, revives]
    | _ => simp [asked, revives]
  | httpClient c =>
    cases k with
    | httpClient k =>
      cases k with
      | socket k => simp [asked, HttpClient.asked, revives, c.tcp.asked_of_completes h]
      | responseEnd q status =>
        simp [asked, HttpClient.asked, revives, Request.ownNames_eq_nil_iff,
          Option.isSome_iff_ne_none]
      | webSocketConnected => cases h
      | webSocketDisconnected => simp [asked, HttpClient.asked, revives]
    | _ => simp [asked, revives]
  | datagram c =>
    cases k with
    | datagram k => cases h
    | _ => simp [asked, revives]
  | _ => simp [asked, revives]

end Component

namespace Site

section Runs

variable [Pattern.Engine]

theorem namesFrom_close {root b : MetricName} {s : Site} {i : Nat} {x : Recorder}
    (hx : s.recorders[i]? = some x) (hb : b ∈ x.component.closedBases) :
    (s.step root (.close i)).2.registry.namesFrom b = [] := by
  apply Registry.namesFrom_eq_nil_iff.mpr
  intro name hn
  rw [step, hx]
  exact (x.component.id?_close s.registry name).trans
    (if_pos (List.any_eq_true.mpr ⟨b, hb, hn⟩))

/-- Once a recorder is closed, the names below its bases are those that its later calls ask for. If
all of these only complete work, then no name is left exactly if none of them revives any. -/
theorem namesFrom_after_close (root : MetricName) (s : Site) (i : Nat) (x : Recorder)
    (actions : List Action) (hx : s.recorders[i]? = some x)
    (hc : ∀ d, x.component ≠ .datagram d)
    (alone : Alone root i x.component.closedBases (s.step root (.close i)).2 actions)
    (hk : ∀ k, .call i k ∈ actions → k.completes) :
    let r := ((s.step root (.close i)).2.run root actions).registry
    (∀ b ∈ x.component.closedBases, ∀ name, name ∈ r.namesFrom b ↔
      name.startsWith b ∧ ∃ k, .call i k ∈ actions ∧ name ∈ x.component.asked k) ∧
    ((∀ b ∈ x.component.closedBases, r.namesFrom b = []) ↔
      ∀ k, .call i k ∈ actions → ¬x.component.revives k) := by
  intro r
  have hx' : (s.step root (.close i)).2.recorders[i]? = some x := recorder_step hx hc _
  have left {b : MetricName} (hb : b ∈ x.component.closedBases) (name : MetricName) :
      name ∈ r.namesFrom b ↔
        name.startsWith b ∧ ∃ k, .call i k ∈ actions ∧ name ∈ x.component.asked k :=
    mem_namesFrom_run alone hx' hc hb (namesFrom_close hx hb)
  refine ⟨fun b hb => left hb, fun none_left k hmem hr => ?_, fun quiet b hb => ?_⟩
  · have asks : x.component.asked k ≠ [] :=
      (Component.asked_ne_nil_iff_of_completes (hk k hmem)).mpr hr
    obtain ⟨name, hname⟩ := List.exists_mem_of_ne_nil _ asks
    obtain ⟨b, hb, hn⟩ := Component.exists_closedBase_of_mem_asked hc hname
    have found := (left hb name).mpr ⟨hn, k, hmem, hname⟩
    rw [none_left b hb] at found
    cases found
  · refine List.eq_nil_iff_forall_not_mem.mpr fun name found => ?_
    obtain ⟨-, k, hmem, hname⟩ := (left hb name).mp found
    have asks : x.component.asked k ≠ [] := List.ne_nil_of_mem hname
    exact quiet k hmem ((Component.asked_ne_nil_iff_of_completes (hk k hmem)).mp asks)

end Runs

def oneVerticle : Site :=
  (empty (.startingAt 0)).run (.ofNode (.escape "app"))
    [.build (.runtime 1 1), .build (.netClient (some "c")),
      .call 0 (.runtime (.verticleDeployed "w"))]

def lateUndeployment : List Action :=
  [.call 1 (.tcp (.connected "h")), .call 0 (.runtime (.verticleUndeployed "w"))]

theorem alone_lateUndeployment (root : MetricName) (hroot : root = .ofNode (.escape "app")) :
    Alone root 0 (Component.runtime ⟨root, 2⟩).closedBases (oneVerticle.step root (.close 0)).2
      lateUndeployment := by
  subst hroot
  have fits : oneVerticle.Fits (.ofNode (.escape "app")) := fits_run (fun _ h => by cases h) _
  refine ⟨.inr ?_, .inl ⟨_, rfl⟩, trivial⟩
  exact spares_of_identity (x := ⟨.runtime 1 1, .runtime ⟨_, 2⟩⟩) (d := .runtime)
    (e := .netClient "c") (fits_step fits _) (.head _) rfl rfl rfl rfl (by decide)

theorem namesFrom_after_close_runtime :
    let root := .ofNode (.escape "app")
    let s := (oneVerticle.step root (.close 0)).2.run root lateUndeployment
    root.below ["verticles", "w"] ∈ s.registry.namesFrom (root.below ["verticles"]) := by
  intro root s
  have completions : ∀ k, .call 0 k ∈ lateUndeployment → k.completes := by
    simp [lateUndeployment, Component.Call.completes, Component.Runtime.Call.completes]
  have left := (namesFrom_after_close root oneVerticle 0 ⟨.runtime 1 1, .runtime ⟨root, 2⟩⟩
    lateUndeployment rfl (fun _ h => by cases h) (alone_lateUndeployment root rfl) completions).1
  have below : root.below ["verticles"] ∈ (Component.runtime ⟨root, 2⟩).closedBases :=
    List.mem_map.mpr ⟨"verticles", by decide, rfl⟩
  exact (left _ below _).mpr ⟨by decide, _, .tail _ (.head _), .head _⟩

/-- A server that answers a request after it was closed registers a timer for its method. -/
theorem namesFrom_after_close_server :
    let root := .ofNode (.escape "app")
    let s := (empty (.startingAt 0)).run root [.build (.httpServer "h" 80 [])]
    let q := Component.Request.begin [] "GET" "/" s.registry.now
    let base := root.below ["http", "servers", "h:80"]
    (s.run root [.close 0, .call 0 (.httpServer (.responseEnd q 200))]).registry.namesFrom base =
      [base.below ["get-requests"]] := by
  decide +kernel

end Site

end Telemetry
