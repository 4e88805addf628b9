import Mathlib.Data.List.Infix
import Std.Data.String.ToNat
import Telemetry.Component.Site
import Telemetry.Proofs.Name.Escape
import Telemetry.Proofs.Name.Text

/-!
Identities of components and the names that belong to them. Texts from outside stay apart once they
are escaped, an address tells its host and its port, and so no two identities ever have a name in
common.
-/

namespace Telemetry

namespace MetricName

theorem startsWith_trans {a b c : MetricName} (h : a.startsWith b) (h' : b.startsWith c) :
    a.startsWith c := by
  rw [startsWith, List.isPrefixOf_iff_prefix] at h h' ⊢
  exact h'.trans h

theorem below_startsWith_below_iff {base : MetricName} {vs ws : List String} :
    (base.below vs).startsWith (base.below ws) ↔ ws <+: vs := by
  rw [startsWith, List.isPrefixOf_iff_prefix, below, below, List.prefix_append_right_inj]
  constructor
  · rintro ⟨ns, h⟩
    obtain ⟨xs, ys, rfl, hx, -⟩ := List.map_eq_append_iff.mp h.symm
    obtain rfl := (List.map_inj_right fun _ _ => Node.escape_injective).mp hx
    exact List.prefix_append ..
  · exact fun h => h.map Node.escape

theorem below_inj {base : MetricName} {vs ws : List String} :
    base.below vs = base.below ws ↔ vs = ws := by
  constructor
  · intro h
    have nodes := congrArg MetricName.nodes (join_left_cancel h)
    exact List.map_injective_iff.mpr (fun _ _ => Node.escape_injective) nodes
  · rintro rfl
    rfl

end MetricName

namespace Component

theorem colon_notMem_repr (n : Nat) : ':' ∉ n.repr.toList := by
  intro h
  rw [Nat.toList_repr] at h
  have digit := Nat.isDigit_of_mem_toDigits (by decide) (by decide) h
  exact absurd digit (by decide)

theorem append_colon_inj {hs hs' ps ps' : List Char} (hp : ':' ∉ ps) (hp' : ':' ∉ ps')
    (h : hs ++ ':' :: ps = hs' ++ ':' :: ps') : hs = hs' ∧ ps = ps' := by
  rcases List.append_eq_append_iff.mp h with ⟨as, rfl, ha⟩ | ⟨as, rfl, ha⟩ <;> cases as with
  | nil => simpa [eq_comm] using ha
  | cons a as =>
    obtain ⟨rfl, rfl⟩ := List.cons.inj ha
    simp at hp hp'

theorem toList_address (host : String) (port : Nat) :
    (address host port).toList = host.toList ++ ':' :: port.repr.toList := by
  simp [address, toString]

/-- The port is what follows the last colon, whatever the host is. -/
theorem address_inj {host host' : String} {port port' : Nat} :
    address host port = address host' port' ↔ host = host' ∧ port = port' := by
  constructor
  · intro h
    have hl := congrArg String.toList h
    rw [toList_address, toList_address] at hl
    obtain ⟨hh, hp⟩ := append_colon_inj (colon_notMem_repr _) (colon_notMem_repr _) hl
    exact ⟨String.toList_inj.mp hh, Nat.repr_injective (String.toList_inj.mp hp)⟩
  · rintro ⟨rfl, rfl⟩
    rfl

theorem ne_address {t : String} (h : ':' ∉ t.toList) (host : String) (port : Nat) :
    t ≠ address host port := by
  rintro rfl
  simp [toList_address] at h

end Component

namespace Identity

/-- What lies at or below these, seen from the root, belongs to the identity. -/
def paths : Identity → List (List String)
  | .runtime => Component.Runtime.ownNames.map fun name => [name]
  | .eventBus => [["eventbus"]]
  | .netServer host port => [["net", "servers", Component.address host port]]
  | .netClient id => [["net", "clients", id]]
  | .httpServer host port => [["http", "servers", Component.address host port]]
  | .httpClient id => [["http", "clients", id]]
  | .datagram host port => [["datagram", Component.address host port]]
  | .pool type name => [["pool", type, name]]

def Owns (root : MetricName) (d : Identity) (name : MetricName) : Prop :=
  ∃ path ∈ d.paths, name.startsWith (root.below path)

variable {root name : MetricName} {d e : Identity}

theorem not_prefix_of_ne (h : d ≠ e) : ∀ p ∈ d.paths, ∀ q ∈ e.paths, ¬q <+: p := by
  cases d <;> cases e <;>
    simp [paths, Component.Runtime.ownNames, List.cons_prefix_cons, Component.address_inj]
      at h ⊢ <;>
    grind

theorem Owns.not_of_ne (ho : e.Owns root name) (h : d ≠ e) : ¬d.Owns root name := by
  rintro ⟨p, hp, hn⟩
  obtain ⟨q, hq, hm⟩ := ho
  rw [MetricName.startsWith, List.isPrefixOf_iff_prefix] at hn hm
  -- Both lie above the name, so one of them lies above the other.
  rcases List.prefix_or_prefix_of_prefix hn hm with hpq | hqp
  · have above := MetricName.below_startsWith_below_iff.mp (List.isPrefixOf_iff_prefix.mpr hpq)
    exact not_prefix_of_ne h.symm q hq p hp above
  · have above := MetricName.below_startsWith_below_iff.mp (List.isPrefixOf_iff_prefix.mpr hqp)
    exact not_prefix_of_ne h p hp q hq above

end Identity

/-- What all datagram sockets have in common. -/
def Component.Datagram.sharedNames : List String := ["sockets", "exceptions", "bytes-written"]

def sharedPaths : List (List String) :=
  Component.Datagram.sharedNames.map fun name => ["datagram", name]

/-- No address is one of these names, since it has a colon. -/
theorem Identity.not_owns_shared (root : MetricName) (d : Identity) {path : List String}
    (h : path ∈ sharedPaths) : ¬d.Owns root (root.below path) := by
  rintro ⟨p, hp, hn⟩
  obtain ⟨name, hname, rfl⟩ := List.mem_map.mp h
  have hpre := MetricName.below_startsWith_below_iff.mp hn
  cases d with
  | datagram host port =>
    obtain rfl := List.mem_singleton.mp hp
    have colon : ∀ t ∈ Component.Datagram.sharedNames, ':' ∉ t.toList := by decide
    simp only [List.cons_prefix_cons, List.nil_prefix, and_true, true_and] at hpre
    exact Component.ne_address (colon name hname) host port hpre.symm
  | runtime =>
    obtain ⟨own, ho, rfl⟩ := List.mem_map.mp hp
    obtain rfl := (List.cons_prefix_cons.mp hpre).1
    exact absurd ho (by decide)
  | _ =>
    obtain rfl := List.mem_singleton.mp hp
    simp [List.cons_prefix_cons] at hpre

end Telemetry
