import Telemetry.Proofs.Component.Schema
import Telemetry.Proofs.Component.Identity
import Telemetry.Proofs.Registry.Snapshot
import Telemetry.Registry.Service

/-!
Closing a component unbinds what lies below its bases, and nothing else. Metrics stay as they are,
apart from a count of sockets.
-/

namespace Telemetry

namespace Registry

variable {S : Schema} {r r' r'' : Registry}

/-- Names may be unbound, but metrics are of the same kinds and nothing is left out. -/
structure Shrinks (r r' : Registry) : Prop where
  bound : ∀ name id, r'.id? name = some id → r.id? name = some id
  kinds : ∀ id, r'.kind? id = r.kind? id
  skipped : r'.skipped = r.skipped

namespace Shrinks

theorem refl (r : Registry) : r.Shrinks r := ⟨fun _ _ => id, fun _ => rfl, rfl⟩

theorem trans (h : r.Shrinks r') (h' : r'.Shrinks r'') : r.Shrinks r'' where
  bound name id hid := h.bound name id (h'.bound name id hid)
  kinds id := (h'.kinds id).trans (h.kinds id)
  skipped := h'.skipped.trans h.skipped

theorem respects (h : r.Shrinks r') (hr : r.Respects S) : r'.Respects S := by
  intro name kind id hs hid
  rw [h.kinds]
  exact hr name kind id hs (h.bound name id hid)

theorem record (r : Registry) (id : MetricId) (e : Event) : r.Shrinks (r.record id e) :=
  ⟨fun _ _ h => h, fun other => kind?_record r id other e, rfl⟩

theorem recordIn (r : Registry) (id? : Option MetricId) (e : Event) :
    r.Shrinks (r.recordIn id? e) := by
  cases id? with
  | none => exact refl r
  | some id => exact record r id e

theorem remove (r : Registry) (base : MetricName) : r.Shrinks (r.remove base).2 where
  bound name id hid := by
    rw [id?_remove] at hid
    split at hid
    · cases hid
    · exact hid
  kinds id := kind?_remove r base id
  skipped := rfl

theorem withTime (r : Registry) (move : Clock → Clock) : r.Shrinks (r.withTime move) :=
  ⟨fun _ _ h => h, fun _ => rfl, rfl⟩

theorem catchUps (r : Registry) (es : List (MetricName × MetricId)) :
    r.Shrinks (es.foldl (fun r e => r.catchUp e.2) r) := by
  induction es generalizing r with
  | nil => exact refl r
  | cons e es ih =>
    have caught : r.Shrinks (r.catchUp e.2) := ⟨fun _ _ h => h, kind?_catchUp r e.2, rfl⟩
    exact caught.trans (ih _)

theorem readFrom (r : Registry) (base : MetricName) : r.Shrinks (r.readFrom base).2 := by
  rw [Registry.readFrom, readAll, readEach_snd]
  exact catchUps r _

end Shrinks

def removeAll (r : Registry) (bases : List MetricName) : Registry :=
  bases.foldl (fun r base => (r.remove base).2) r

theorem shrinks_removeAll (r : Registry) (bases : List MetricName) :
    r.Shrinks (r.removeAll bases) := by
  induction bases generalizing r with
  | nil => exact .refl r
  | cons base bases ih => exact (Shrinks.remove r base).trans (ih _)

theorem id?_removeAll (r : Registry) (bases : List MetricName) (name : MetricName) :
    (r.removeAll bases).id? name =
      if bases.any (name.startsWith ·) then none else r.id? name := by
  induction bases generalizing r with
  | nil => rfl
  | cons base bases ih =>
    rw [removeAll, List.foldl_cons, ← removeAll, ih, id?_remove, List.any_cons]
    cases name.startsWith base <;> simp

/-! ### What a removal counts -/

theorem length_sortedTexts {names : List MetricName} (h : names.Nodup) :
    (sortedTexts names).length = names.length := by
  have texts : (names.map MetricName.text).Nodup := h.map fun _ _ => MetricName.text_injective
  rw [← List.length_map MetricName.text]
  refine ((List.perm_ext_iff_of_nodup (Table.nodup_keys _) texts).mpr fun t => ?_).length_eq
  rw [Table.mem_keys_ofList]
  simp

theorem removed_eq_length_textsFrom (r : Registry) (base : MetricName) :
    (r.remove base).1 = (r.textsFrom base).length := by
  rw [removed_eq_length_namesFrom, textsFrom, length_sortedTexts (nodup_namesFrom r base)]

theorem textsFrom_remove (r : Registry) (base : MetricName) :
    (r.remove base).2.textsFrom base = [] := by
  have none_left : (r.remove base).2.namesFrom base = [] := by
    refine List.eq_nil_iff_forall_not_mem.mpr fun name hn => ?_
    obtain ⟨hs, hb⟩ := mem_namesFrom.mp hn
    rw [id?_remove, if_pos hb] at hs
    cases hs
  rw [textsFrom, none_left]
  rfl

end Registry

namespace Component

theorem Datagram.shrinks_close (c : Datagram) (r : Registry) : r.Shrinks (c.close r).2 := by
  have counted := Registry.Shrinks.record r c.sockets (.add (-1))
  cases hl : c.listening with
  | none => simpa [close, hl] using counted
  | some l => simpa [close, hl] using counted.trans (.remove _ _)

variable [Pattern.Engine]

/-- Below these everything goes when the component is closed. -/
def closedBases : Component → List MetricName
  | .runtime c => Runtime.ownNames.map fun name => c.base.below [name]
  | .datagram c => c.listening.toList.map fun l => c.ownBase l.host l.port
  | c => [c.base]

theorem id?_close (c : Component) (r : Registry) (name : MetricName) :
    (c.close r).2.id? name =
      if c.closedBases.any (name.startsWith ·) then none else r.id? name := by
  cases c with
  | runtime c => exact r.id?_removeAll (Runtime.ownNames.map fun name => c.base.below [name]) name
  | datagram c =>
    cases hl : c.listening with
    | none => simp [closedBases, close, Datagram.close, hl]
    | some l => simp [closedBases, close, Datagram.close, hl, Registry.id?_remove]
  | _ => exact r.id?_removeAll [_] name

theorem shrinks_close (c : Component) (r : Registry) : r.Shrinks (c.close r).2 := by
  cases c with
  | runtime c => exact r.shrinks_removeAll (Runtime.ownNames.map fun name => c.base.below [name])
  | datagram c => exact c.shrinks_close r
  | _ => exact .remove r _

/-- Whether everything below the base is the component's own. -/
def ownsBase : Component → Bool
  | .runtime _ | .datagram _ => false
  | _ => true

theorem close_eq_remove {c : Component} (h : c.ownsBase) (r : Registry) :
    c.close r = r.remove c.base := by
  cases c with
  | runtime c => cases h
  | datagram c => cases h
  | _ => rfl

end Component

end Telemetry
