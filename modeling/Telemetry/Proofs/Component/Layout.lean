import Telemetry.Component.Call
import Telemetry.Proofs.Component.Schema
import Telemetry.Proofs.Name.Text

/-!
What each component measures below its base, as a layout of names, and that it asks for nothing else
when it is set up or called. Some nodes come from outside and may be any text.
-/

namespace Telemetry

/-- The kinds of the names below a base, by the texts of their nodes there. -/
abbrev Layout := List String → Option Kind

namespace Layout

def Sub (L M : Layout) : Prop := ∀ ts kind, L ts = some kind → M ts = some kind

def schema (L : Layout) (base : MetricName) : Schema := fun name =>
  (name.nodesBelow? base).bind fun ns => L (ns.map Node.text)

/-- The kind of what has the texts below a dotted path. -/
def kindBelow (L : Layout) (path : String) (ts : List String) : Option Kind :=
  match MetricName.parse path with
  | .ok p => L (p.nodes.map Node.text ++ ts)
  | .error _ => none

variable {L M : Layout} {base : MetricName}

theorem schema_join (L : Layout) (base below : MetricName) :
    L.schema base (base.join below) = L (below.nodes.map Node.text) := by
  rw [schema, MetricName.nodesBelow?_join]
  rfl

theorem exists_join_of_schema {name : MetricName} (h : (L.schema base name).isSome) :
    ∃ below, name = base.join below ∧ (L (below.nodes.map Node.text)).isSome := by
  obtain ⟨kind, hk⟩ := Option.isSome_iff_exists.mp h
  obtain ⟨ns, hn, hl⟩ := Option.bind_eq_some_iff.mp hk
  exact ⟨⟨ns⟩, MetricName.eq_join_of_nodesBelow? hn, Option.isSome_of_eq_some hl⟩

theorem Sub.schema (h : L.Sub M) (base : MetricName) : (L.schema base).Sub (M.schema base) := by
  intro name kind hk
  obtain ⟨ns, hn, hl⟩ := Option.bind_eq_some_iff.mp hk
  exact Option.bind_eq_some_iff.mpr ⟨ns, hn, h _ _ hl⟩

/-- A layout may be part of another one further up. -/
theorem schema_join_sub (base : MetricName) {p : MetricName}
    (h : ∀ ts kind, L ts = some kind → M (p.nodes.map Node.text ++ ts) = some kind) :
    (L.schema (base.join p)).Sub (M.schema base) := by
  intro name kind hk
  obtain ⟨ns, hn, hl⟩ := Option.bind_eq_some_iff.mp hk
  obtain rfl := MetricName.eq_join_of_nodesBelow? hn
  rw [MetricName.join_assoc, schema_join, MetricName.join_nodes, List.map_append]
  exact h _ _ hl

theorem exists_compose_of_kindBelow (base : MetricName) {path : String} {ts : List String}
    {kind : Kind} (h : L.kindBelow path ts = some kind) :
    ∃ p, compose base path = .ok (base.join p) ∧ L (p.nodes.map Node.text ++ ts) = some kind := by
  rw [kindBelow] at h
  cases hp : MetricName.parse path with
  | error e =>
    rw [hp] at h
    cases h
  | ok p =>
    rw [hp] at h
    exact ⟨p, by rw [compose, MetricName.joinPath, hp]; rfl, h⟩

/-- A path that the layout knows is the path of a name that the schema knows. -/
theorem exists_name_of_kindBelow (base : MetricName) {path : String} {kind : Kind}
    (h : L.kindBelow path [] = some kind) :
    ∃ name, compose base path = .ok name ∧ L.schema base name = some kind := by
  obtain ⟨p, hc, hl⟩ := exists_compose_of_kindBelow base h
  refine ⟨base.join p, hc, ?_⟩
  rw [schema_join, ← List.append_nil (p.nodes.map Node.text), hl]

end Layout

namespace Setup.Within

variable {L : Layout} {S : Schema} {base : MetricName} {path : String}

theorem name {n : MetricName} (h : compose base path = .ok n) :
    Within S (· = n) (Setup.name base path) := by
  have run (r : Registry) : (Setup.name base path).run r = (.ok n, r) := by
    change ((compose base path).mapError MeasureError.invalidName, r) = _
    rw [h]
    rfl
  refine ⟨fun r => ?_, fun r _ => ⟨n, ?_⟩, fun r a ha => ?_⟩
  · rw [run]
    exact .refl
  · rw [run]
  · rw [run] at ha
    exact (Except.ok.inj ha).symm

theorem metric {kind : Kind} (h : L.kindBelow path [] = some kind) (plain : kind ≠ .gauge) :
    Within (L.schema base) (fun _ => True) (Setup.metric base path kind) := by
  obtain ⟨n, hc, hs⟩ := Layout.exists_name_of_kindBelow base h
  refine .bind (.name hc) ?_
  rintro n rfl
  refine ⟨fun r => Registry.Uses.refl.typed hs, fun r hr => ?_, fun _ _ _ => trivial⟩
  obtain ⟨m, hm⟩ := Option.ne_none_iff_exists'.mp (mt Metric.new?_eq_none_iff.mp plain)
  obtain ⟨id, hid⟩ := hr.obtain_ok hs m
  refine ⟨id, ?_⟩
  change (r.typed n kind).1.mapError MeasureError.registry = _
  rw [Registry.typed_eq, Registry.getOrCreate, hm, hid]
  rfl

theorem gauge (h : L.kindBelow path [] = some .gauge) (g : Gauge) :
    Within (L.schema base) (fun _ => True) (Setup.gauge base path g) := by
  obtain ⟨n, hc, hs⟩ := Layout.exists_name_of_kindBelow base h
  refine .bind (.name hc) ?_
  rintro n rfl
  refine ⟨fun r => Registry.Uses.refl.getOrAddGauge hs g, fun r hr => ?_, fun _ _ _ => trivial⟩
  obtain ⟨id, hid⟩ := hr.obtain_ok hs (.gauge g)
  refine ⟨id, ?_⟩
  change (r.getOrAddGauge n g).1.mapError MeasureError.registry = _
  rw [Registry.getOrAddGauge_eq, hid]
  rfl

theorem rebase {α : Type} {P : α → Prop} {m : Setup α} {base' : MetricName}
    (h : Within (L.schema base) P m) (hb : base = base') : Within (L.schema base') P m := hb ▸ h

theorem record (id : MetricId) (e : Event) : Within S (fun _ => True) (Setup.record id e) where
  uses _ := .record .refl id e
  ok _ _ := ⟨(), rfl⟩
  post _ _ _ := trivial

theorem mapM {α β : Type} {f : α → Setup β} {xs : List α}
    (h : ∀ x ∈ xs, Within S (fun _ => True) (f x)) : Within S (fun _ => True) (xs.mapM f) := by
  induction xs with
  | nil => exact .pure trivial
  | cons x xs ih =>
    rw [List.forall_mem_cons] at h
    rw [List.mapM_cons]
    exact .bind h.1 fun _ _ => .bind (ih h.2) fun _ _ => .pure trivial

end Setup.Within

namespace Registry.Uses

variable {L : Layout} {base : MetricName} {r r' : Registry}

theorem rebase {base' : MetricName} (h : Uses (L.schema base) r r') (hb : base = base') :
    Uses (L.schema base') r r' := hb ▸ h

theorem dynamic (h : Uses (L.schema base) r r') (path : String) (n : Node) (kind : Kind)
    (hk : L.kindBelow path [n.text] = some kind) (plain : kind ≠ .gauge) :
    Uses (L.schema base) r
      (r'.metricIfFree ((compose base path).map (·.child n)) kind).2 := by
  obtain ⟨p, hc, hl⟩ := Layout.exists_compose_of_kindBelow base hk
  rw [hc]
  refine h.metricIfFree ?_ plain
  change L.schema base ((base.join p).child n) = _
  rw [MetricName.child_join, Layout.schema_join, MetricName.child, List.map_append]
  exact hl

end Registry.Uses

end Telemetry
