import Telemetry.Proofs.Name.Prefix

/-!
Names that are put together from a base, a dotted path and a text. Below the base they are written
like the path, and the node of the text stands behind it, so that both can be read back. Names that
differ in the text only have one length and never lie below each other.
-/

namespace Telemetry

open MetricName (empty text_join)

variable {base n n' : MetricName} {path path' value value' : String}

namespace MetricName

theorem empty_join (below : MetricName) : empty.join below = below := rfl

theorem text_ofNode (k : Node) : (ofNode k).text = k.text := rfl

theorem child_eq_join (base : MetricName) (k : Node) : base.child k = base.join (ofNode k) := rfl

theorem ofNode_ne_empty (k : Node) : ofNode k ≠ empty := by
  intro h
  cases congrArg nodes h

theorem child_ne_empty (base : MetricName) (k : Node) : base.child k ≠ empty := by
  intro h
  simpa [child, empty] using congrArg nodes h

theorem child_inj {a b : MetricName} {k l : Node} : a.child k = b.child l ↔ a = b ∧ k = l := by
  constructor
  · intro h
    obtain ⟨front, last⟩ := List.append_inj' (congrArg nodes h) rfl
    exact ⟨eq_of_nodes_eq front, List.singleton_inj.mp last⟩
  · rintro ⟨rfl, rfl⟩
    rfl

/-- The first node of any path is not empty, so the base is told by its own text. -/
theorem text_join_of_ne_empty {below : MetricName} (h : below ≠ empty) :
    (base.join below).text =
      if base = empty then below.text else base.text ++ "." ++ below.text := by
  split
  · next he => rw [he, empty_join]
  · next he => exact text_join he h

theorem length_join (base below : MetricName) :
    (base.join below).length = base.length + below.length := List.length_append

theorem eq_of_startsWith {a b : MetricName} (h : a.startsWith b) (hl : a.length = b.length) :
    a = b := by
  obtain ⟨below, rfl⟩ := startsWith_iff.mp h
  rw [length_join] at hl
  have none_left : below.nodes = [] := List.eq_nil_of_length_eq_zero (Nat.add_eq_left.mp hl)
  rw [eq_of_nodes_eq (b := empty) none_left, join_empty]

end MetricName

open MetricName

/-! ### What composition gives -/

/-- A path adds the nodes that it is the written form of. -/
theorem compose_eq_ok_iff :
    compose base path = .ok n ↔ ∃ p, p ≠ empty ∧ p.text = path ∧ n = base.join p := by
  rw [compose, joinPath]
  constructor
  · intro h
    cases hp : parse path with
    | error e =>
      rw [hp] at h
      cases h
    | ok p =>
      rw [hp] at h
      obtain ⟨nonempty, written⟩ := parse_eq_ok_iff.mp hp
      exact ⟨p, nonempty, written, (Except.ok.inj h).symm⟩
  · rintro ⟨p, nonempty, written, rfl⟩
    rw [parse_eq_ok_iff.mpr ⟨nonempty, written⟩]
    rfl

/-- And a text adds its own node behind them. -/
theorem composeDynamic_eq_ok_iff :
    composeDynamic base path value = .ok n ↔
      ∃ p, p ≠ empty ∧ p.text = path ∧ n = base.join (p.child (Node.escape value)) := by
  have staged : composeDynamic base path value = .ok n ↔
      ∃ m, compose base path = .ok m ∧ m.childOf value = n := by
    rw [composeDynamic, compose]
    cases base.joinPath path <;> simp [Except.map]
  simp only [staged, compose_eq_ok_iff]
  constructor
  · rintro ⟨m, ⟨p, nonempty, written, rfl⟩, rfl⟩
    exact ⟨p, nonempty, written, child_join base p _⟩
  · rintro ⟨p, nonempty, written, rfl⟩
    exact ⟨_, ⟨p, nonempty, written, rfl⟩, child_join base p _⟩

theorem exists_compose_iff :
    (∃ n, compose base path = .ok n) ↔ ∃ p, p ≠ empty ∧ p.text = path := by
  simp only [compose_eq_ok_iff]
  exact ⟨fun ⟨_, p, nonempty, written, _⟩ => ⟨p, nonempty, written⟩,
    fun ⟨p, nonempty, written⟩ => ⟨_, p, nonempty, written, rfl⟩⟩

theorem exists_composeDynamic_iff :
    (∃ n, composeDynamic base path value = .ok n) ↔ ∃ n, compose base path = .ok n := by
  rw [exists_compose_iff]
  simp only [composeDynamic_eq_ok_iff]
  exact ⟨fun ⟨_, p, nonempty, written, _⟩ => ⟨p, nonempty, written⟩,
    fun ⟨p, nonempty, written⟩ => ⟨_, p, nonempty, written, rfl⟩⟩

theorem exists_compose_iff_segments :
    (∃ n, compose base path = .ok n) ↔ path ≠ "" ∧ ∀ t ∈ path.toList.splitOn '.', IsSegment t := by
  rw [exists_compose_iff, ← exists_parse_eq_ok_iff]
  exact exists_congr fun p => parse_eq_ok_iff.symm

/-! ### Taking a name apart -/

theorem apart_of_compose (h : compose base path = .ok n) :
    n.text = (if base = empty then path else base.text ++ "." ++ path) ∧
      n.relativeTo? base = some path := by
  obtain ⟨p, nonempty, rfl, rfl⟩ := compose_eq_ok_iff.mp h
  exact ⟨text_join_of_ne_empty nonempty, relativeTo?_join base p nonempty⟩

theorem apart_of_composeDynamic (h : composeDynamic base path value = .ok n) :
    ∃ parent, compose base path = .ok parent ∧ n.length = parent.length + 1 ∧
      n.relativeTo? base = some (path ++ "." ++ (Node.escape value).text) ∧
      ∃ last, n.nodes.getLast? = some last ∧ last.unescape = value := by
  obtain ⟨p, nonempty, rfl, rfl⟩ := composeDynamic_eq_ok_iff.mp h
  refine ⟨base.join p, compose_eq_ok_iff.mpr ⟨p, nonempty, rfl, rfl⟩, ?_, ?_,
    Node.escape value, ?_, Node.unescape_escape value⟩
  · rw [← child_join]
    exact List.length_append
  · rw [relativeTo?_join base _ (child_ne_empty p _), child_eq_join,
      text_join nonempty (ofNode_ne_empty _), text_ofNode]
  · rw [← child_join]
    exact List.getLast?_append

theorem composeDynamic_inj (h : composeDynamic base path value = .ok n)
    (h' : composeDynamic base path' value' = .ok n) : path = path' ∧ value = value' := by
  obtain ⟨p, -, rfl, rfl⟩ := composeDynamic_eq_ok_iff.mp h
  obtain ⟨p', -, rfl, same⟩ := composeDynamic_eq_ok_iff.mp h'
  obtain ⟨rfl, node⟩ := child_inj.mp (join_left_cancel same)
  exact ⟨rfl, Node.escape_injective node⟩

/-- One more node than the base and the path have is no room for one text below another. -/
theorem not_startsWith_of_composeDynamic (h : composeDynamic base path value = .ok n)
    (h' : composeDynamic base path value' = .ok n') (other : value ≠ value') :
    ¬n.startsWith n' := by
  intro below
  obtain ⟨parent, hp, length, -⟩ := apart_of_composeDynamic h
  obtain ⟨parent', hp', length', -⟩ := apart_of_composeDynamic h'
  obtain rfl := Except.ok.inj (hp.symm.trans hp')
  obtain rfl := eq_of_startsWith below (length.trans length'.symm)
  exact other (composeDynamic_inj h h').2

/-- A composed name takes apart again into the base, the path and the text. -/
theorem composition_apart (base : MetricName) :
    (∀ path, (∃ n, compose base path = .ok n) ↔
      path ≠ "" ∧ ∀ t ∈ path.toList.splitOn '.', IsSegment t) ∧
    (∀ path n, compose base path = .ok n →
      n.text = (if base = empty then path else base.text ++ "." ++ path) ∧
        n.relativeTo? base = some path) ∧
    (∀ path value, (∃ n, composeDynamic base path value = .ok n) ↔
      ∃ n, compose base path = .ok n) ∧
    (∀ path value n, composeDynamic base path value = .ok n →
      ∃ parent, compose base path = .ok parent ∧ n.length = parent.length + 1 ∧
        n.relativeTo? base = some (path ++ "." ++ (Node.escape value).text) ∧
        ∃ last, n.nodes.getLast? = some last ∧ last.unescape = value) ∧
    (∀ path value path' value' n, composeDynamic base path value = .ok n →
      composeDynamic base path' value' = .ok n → path = path' ∧ value = value') ∧
    ∀ path value value' n n', composeDynamic base path value = .ok n →
      composeDynamic base path value' = .ok n' → value ≠ value' →
      n ≠ n' ∧ ¬n.startsWith n' ∧ ¬n'.startsWith n := by
  refine ⟨fun _ => exists_compose_iff_segments, fun _ _ => apart_of_compose,
    fun _ _ => exists_composeDynamic_iff, fun _ _ _ => apart_of_composeDynamic,
    fun _ _ _ _ _ => composeDynamic_inj, fun path value value' n n' h h' other => ⟨?_, ?_, ?_⟩⟩
  · rintro rfl
    exact other (composeDynamic_inj h h').2
  · exact not_startsWith_of_composeDynamic h h' other
  · exact not_startsWith_of_composeDynamic h' h (Ne.symm other)

example : (composeDynamic (.ofNode (.escape "net")) "sockets.open" "10.0.%").toOption.map
    MetricName.text = some "net.sockets.open.10%2E0%2E%25" := by decide +kernel

end Telemetry
