import Telemetry.Name.Basic

/-!
Names by their written form and by what they lie below. Since no node is empty or holds a dot, a
written form tells its nodes apart, and different names are written differently.
-/

namespace Telemetry

theorem segments_of_no_dot {cs : List Char} (h : '.' ∉ cs) : segments cs = [cs] := by
  induction cs with
  | nil => rfl
  | cons c cs ih =>
    simp only [List.mem_cons, not_or] at h
    rw [segments, if_neg (Ne.symm h.1), ih h.2]

theorem segments_append {cs rest : List Char} (h : '.' ∉ cs) :
    segments (cs ++ '.' :: rest) = cs :: segments rest := by
  induction cs with
  | nil => simp [segments]
  | cons c cs ih =>
    simp only [List.mem_cons, not_or] at h
    rw [List.cons_append, segments, if_neg (Ne.symm h.1), ih h.2]

theorem Node.dot_notMem (n : Node) : '.' ∉ n.chars := by
  intro h
  simpa [isNodeChar] using n.isNodeChar_of_mem _ h

theorem Node.text_injective {a b : Node} (h : a.text = b.text) : a = b :=
  eq_of_chars_eq (String.ofList_injective h)

namespace MetricName

theorem segments_dotted {ns : List Node} (h : ns ≠ []) :
    segments (dotted ns) = ns.map Node.chars := by
  induction ns with
  | nil => exact absurd rfl h
  | cons n ns ih =>
    cases ns with
    | nil => exact segments_of_no_dot n.dot_notMem
    | cons m ns =>
      rw [dotted, segments_append n.dot_notMem, ih (List.cons_ne_nil m ns)]
      · rfl
      · exact List.cons_ne_nil m ns

theorem dotted_eq_nil_iff {ns : List Node} : dotted ns = [] ↔ ns = [] := by
  cases ns with
  | nil => simp [dotted]
  | cons n ns => cases ns <;> simp [dotted, n.chars_ne_nil]

theorem dotted_injective {ns ms : List Node} (h : dotted ns = dotted ms) : ns = ms := by
  by_cases hn : ns = []
  · subst hn
    exact (dotted_eq_nil_iff.mp h.symm).symm
  · have hm : ms ≠ [] := by
      rintro rfl
      exact hn (dotted_eq_nil_iff.mp h)
    have hmap : ns.map Node.chars = ms.map Node.chars := by
      rw [← segments_dotted hn, ← segments_dotted hm, h]
    exact (List.map_inj_right fun _ _ => Node.eq_of_chars_eq).mp hmap

theorem text_injective {a b : MetricName} (h : a.text = b.text) : a = b :=
  eq_of_nodes_eq (dotted_injective (String.ofList_injective h))

/-! ### Below a base -/

@[simp] theorem join_nodes (base below : MetricName) :
    (base.join below).nodes = base.nodes ++ below.nodes := rfl

@[simp] theorem join_empty (base : MetricName) : base.join empty = base :=
  eq_of_nodes_eq (List.append_nil _)

theorem join_assoc (a b c : MetricName) : (a.join b).join c = a.join (b.join c) :=
  eq_of_nodes_eq (List.append_assoc ..)

theorem child_join (base below : MetricName) (n : Node) :
    (base.join below).child n = base.join (below.child n) :=
  eq_of_nodes_eq (List.append_assoc ..)

theorem below_eq_join (base : MetricName) (values : List String) :
    base.below values = base.join ⟨values.map Node.escape⟩ := rfl

@[simp] theorem below_nil (base : MetricName) : base.below [] = base := join_empty base

theorem below_below (base : MetricName) (vs ws : List String) :
    (base.below vs).below ws = base.below (vs ++ ws) := by
  simp [below]

theorem below_childOf (base : MetricName) (values : List String) (value : String) :
    (base.below values).childOf value = base.below (values ++ [value]) :=
  below_below base values [value]

theorem join_left_cancel {base a b : MetricName} (h : base.join a = base.join b) : a = b :=
  eq_of_nodes_eq (List.append_cancel_left (congrArg nodes h))

theorem startsWith_iff {n base : MetricName} :
    n.startsWith base ↔ ∃ below, n = base.join below := by
  rw [startsWith, List.isPrefixOf_iff_prefix]
  constructor
  · rintro ⟨ns, hn⟩
    exact ⟨⟨ns⟩, eq_of_nodes_eq hn.symm⟩
  · rintro ⟨below, rfl⟩
    exact List.prefix_append _ _

@[simp] theorem startsWith_join (base below : MetricName) : (base.join below).startsWith base :=
  startsWith_iff.mpr ⟨below, rfl⟩

@[simp] theorem below_startsWith (base : MetricName) (values : List String) :
    (base.below values).startsWith base := startsWith_join base ⟨values.map Node.escape⟩

@[simp] theorem child_startsWith (base : MetricName) (n : Node) : (base.child n).startsWith base :=
  startsWith_join base (.ofNode n)

theorem startsWith_self (n : MetricName) : n.startsWith n :=
  startsWith_iff.mpr ⟨empty, (join_empty n).symm⟩

theorem nodesBelow?_join (base below : MetricName) :
    (base.join below).nodesBelow? base = some below.nodes := by
  rw [nodesBelow?, if_pos (startsWith_join base below)]
  simp [length]

theorem eq_join_of_nodesBelow? {n base : MetricName} {ns : List Node}
    (h : n.nodesBelow? base = some ns) : n = base.join ⟨ns⟩ := by
  by_cases hb : n.startsWith base
  · obtain ⟨below, rfl⟩ := startsWith_iff.mp hb
    rw [nodesBelow?_join] at h
    cases h
    rfl
  · rw [nodesBelow?, if_neg hb] at h
    cases h

theorem relativeTo?_join (base below : MetricName) (h : below ≠ empty) :
    (base.join below).relativeTo? base = some below.text := by
  have hb : below.nodes ≠ [] := fun hn => h (eq_of_nodes_eq hn)
  rw [relativeTo?, nodesBelow?_join]
  cases hn : below.nodes with
  | nil => exact absurd hn hb
  | cons n ns => simp [text, chars, hn]

theorem relativeTo?_self (base : MetricName) : base.relativeTo? base = none := by
  have hd := nodesBelow?_join base empty
  rw [join_empty] at hd
  rw [relativeTo?, hd]
  rfl

end MetricName

end Telemetry
