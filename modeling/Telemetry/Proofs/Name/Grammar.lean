import Telemetry.Proofs.Name.Escape
import Telemetry.Proofs.Name.Text

/-!
The grammar of written names. Reading and writing are inverse to each other on the nonempty names,
and a text that is no name has its leftmost fault reported.
-/

namespace Telemetry

/-- A character that may stand in a part of a written name. -/
def IsPlain (c : Char) : Prop := ¬(Text.isControl c || Text.isBlank c)

/-- A part of a written name. -/
def IsSegment (s : List Char) : Prop := s ≠ [] ∧ ∀ c ∈ s, IsPlain c

/-- What is wrong with the part of a path at `position`. -/
inductive SegmentFault (position : Nat) : List Char → NameError → Prop
  | empty : SegmentFault position [] (.emptyNode position)
  | invalid {before after : List Char} {c : Char} (plain : ∀ x ∈ before, IsPlain x)
    (bad : ¬IsPlain c) : SegmentFault position (before ++ c :: after) (.invalidChar c)

/-- What is wrong with a path: that there is none, or the fault of its leftmost bad part. -/
inductive PathFault : String → NameError → Prop
  | empty : PathFault "" .emptyText
  | segment {path : String} {before after : List (List Char)} {s : List Char} {e : NameError}
    (nonempty : path ≠ "") (parts : path.toList.splitOn '.' = before ++ s :: after)
    (good : ∀ t ∈ before, IsSegment t) (bad : SegmentFault before.length s e) : PathFault path e

theorem SegmentFault.not_isSegment {i : Nat} {s : List Char} {e : NameError}
    (h : SegmentFault i s e) : ¬IsSegment s := by
  rintro ⟨hs, plain⟩
  cases h with
  | empty => exact hs rfl
  | invalid _ bad => exact bad (plain _ (by simp))

theorem segments_eq_splitOn (cs : List Char) : segments cs = cs.splitOn '.' := by
  induction cs with
  | nil => rfl
  | cons c cs ih =>
    rw [segments, List.splitOn_cons_eq_if_modifyHead, ih]
    by_cases h : c = '.'
    · simp [h]
    · cases hs : cs.splitOn '.' with
      | nil => exact absurd hs (List.splitOn_ne_nil '.' cs)
      | cons s rest => simp [h]

theorem dot_notMem_of_mem_segments {cs s : List Char} (h : s ∈ segments cs) : '.' ∉ s := by
  induction cs generalizing s with
  | nil => simp [List.mem_singleton.mp h]
  | cons c cs ih =>
    rw [segments] at h
    split at h
    · rcases List.mem_cons.mp h with rfl | h
      · simp
      · exact ih h
    · next other =>
      cases hs : segments cs with
      | nil =>
        rw [hs] at h
        simp [List.mem_singleton.mp h, Ne.symm other]
      | cons t rest =>
        rw [hs] at ih h
        rcases List.mem_cons.mp h with rfl | h
        · simpa [Ne.symm other] using ih List.mem_cons_self
        · exact ih (List.mem_cons_of_mem t h)

namespace Node

theorem isPlain_of_mem {n : Node} {c : Char} (h : c ∈ n.chars) : IsPlain c := by
  have allowed := n.isNodeChar_of_mem c h
  simp only [isNodeChar, Bool.and_eq_true, Bool.not_eq_true'] at allowed
  simp [IsPlain, allowed]

theorem isSegment_chars (n : Node) : IsSegment n.chars :=
  ⟨n.chars_ne_nil, fun _ => isPlain_of_mem⟩

theorem exists_chars_eq {s : List Char} (h : IsSegment s) (dotless : '.' ∉ s) :
    ∃ n : Node, n.chars = s := by
  refine ⟨⟨s, h.1, fun c hc => ?_⟩, rfl⟩
  have plain := h.2 c hc
  have other : c ≠ '.' := fun hd => dotless (hd ▸ hc)
  simp_all [IsPlain, isNodeChar]

theorem ofChars_chars (n : Node) : ofChars n.chars = .ok n := by
  simpa [parse, text] using parse_text n

theorem fault?_append {before after : List Char} {c : Char} (plain : ∀ x ∈ before, IsPlain x)
    (bad : ¬IsPlain c) (dotless : '.' ∉ before ++ c :: after) :
    fault? (before ++ c :: after) = some (.invalidChar c) := by
  induction before with
  | nil =>
    have other : c ≠ '.' := by
      rintro rfl
      simp at dotless
    rw [List.nil_append, fault?, if_neg other, if_pos (Classical.not_not.mp bad)]
  | cons x before ih =>
    rw [List.forall_mem_cons] at plain
    rw [List.cons_append, List.mem_cons, not_or] at dotless
    rw [List.cons_append, fault?, if_neg (Ne.symm dotless.1), if_neg plain.1, ih plain.2 dotless.2]

theorem ofChars_of_fault? {cs : List Char} {e : NameError} (hn : cs ≠ []) (h : fault? cs = some e) :
    ofChars cs = .error e := by
  rw [ofChars, dif_neg hn]
  split
  · next e' he => rw [Option.some.inj (he.symm.trans h)]
  · next he => rw [h] at he; cases he

end Node

namespace MetricName

variable {i : Nat} {s : List Char} {rest : List (List Char)} {e : NameError}

theorem isSegment_or_fault (i : Nat) (s : List Char) : IsSegment s ∨ ∃ e, SegmentFault i s e := by
  by_cases hs : s = []
  · subst hs
    exact .inr ⟨_, .empty⟩
  · cases hf : s.find? (fun c => Text.isControl c || Text.isBlank c) with
    | none => exact .inl ⟨hs, List.find?_eq_none.mp hf⟩
    | some c =>
      obtain ⟨bad, before, after, rfl, plain⟩ := List.find?_eq_some_iff_append.mp hf
      refine .inr ⟨_, .invalid (fun x hx => ?_) (fun hc => hc bad)⟩
      simpa [IsPlain] using plain x hx

theorem nodesFrom_of_node (i : Nat) (n : Node) (rest : List (List Char)) :
    nodesFrom i (n.chars :: rest) = (nodesFrom (i + 1) rest).map (n :: ·) := by
  rw [nodesFrom, if_neg n.chars_ne_nil, Node.ofChars_chars]
  cases nodesFrom (i + 1) rest <;> rfl

theorem nodesFrom_of_fault (h : SegmentFault i s e) (dotless : '.' ∉ s) :
    nodesFrom i (s :: rest) = .error e := by
  cases h with
  | empty => simp [nodesFrom]
  | invalid plain bad =>
    rw [nodesFrom, if_neg (by simp),
      Node.ofChars_of_fault? (by simp) (Node.fault?_append plain bad dotless)]

theorem nodesFrom_map_chars (i : Nat) (ns : List Node) :
    nodesFrom i (ns.map Node.chars) = .ok ns := by
  induction ns generalizing i with
  | nil => rfl
  | cons n ns ih => rw [List.map_cons, nodesFrom_of_node, ih]; rfl

theorem nodesFrom_of_leftmost {before : List (List Char)}
    (dotless : ∀ t ∈ before ++ s :: rest, '.' ∉ t)
    (good : ∀ t ∈ before, IsSegment t) (bad : SegmentFault (i + before.length) s e) :
    nodesFrom i (before ++ s :: rest) = .error e := by
  induction before generalizing i with
  | nil => exact nodesFrom_of_fault bad (dotless s (by simp))
  | cons t before ih =>
    rw [List.forall_mem_cons] at good
    rw [List.cons_append, List.forall_mem_cons] at dotless
    obtain ⟨n, rfl⟩ := Node.exists_chars_eq good.1 dotless.1
    have next : SegmentFault (i + 1 + before.length) s e := by
      rwa [List.length_cons, ← Nat.add_assoc, Nat.add_right_comm] at bad
    rw [List.cons_append, nodesFrom_of_node, ih dotless.2 good.2 next]
    rfl

/-- A list of parts is a list of nodes, or one part is the leftmost that is none. -/
theorem nodes_or_leftmost (i : Nat) {ss : List (List Char)} (dotless : ∀ t ∈ ss, '.' ∉ t) :
    (∃ ns : List Node, ns.map Node.chars = ss) ∨
      ∃ before s after e, ss = before ++ s :: after ∧ (∀ t ∈ before, IsSegment t) ∧
        SegmentFault (i + before.length) s e := by
  induction ss generalizing i with
  | nil => exact .inl ⟨[], rfl⟩
  | cons s ss ih =>
    rw [List.forall_mem_cons] at dotless
    rcases isSegment_or_fault i s with seg | ⟨e, bad⟩
    · obtain ⟨n, rfl⟩ := Node.exists_chars_eq seg dotless.1
      rcases ih (i + 1) dotless.2 with ⟨ns, rfl⟩ | ⟨before, s, after, e, rfl, good, bad⟩
      · exact .inl ⟨n :: ns, rfl⟩
      · refine .inr ⟨n.chars :: before, s, after, e, rfl, List.forall_mem_cons.mpr ⟨seg, good⟩, ?_⟩
        rwa [List.length_cons, ← Nat.add_assoc, Nat.add_right_comm]
    · exact .inr ⟨[], s, ss, e, rfl, by simp, bad⟩

theorem dotless_segments (path : String) : ∀ t ∈ segments path.toList, '.' ∉ t :=
  fun _ => dot_notMem_of_mem_segments

theorem dotted_eq_intercalate (ns : List Node) :
    dotted ns = ['.'].intercalate (ns.map Node.chars) := by
  induction ns with
  | nil => rfl
  | cons n ns ih =>
    cases ns with
    | nil => simp [dotted]
    | cons m ns =>
      rw [dotted, ih]
      · simp [List.intercalate_cons_cons]
      · simp

theorem parse_text {n : MetricName} (h : n ≠ empty) : parse n.text = .ok n := by
  have hn : n.nodes ≠ [] := fun hn => h (eq_of_nodes_eq hn)
  rw [parse, text, String.toList_ofList, ofChars, chars, if_neg (mt dotted_eq_nil_iff.mp hn),
    segments_dotted hn, nodesFrom_map_chars]
  rfl

theorem parse_of_pathFault {path : String} (h : PathFault path e) : parse path = .error e := by
  cases h with
  | empty => rfl
  | segment nonempty parts good bad =>
    rw [← segments_eq_splitOn] at parts
    have dotless := dotless_segments path
    rw [parse, ofChars, if_neg (by simpa using nonempty), parts]
    rw [parts] at dotless
    rw [nodesFrom_of_leftmost dotless good (by simpa using bad)]
    rfl

/-- Every path is the written form of a name or has a fault. -/
theorem name_or_pathFault (path : String) :
    (∃ n : MetricName, n ≠ empty ∧ n.text = path) ∨ ∃ e, PathFault path e := by
  by_cases nonempty : path = ""
  · subst nonempty
    exact .inr ⟨_, .empty⟩
  rcases nodes_or_leftmost 0 (dotless_segments path) with
    ⟨ns, hns⟩ | ⟨before, s, after, e, parts, good, bad⟩
  · have written : dotted ns = path.toList := by
      rw [dotted_eq_intercalate, hns, segments_eq_splitOn, List.intercalate_splitOn]
    refine .inl ⟨⟨ns⟩, ?_, ?_⟩
    · rintro ⟨rfl⟩
      exact nonempty (String.toList_inj.mp written.symm)
    · rw [text, chars, written, String.ofList_toList]
  · rw [segments_eq_splitOn] at parts
    exact .inr ⟨e, .segment nonempty parts good (by simpa using bad)⟩

theorem parse_eq_ok_iff {s : String} {n : MetricName} :
    parse s = .ok n ↔ n ≠ empty ∧ n.text = s := by
  constructor
  · intro h
    rcases name_or_pathFault s with ⟨m, hm, rfl⟩ | ⟨e, fault⟩
    · obtain rfl : m = n := Except.ok.inj ((parse_text hm).symm.trans h)
      exact ⟨hm, rfl⟩
    · cases (parse_of_pathFault fault).symm.trans h
  · rintro ⟨hn, rfl⟩
    exact parse_text hn

theorem parse_eq_error_iff {s : String} : parse s = .error e ↔ PathFault s e := by
  refine ⟨fun h => ?_, parse_of_pathFault⟩
  rcases name_or_pathFault s with ⟨m, hm, rfl⟩ | ⟨e', fault⟩
  · cases (parse_text hm).symm.trans h
  · cases (parse_of_pathFault fault).symm.trans h
    exact fault

theorem exists_parse_eq_ok_iff {s : String} :
    (∃ n, parse s = .ok n) ↔ s ≠ "" ∧ ∀ t ∈ s.toList.splitOn '.', IsSegment t := by
  constructor
  · rintro ⟨n, hn⟩
    obtain ⟨nonempty, rfl⟩ := parse_eq_ok_iff.mp hn
    have hns : n.nodes ≠ [] := fun h => nonempty (eq_of_nodes_eq h)
    refine ⟨fun h => ?_, fun t ht => ?_⟩
    · rw [h] at hn
      cases hn
    · rw [text, String.toList_ofList, chars, ← segments_eq_splitOn, segments_dotted hns] at ht
      obtain ⟨m, -, rfl⟩ := List.mem_map.mp ht
      exact m.isSegment_chars
  · rintro ⟨nonempty, good⟩
    rcases name_or_pathFault s with ⟨n, hn, rfl⟩ | ⟨e, fault⟩
    · exact ⟨n, parse_text hn⟩
    · cases fault with
      | empty => exact absurd rfl nonempty
      | segment _ parts _ bad =>
        exact absurd (good _ (parts ▸ List.mem_append_cons_self)) bad.not_isSegment

theorem joinPath_eq_error_iff {base : MetricName} {path : String} :
    base.joinPath path = .error e ↔ PathFault path e := by
  rw [joinPath, ← parse_eq_error_iff]
  cases parse path <;> simp [Except.map]

theorem run_pushPath (base : MetricName) (path : String) :
    (pushPath path).run base = match base.joinPath path with
      | .error e => (.error e, base)
      | .ok n => (.ok (), n) := by
  rw [joinPath]
  cases h : parse path <;> simp [pushPath, h, Except.map] <;> rfl

/-- Reading takes exactly the well formed texts, undoes writing and is undone by it; what no name
is written like is refused for its leftmost fault, and leaves the name it was to be appended to. -/
theorem parse_isomorphism :
    (∀ s, (∃ n, parse s = .ok n) ↔ s ≠ "" ∧ ∀ t ∈ s.toList.splitOn '.', IsSegment t) ∧
    (∀ s n, parse s = .ok n ↔ n ≠ empty ∧ n.text = s) ∧
    (∀ m n : MetricName, m.text = n.text ↔ m = n) ∧
    (∀ (base : MetricName) path e, base.joinPath path = .error e ↔ PathFault path e) ∧
    (∀ (base : MetricName) path, base.joinPath path ≠ .error .separatorInNode) ∧
    ∀ base path, (pushPath path).run base = match base.joinPath path with
      | .error e => (.error e, base)
      | .ok n => (.ok (), n) := by
  refine ⟨fun _ => exists_parse_eq_ok_iff, fun _ _ => parse_eq_ok_iff,
    fun _ _ => ⟨text_injective, congrArg text⟩, fun _ _ _ => joinPath_eq_error_iff,
    fun base path h => ?_, run_pushPath⟩
  cases joinPath_eq_error_iff.mp h with
  | segment _ _ _ bad => cases bad

end MetricName

end Telemetry
