import Telemetry.Proofs.Registry.Snapshot

/-!
The order in which a registry lists its names. Nodes decide one after another, so what begins with a
prefix stands together, the prefix itself in front, and to remove a prefix cuts this block out and
touches nothing else. Removals do not get into each other's way.
-/

namespace Telemetry

/-! ### Lists in order -/

section Lists

variable {α : Type} [LT α]

theorem compare_list_eq_lt_iff [Ord α] [Std.LawfulEqOrd α]
    (h : ∀ a b : α, compare a b = .lt ↔ a < b) {as bs : List α} :
    compare as bs = .lt ↔ as < bs := by
  induction as generalizing bs with
  | nil => cases bs <;> simp
  | cons a as ih =>
    cases bs with
    | nil => simp
    | cons b bs =>
      rw [List.compare_cons_cons, Ordering.then_eq_lt, List.cons_lt_cons_iff, h, ih,
        Std.LawfulEqOrd.compare_eq_iff_eq]

variable (asymm : ∀ a b : α, a < b → ¬b < a)

include asymm

theorem not_lt_of_prefix {p as : List α} (h : p <+: as) : ¬as < p := by
  induction p generalizing as with
  | nil => exact List.not_lt_nil as
  | cons x p ih =>
    obtain ⟨rest, rfl⟩ := h
    rw [List.cons_append, List.cons_lt_cons_iff]
    rintro (lt | ⟨-, lt⟩)
    · exact asymm x x lt lt
    · exact ih (List.prefix_append p rest) lt

/-- What stands between two lists with a prefix has it too. -/
theorem prefix_of_between {p as bs cs : List α} (ha : p <+: as) (hc : p <+: cs) (hab : as < bs)
    (hbc : bs < cs) : p <+: bs := by
  induction p generalizing as bs cs with
  | nil => exact List.nil_prefix
  | cons x p ih =>
    obtain ⟨more, rfl⟩ := ha
    obtain ⟨rest, rfl⟩ := hc
    cases bs with
    | nil => exact absurd hab (List.not_lt_nil _)
    | cons y bs =>
      rw [List.cons_append, List.cons_lt_cons_iff] at hab hbc
      rcases hab with hxy | ⟨rfl, hab⟩
      · rcases hbc with hyx | ⟨rfl, -⟩
        · exact absurd hyx (asymm x y hxy)
        · exact absurd hxy (asymm y y hxy)
      · rcases hbc with hxx | ⟨-, hbc⟩
        · exact absurd hxx (asymm x x hxx)
        · exact (List.prefix_cons_inj x).mpr
            (ih (List.prefix_append p more) (List.prefix_append p rest) hab hbc)

end Lists

/-- In a list in order, a property without gaps holds of a block. -/
theorem exists_block {α : Type} {R : α → α → Prop} {p : α → Bool} {xs : List α}
    (sorted : xs.Pairwise R)
    (closed : ∀ a b c, R a b → R b c → p a → p c → p b) :
    ∃ before after, xs = before ++ xs.filter p ++ after ∧
      xs.filter (fun x => !p x) = before ++ after := by
  induction xs with
  | nil => exact ⟨[], [], rfl, rfl⟩
  | cons x xs ih =>
    rw [List.pairwise_cons] at sorted
    obtain ⟨before, after, split, rest⟩ := ih sorted.2
    by_cases hx : p x
    · rw [List.filter_cons_of_pos hx, List.filter_cons_of_neg (by simpa using hx)]
      cases hb : xs.filter p with
      | nil =>
        rw [hb, List.append_nil] at split
        exact ⟨[], xs, rfl, rest.trans split.symm⟩
      | cons y block =>
        -- The block goes on right behind `x`, for what stood between would belong to it.
        have first : before = [] := by
          rw [List.eq_nil_iff_forall_not_mem]
          intro b hm
          have hy : p y := (List.mem_filter.mp (hb ▸ List.mem_cons_self)).2
          have order := split ▸ sorted.2
          rw [hb, List.append_assoc, List.pairwise_append] at order
          have between : p b := closed x b y
            (sorted.1 b (split ▸ List.mem_append_left _ (List.mem_append_left _ hm)))
            (order.2.2 b hm y (by simp)) hx hy
          have outside := List.mem_append_left after hm
          rw [← rest, List.mem_filter] at outside
          simp [between] at outside
        subst first
        exact ⟨[], after, by rw [hb] at split; simpa using split, rest⟩
    · rw [List.filter_cons_of_neg hx, List.filter_cons_of_pos (by simpa using hx), rest]
      exact ⟨x :: before, after, by rw [List.cons_append, List.cons_append, ← split], rfl⟩

/-! ### Names in order -/

/-- The first characters that differ decide; a part comes before the whole. -/
instance : LT Node := ⟨fun a b => a.chars < b.chars⟩

theorem Node.lt_asymm (a b : Node) (h : a < b) : ¬b < a := List.lt_asymm h

theorem Node.compare_eq_lt_iff {a b : Node} : compare a b = .lt ↔ a < b :=
  compare_list_eq_lt_iff fun _ _ => compareOfLessAndEq_eq_lt

namespace MetricName

variable {a b c p : MetricName}

/-- The first nodes that differ decide; a name comes before those below it. -/
instance : LT MetricName := ⟨fun a b => a.nodes < b.nodes⟩

theorem compare_eq_lt_iff : compare a b = .lt ↔ a < b :=
  compare_list_eq_lt_iff fun _ _ => Node.compare_eq_lt_iff

/-- In a text a dash would come before a dot. -/
example : compare (empty.below ["a", "b"]) (empty.below ["a-b"]) = .lt := by decide +kernel

theorem startsWith_of_between (ha : a.startsWith p) (hc : c.startsWith p) (hab : a < b)
    (hbc : b < c) : b.startsWith p := by
  rw [startsWith, List.isPrefixOf_iff_prefix] at *
  exact prefix_of_between Node.lt_asymm ha hc hab hbc

theorem not_lt_of_startsWith (h : a.startsWith p) : ¬a < p :=
  not_lt_of_prefix Node.lt_asymm (List.isPrefixOf_iff_prefix.mp h)

end MetricName

namespace Registry

variable {r : Registry} {p q name : MetricName}

/-! ### Names that are listed -/

theorem nameList_sorted (r : Registry) : r.nameList.Pairwise (· < ·) :=
  List.pairwise_map.mpr (r.names.ascending.imp MetricName.compare_eq_lt_iff.mp)

/-- In whatever order the names are found that begin with a prefix, they are listed sorted. -/
theorem mergeSort_eq_namesFrom (r : Registry) (p : MetricName) {names : List MetricName}
    (found : names.Perm r.names.keys) :
    ((names.filter (·.startsWith p)).mergeSort fun a b => (compare a b).isLE) = r.namesFrom p := by
  have keys : (r.names.filterKeys (·.startsWith p)).keys = r.namesFrom p := Table.keys_filterKeys ..
  rw [← keys]
  refine Table.mergeSort_eq_keys _ ?_
  rw [Table.keys_filterKeys]
  exact found.filter _

theorem count_nameList (r : Registry) (name : MetricName) :
    r.nameList.count name = if (r.id? name).isSome then 1 else 0 :=
  r.names.nodup_keys.count.trans (if_congr mem_nameList rfl rfl)

/-- The prefix is listed before all that begins with it. -/
theorem head?_namesFrom (h : (r.id? p).isSome) : (r.namesFrom p).head? = some p := by
  have listed : p ∈ r.namesFrom p := mem_namesFrom.mpr ⟨h, p.startsWith_self⟩
  have sorted : (r.namesFrom p).Pairwise (· < ·) := r.nameList_sorted.filter _
  cases hn : r.namesFrom p with
  | nil =>
    rw [hn] at listed
    cases listed
  | cons first rest =>
    rw [hn] at listed sorted
    rcases List.mem_cons.mp listed with rfl | behind
    · rfl
    · have begins : first.startsWith p := (mem_namesFrom.mp (hn ▸ List.mem_cons_self)).2
      exact absurd ((List.pairwise_cons.mp sorted).1 p behind)
        (MetricName.not_lt_of_startsWith begins)

/-- What begins with a prefix stands together, and to remove it leaves the rest as it was. -/
theorem exists_block_namesFrom (r : Registry) (p : MetricName) :
    ∃ before after, r.nameList = before ++ r.namesFrom p ++ after ∧
      (r.remove p).2.nameList = before ++ after := by
  obtain ⟨before, after, split, rest⟩ := exists_block r.nameList_sorted
    (p := (·.startsWith p)) fun _ _ _ hab hbc ha hc =>
      MetricName.startsWith_of_between ha hc hab hbc
  exact ⟨before, after, split, (Table.keys_filterKeys ..).trans rest⟩

/-! ### Removals -/

theorem remove_remove (r : Registry) (p q : MetricName) :
    ((r.remove p).2.remove q).2 = ((r.remove q).2.remove p).2 := by
  have names : (r.names.filterKeys fun n => !n.startsWith p).filterKeys (fun n => !n.startsWith q) =
      (r.names.filterKeys fun n => !n.startsWith q).filterKeys (fun n => !n.startsWith p) := by
    simp only [Table.filterKeys, List.filter_filter, Bool.and_comm]
  simp only [remove, keep, names]

theorem size_remove (r : Registry) (p : MetricName) :
    (r.remove p).1 + (r.remove p).2.size = r.size :=
  Nat.sub_add_cancel (List.length_filter_le ..)

/-- However many removals there are, they remove what is missing in the end. -/
theorem removed_total (r : Registry) (p q : MetricName) :
    (r.remove p).1 + ((r.remove p).2.remove q).1 + ((r.remove p).2.remove q).2.size = r.size := by
  rw [Nat.add_assoc, size_remove, size_remove]

theorem remove_of_remove (r : Registry) (p : MetricName) :
    (r.remove p).2.remove p = (0, (r.remove p).2) := by
  have names : (r.names.filterKeys fun n => !n.startsWith p).filterKeys (fun n => !n.startsWith p) =
      r.names.filterKeys fun n => !n.startsWith p := by
    simp only [Table.filterKeys, List.filter_filter, Bool.and_self]
  have same : ((r.remove p).2.remove p).2 = (r.remove p).2 := by
    simp only [remove, keep, names]
  refine Prod.ext ?_ same
  have total := (r.remove p).2.size_remove p
  rw [same] at total
  exact Nat.add_eq_right.mp total

/-- The names are listed in order and once each. Those that begin with a prefix are a block, the
prefix in front, and to remove it cuts out this block and nothing else, whatever is removed before
or after. -/
theorem names_in_order (r : Registry) (p q : MetricName) :
    r.nameList.Pairwise (· < ·) ∧
    (∀ name, r.nameList.count name = if (r.id? name).isSome then 1 else 0) ∧
    (∃ before after, r.nameList = before ++ r.namesFrom p ++ after ∧
      (∀ name ∈ r.namesFrom p, name.startsWith p) ∧
      (∀ name ∈ before ++ after, ¬name.startsWith p) ∧
      (r.remove p).1 = (r.namesFrom p).length ∧ (r.remove p).2.nameList = before ++ after) ∧
    ((r.id? p).isSome → (r.namesFrom p).head? = some p) ∧
    (∀ name, (r.remove p).2.id? name = if name.startsWith p then none else r.id? name) ∧
    (r.remove p).2.metrics = r.metrics ∧
    (r.remove p).2.remove p = (0, (r.remove p).2) ∧
    ((r.remove p).2.remove q).2 = ((r.remove q).2.remove p).2 ∧
    (r.remove p).1 + ((r.remove p).2.remove q).1 =
      (r.remove q).1 + ((r.remove q).2.remove p).1 := by
  obtain ⟨before, after, split, rest⟩ := r.exists_block_namesFrom p
  refine ⟨r.nameList_sorted, r.count_nameList, ⟨before, after, split,
    fun name hn => (mem_namesFrom.mp hn).2, fun name hn => ?_, r.removed_eq_length_namesFrom p,
    rest⟩, head?_namesFrom, r.id?_remove p, rfl, r.remove_of_remove p, r.remove_remove p q, ?_⟩
  · rw [← rest, mem_nameList, id?_remove] at hn
    intro begins
    simp [begins] at hn
  · have there := r.removed_total p q
    have back := r.removed_total q p
    rw [remove_remove] at there
    omega

end Registry

end Telemetry
