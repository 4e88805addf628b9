import Mathlib.Data.List.Nodup
import Telemetry.Table

/-!
What the operations of a table do to the values that its keys have, and to the number of its keys.
-/

namespace Telemetry.Table

variable {κ α : Type} [Ord κ]

@[simp] theorem find?_empty (k : κ) : (empty : Table κ α).find? k = none := rfl

theorem keys_filterKeys (t : Table κ α) (p : κ → Bool) :
    (t.filterKeys p).keys = t.keys.filter p := by
  simp [keys, filterKeys, List.filter_map, Function.comp_def]

theorem length_keys (t : Table κ α) : t.keys.length = t.size := List.length_map _

variable [Std.LawfulEqOrd κ]

theorem ne_of_compare_lt {a b : κ} (h : compare a b = .lt) : a ≠ b := by
  rintro rfl
  simp at h

theorem nodup_keys (t : Table κ α) : t.keys.Nodup :=
  List.pairwise_map.mpr (t.ascending.imp ne_of_compare_lt)

theorem eq_of_key_eq {t : Table κ α} {e f : κ × α} (he : e ∈ t.entries) (hf : f ∈ t.entries)
    (h : e.1 = f.1) : e = f :=
  List.inj_on_of_nodup_map t.nodup_keys he hf h

theorem find?_eq_some_iff {t : Table κ α} {k : κ} {a : α} :
    t.find? k = some a ↔ (k, a) ∈ t.entries := by
  constructor
  · intro h
    obtain ⟨e, he, rfl⟩ := Option.map_eq_some_iff.mp h
    have hk := List.find?_some he
    simp only [beq_iff_eq, Std.LawfulEqOrd.compare_eq_iff_eq] at hk
    exact hk ▸ List.mem_of_find?_eq_some he
  · intro h
    cases hf : t.entries.find? (fun e => compare k e.1 == .eq) with
    | none => simpa using List.find?_eq_none.mp hf _ h
    | some e =>
      have hk := List.find?_some hf
      simp only [beq_iff_eq, Std.LawfulEqOrd.compare_eq_iff_eq] at hk
      have := eq_of_key_eq (List.mem_of_find?_eq_some hf) h hk.symm
      simp [find?, hf, this]

theorem isSome_find?_iff {t : Table κ α} {k : κ} : (t.find? k).isSome ↔ k ∈ t.keys := by
  simp [Option.isSome_iff_exists, find?_eq_some_iff, keys]

theorem mem_values_of_find? {t : Table κ α} {k : κ} {a : α} (h : t.find? k = some a) :
    a ∈ t.values :=
  List.mem_map_of_mem (find?_eq_some_iff.mp h)

/-- Where the values are distinct, a value has one key. -/
theorem key_eq_of_find? {t : Table κ α} (hv : t.values.Nodup) {k l : κ} {a : α}
    (hk : t.find? k = some a) (hl : t.find? l = some a) : k = l := by
  have := List.inj_on_of_nodup_map hv (find?_eq_some_iff.mp hk) (find?_eq_some_iff.mp hl) rfl
  exact congrArg Prod.fst this

variable [Std.TransOrd κ]

theorem mem_insertEntry {k : κ} {a : α} {e : κ × α} {es : List (κ × α)}
    (h : es.Pairwise (fun a b => compare a.1 b.1 = .lt)) :
    e ∈ insertEntry k a es ↔ e = (k, a) ∨ e ∈ es ∧ e.1 ≠ k := by
  induction es with
  | nil => simp [insertEntry]
  | cons x xs ih =>
    obtain ⟨hx, hxs⟩ := List.pairwise_cons.mp h
    unfold insertEntry
    split
    · next lt =>
      have hk : ∀ y ∈ x :: xs, y.1 ≠ k := by
        intro y hy
        rcases List.mem_cons.mp hy with rfl | hy
        · exact (ne_of_compare_lt lt).symm
        · exact (ne_of_compare_lt (Std.TransCmp.lt_trans lt (hx y hy))).symm
      grind
    · next eq =>
      obtain rfl := Std.LawfulEqOrd.eq_of_compare eq
      have hk : ∀ y ∈ xs, y.1 ≠ x.1 := fun y hy => (ne_of_compare_lt (hx y hy)).symm
      grind
    · next gt =>
      have hk : x.1 ≠ k := ne_of_compare_lt (Std.OrientedCmp.gt_iff_lt.mp gt)
      grind

omit [Std.TransOrd κ] in
theorem eq_of_isLE [Std.OrientedOrd κ] {a b : κ} (hab : (compare a b).isLE) (hba : (compare b a).isLE) :
    a = b := by
  have swapped : compare b a = (compare a b).swap := Std.OrientedCmp.eq_swap
  rw [swapped] at hba
  refine Std.LawfulEqOrd.eq_of_compare ?_
  cases order : compare a b with
  | lt => simp [order] at hba
  | eq => rfl
  | gt => simp [order] at hab

/-- In whatever order the keys are found, they are sorted into that of the table. -/
theorem mergeSort_eq_keys (t : Table κ α) {ks : List κ} (found : ks.Perm t.keys) :
    (ks.mergeSort fun a b => (compare a b).isLE) = t.keys := by
  have total (a b : κ) : ((compare a b).isLE || (compare b a).isLE) = true := by
    have swapped : compare b a = (compare a b).swap := Std.OrientedCmp.eq_swap
    rw [swapped]
    cases compare a b <;> rfl
  have sorted : (ks.mergeSort fun a b => (compare a b).isLE).Pairwise fun a b => (compare a b).isLE :=
    List.pairwise_mergeSort (fun _ _ _ => Std.TransCmp.isLE_trans) total ks
  have ascending : t.keys.Pairwise fun a b => (compare a b).isLE :=
    List.pairwise_map.mpr (t.ascending.imp fun lt => by simp [lt])
  exact ((List.mergeSort_perm ks _).trans found).eq_of_pairwise (fun _ _ _ _ => eq_of_isLE) sorted
    ascending

@[simp] theorem find?_insert_self (t : Table κ α) (k : κ) (a : α) :
    (t.insert k a).find? k = some a :=
  find?_eq_some_iff.mpr ((mem_insertEntry t.ascending).mpr (.inl rfl))

theorem find?_insert_of_ne (t : Table κ α) {k l : κ} (a : α) (h : l ≠ k) :
    (t.insert k a).find? l = t.find? l := by
  ext b
  rw [find?_eq_some_iff, find?_eq_some_iff]
  exact (mem_insertEntry t.ascending).trans (by grind)

theorem mem_keys_insert {t : Table κ α} {k l : κ} {a : α} :
    l ∈ (t.insert k a).keys ↔ l = k ∨ l ∈ t.keys := by
  by_cases h : l = k
  · simp [← isSome_find?_iff, h]
  · simp [← isSome_find?_iff, find?_insert_of_ne t a h, h]

omit [Std.TransOrd κ] in
theorem find?_filterKeys (t : Table κ α) (p : κ → Bool) (k : κ) :
    (t.filterKeys p).find? k = if p k then t.find? k else none := by
  ext a
  rw [find?_eq_some_iff]
  split <;> simp_all [filterKeys, find?_eq_some_iff]

omit [Std.TransOrd κ] in
theorem find?_erase [DecidableEq κ] (t : Table κ α) (k l : κ) :
    (t.erase k).find? l = if k = l then none else t.find? l := by
  rw [erase, find?_filterKeys]
  by_cases h : k = l <;> simp [h]

section OfList

theorem mem_keys_foldl_insert {k : κ} (es : List (κ × α)) (t : Table κ α) :
    k ∈ (es.foldl (fun t e => t.insert e.1 e.2) t).keys ↔ k ∈ t.keys ∨ k ∈ es.map (·.1) := by
  induction es generalizing t with
  | nil => simp
  | cons e es ih =>
    rw [List.foldl_cons, ih, mem_keys_insert, List.map_cons, List.mem_cons]
    tauto

theorem mem_keys_ofList {k : κ} {es : List (κ × α)} :
    k ∈ (ofList es).keys ↔ k ∈ es.map (·.1) := by
  rw [ofList, mem_keys_foldl_insert]
  simp [keys, empty]

omit [Std.LawfulEqOrd κ] in
theorem mem_entries_foldl_insert {e : κ × α} (es : List (κ × α)) (t : Table κ α)
    (h : e ∈ (es.foldl (fun t e => t.insert e.1 e.2) t).entries) : e ∈ t.entries ∨ e ∈ es := by
  induction es generalizing t with
  | nil => exact .inl h
  | cons x xs ih =>
    rcases ih _ h with h | h
    · rcases mem_of_mem_insertEntry h with rfl | h
      · exact .inr List.mem_cons_self
      · exact .inl h
    · exact .inr (List.mem_cons_of_mem _ h)

theorem mem_of_find?_ofList {k : κ} {a : α} {es : List (κ × α)}
    (h : (ofList es).find? k = some a) : (k, a) ∈ es :=
  (mem_entries_foldl_insert es empty (find?_eq_some_iff.mp h)).resolve_left List.not_mem_nil

/-- A key with a single value has this value. -/
theorem find?_ofList {k : κ} {a : α} {es : List (κ × α)} (h : (k, a) ∈ es)
    (single : ∀ b, (k, b) ∈ es → b = a) : (ofList es).find? k = some a := by
  obtain ⟨b, hb⟩ := Option.isSome_iff_exists.mp
    (isSome_find?_iff.mpr (mem_keys_ofList.mpr (List.mem_map_of_mem h)))
  rw [hb, single b (mem_of_find?_ofList hb)]

end OfList

end Telemetry.Table
