/-!
Finite tables, their entries in ascending order of the keys.
-/

namespace Telemetry

structure Table (κ : Type) (α : Type) [Ord κ] where
  entries : List (κ × α)
  ascending : entries.Pairwise (fun a b => compare a.1 b.1 = .lt)

namespace Table

variable {κ α : Type} [Ord κ]

def empty : Table κ α := ⟨[], .nil⟩

instance : Inhabited (Table κ α) := ⟨empty⟩

def keys (t : Table κ α) : List κ := t.entries.map (·.1)

def values (t : Table κ α) : List α := t.entries.map (·.2)

def size (t : Table κ α) : Nat := t.entries.length

def find? (t : Table κ α) (k : κ) : Option α :=
  (t.entries.find? (fun e => compare k e.1 == .eq)).map (·.2)

def contains (t : Table κ α) (k : κ) : Bool := (t.find? k).isSome

def insertEntry (k : κ) (a : α) : List (κ × α) → List (κ × α)
  | [] => [(k, a)]
  | e :: es =>
    match compare k e.1 with
    | .lt => (k, a) :: e :: es
    | .eq => (k, a) :: es
    | .gt => e :: insertEntry k a es

theorem mem_of_mem_insertEntry {k : κ} {a : α} {e : κ × α} {es : List (κ × α)}
    (h : e ∈ insertEntry k a es) : e = (k, a) ∨ e ∈ es := by
  induction es with
  | nil => simpa [insertEntry] using h
  | cons x xs ih =>
    unfold insertEntry at h
    split at h <;> simp only [List.mem_cons] at h ⊢
    · exact h
    · exact h.imp_right .inr
    · exact h.elim (fun h => .inr (.inl h)) (fun h => (ih h).imp_right .inr)

theorem pairwise_insertEntry [Std.TransOrd κ] {k : κ} {a : α} {es : List (κ × α)}
    (h : es.Pairwise (fun a b => compare a.1 b.1 = .lt)) :
    (insertEntry k a es).Pairwise (fun a b => compare a.1 b.1 = .lt) := by
  induction es with
  | nil => simp [insertEntry]
  | cons x xs ih =>
    obtain ⟨hx, hxs⟩ := List.pairwise_cons.mp h
    unfold insertEntry
    split
    · next lt =>
      refine List.pairwise_cons.mpr ⟨fun e he => ?_, h⟩
      rcases List.mem_cons.mp he with rfl | he
      · exact lt
      · exact Std.TransCmp.lt_trans lt (hx e he)
    · next eq =>
      exact List.pairwise_cons.mpr ⟨fun e he => Std.TransCmp.lt_of_eq_of_lt eq (hx e he), hxs⟩
    · next gt =>
      refine List.pairwise_cons.mpr ⟨fun e he => ?_, ih hxs⟩
      rcases mem_of_mem_insertEntry he with rfl | he
      · exact Std.OrientedCmp.gt_iff_lt.mp gt
      · exact hx e he

/-- Binds `k` to `a`, in place of what it was bound to. -/
def insert [Std.TransOrd κ] (t : Table κ α) (k : κ) (a : α) : Table κ α :=
  ⟨insertEntry k a t.entries, pairwise_insertEntry t.ascending⟩

theorem mem_values_insert [Std.TransOrd κ] {t : Table κ α} {k : κ} {a x : α}
    (h : x ∈ (t.insert k a).values) : x = a ∨ x ∈ t.values := by
  obtain ⟨e, he, rfl⟩ := List.mem_map.mp h
  rcases mem_of_mem_insertEntry he with rfl | he
  · exact .inl rfl
  · exact .inr (List.mem_map_of_mem he)

theorem nodup_insertEntry {k : κ} {a : α} {es : List (κ × α)} (ha : a ∉ es.map (·.2))
    (h : (es.map (·.2)).Nodup) : ((insertEntry k a es).map (·.2)).Nodup := by
  induction es with
  | nil => simp [insertEntry]
  | cons e es ih =>
    simp only [List.map_cons, List.mem_cons, not_or, List.nodup_cons] at ha h
    unfold insertEntry
    split
    · simp [ha, h]
    · simp [ha, h]
    · refine List.nodup_cons.mpr ⟨fun he => ?_, ih ha.2 h.2⟩
      obtain ⟨x, hx, hxe⟩ := List.mem_map.mp he
      rcases mem_of_mem_insertEntry hx with rfl | hx
      · exact ha.1 hxe
      · exact h.1 (List.mem_map.mpr ⟨x, hx, hxe⟩)

theorem nodup_values_insert [Std.TransOrd κ] {t : Table κ α} {k : κ} {a : α}
    (ha : a ∉ t.values) (h : t.values.Nodup) : (t.insert k a).values.Nodup :=
  nodup_insertEntry ha h

/-- Keeps the entries whose key satisfies `p`. -/
def filterKeys (t : Table κ α) (p : κ → Bool) : Table κ α :=
  ⟨t.entries.filter (fun e => p e.1), t.ascending.filter _⟩

theorem values_filterKeys_sublist (t : Table κ α) (p : κ → Bool) :
    (t.filterKeys p).values.Sublist t.values :=
  List.filter_sublist.map _

def erase (t : Table κ α) (k : κ) : Table κ α :=
  t.filterKeys (fun x => compare k x != .eq)

/-- Binds the keys one after another; of equal keys the last one stays. -/
def ofList [Std.TransOrd κ] (es : List (κ × α)) : Table κ α :=
  es.foldl (fun t e => t.insert e.1 e.2) empty

end Table

end Telemetry
