import Mathlib.Data.Finset.Card
import Telemetry.Proofs.Metric.CatchUp
import Telemetry.Proofs.Name.Text
import Telemetry.Proofs.Registry.Lookup

/-!
What a snapshot of a registry holds. The names below a base are shown by their relative form and the
base itself by its full form, so all of them are shown but where the base is bound and repeats
itself below: then these two have one form, and one of them is lost.
-/

namespace Telemetry

namespace Registry

variable {r : Registry} {base name : MetricName} {id : MetricId}

@[simp] theorem now_catchUp (r : Registry) (id : MetricId) : (r.catchUp id).now = r.now := rfl

def catchUpAll (r : Registry) (ids : List MetricId) : Registry := ids.foldl catchUp r

/-! ### Readings -/

theorem caughtUp_parts_catchUp (r : Registry) (id other : MetricId) :
    ((r.catchUp id).parts other).catchUp r.now = (r.parts other).catchUp r.now := by
  rw [parts, parts, catchUp, metric?_modify]
  split
  · cases r.metric? other with
    | none => rfl
    | some m => simp [Metric.parts_catchUp]
  · rfl

/-- A metric shows the same while another one catches up. -/
theorem snapshot_parts_catchUp (r : Registry) (id : MetricId) (m : Metric) :
    m.snapshot (r.catchUp id).parts r.now = m.snapshot r.parts r.now :=
  m.snapshot_congr (r.caughtUp_parts_catchUp id)

/-- What a metric shows, from the registry as it was before it caught up. -/
theorem read_fst (r : Registry) (id : MetricId) : (r.read id).1 =
    (r.metric? id).map fun m => (m.catchUp r.now).snapshot r.parts r.now := by
  rw [read, show?, now_catchUp, funext (r.snapshot_parts_catchUp id), catchUp, metric?_modify,
    if_pos rfl, Option.map_map]
  rfl

/-- Whatever else catches up, a metric shows what it would show if it were read alone. -/
theorem read_catchUp (r : Registry) (id other : MetricId) :
    ((r.catchUp id).read other).1 = (r.read other).1 := by
  rw [read_fst, read_fst, now_catchUp]
  simp only [snapshot_parts_catchUp]
  rw [catchUp, metric?_modify]
  split
  · rw [Option.map_map]
    refine congrArg (Option.map · (r.metric? other)) (funext fun m => ?_)
    exact congrArg (·.snapshot r.parts r.now) (m.catchUp_catchUp r.now)
  · rfl

/-- In whatever order metrics are read, each shows what it would show if it were read alone. -/
theorem readEach_eq (r : Registry) (es : List (MetricName × MetricId)) :
    r.readEach es =
      (es.filterMap fun e => (r.read e.2).1.map (e.1, ·), r.catchUpAll (es.map (·.2))) := by
  induction es generalizing r with
  | nil => rfl
  | cons e es ih =>
    obtain ⟨name, id⟩ := e
    have rest := ih (r.catchUp id)
    simp only [read_catchUp] at rest
    change (((r.read id).1.map (name, ·)).toList ++ ((r.catchUp id).readEach es).1,
      ((r.catchUp id).readEach es).2) = _
    rw [rest, List.filterMap_cons]
    cases (r.read id).1 <;> rfl

theorem readAll_eq (r : Registry) (p : MetricName → Bool) (key : MetricName → String) :
    r.readAll p key =
      (.ofList ((r.names.filterKeys p).entries.filterMap fun e =>
        (r.read e.2).1.map fun s => (key e.1, s)), r.catchUpAll (r.names.filterKeys p).values) := by
  simp only [readAll, readEach_eq, List.map_filterMap, Option.map_map]
  rfl

theorem exists_read (h : r.id? name = some id) : ∃ s, (r.read id).1 = some s := by
  obtain ⟨kind, hk⟩ := exists_kind h
  obtain ⟨m, hm, -⟩ := Option.map_eq_some_iff.mp hk
  simp [read_fst, hm]

/-! ### Keys -/

/-- The key of a name in a snapshot from a base. -/
def shownAs (base name : MetricName) : String := (name.relativeTo? base).getD name.text

@[simp] theorem shownAs_self (base : MetricName) : shownAs base base = base.text := by
  rw [shownAs, MetricName.relativeTo?_self]
  rfl

theorem shownAs_join {base below : MetricName} (h : below ≠ .empty) :
    shownAs base (base.join below) = below.text := by
  rw [shownAs, MetricName.relativeTo?_join base below h]
  rfl

/-- The only names that share a key are a base and its repetition below itself. -/
theorem shownAs_injective {a b : MetricName} (ha : a.startsWith base) (hb : b.startsWith base)
    (h : shownAs base a = shownAs base b) :
    a = b ∨ base ≠ .empty ∧ (a = base ∧ b = base.join base ∨ a = base.join base ∧ b = base) := by
  obtain ⟨x, rfl⟩ := MetricName.startsWith_iff.mp ha
  obtain ⟨y, rfl⟩ := MetricName.startsWith_iff.mp hb
  by_cases hx : x = .empty <;> by_cases hy : y = .empty
  · exact .inl (by rw [hx, hy])
  · rw [hx, MetricName.join_empty, shownAs_self, shownAs_join hy] at h
    obtain rfl := MetricName.text_injective h
    exact .inr ⟨hy, .inl ⟨by simp [hx], rfl⟩⟩
  · rw [hy, MetricName.join_empty, shownAs_self, shownAs_join hx] at h
    obtain rfl := MetricName.text_injective h
    exact .inr ⟨hx, .inr ⟨rfl, by simp [hy]⟩⟩
  · rw [shownAs_join hx, shownAs_join hy] at h
    exact .inl (by rw [MetricName.text_injective h])

/-! ### Entries -/

def shown (r : Registry) (base : MetricName) : List (String × Snapshot) :=
  (r.names.filterKeys (·.startsWith base)).entries.filterMap fun e =>
    (r.read e.2).1.map fun s => (shownAs base e.1, s)

theorem readFrom_eq (r : Registry) (base : MetricName) :
    (r.readFrom base).1 = .ofList (r.shown base) := by
  rw [readFrom, readAll_eq]
  rfl

theorem mem_filterKeys_entries {e : MetricName × MetricId} :
    e ∈ (r.names.filterKeys (·.startsWith base)).entries ↔
      r.id? e.1 = some e.2 ∧ e.1.startsWith base := by
  rw [Table.filterKeys, List.mem_filter, id?, Table.find?_eq_some_iff]

theorem mem_shown {key : String} {s : Snapshot} :
    (key, s) ∈ r.shown base ↔ ∃ name id, r.id? name = some id ∧ name.startsWith base ∧
      shownAs base name = key ∧ (r.read id).1 = some s := by
  simp only [shown, List.mem_filterMap, Prod.exists, mem_filterKeys_entries]
  refine exists_congr fun name => exists_congr fun id => ?_
  cases (r.read id).1 <;> simp [and_assoc]

theorem mem_namesFrom : name ∈ r.namesFrom base ↔ (r.id? name).isSome ∧ name.startsWith base := by
  rw [namesFrom, List.mem_filter, mem_nameList]

theorem mem_namesFrom_of_id? (hid : r.id? name = some id) (hb : name.startsWith base) :
    name ∈ r.namesFrom base :=
  mem_namesFrom.mpr ⟨Option.isSome_iff_exists.mpr ⟨id, hid⟩, hb⟩

theorem mem_keys_readFrom {key : String} :
    key ∈ (r.readFrom base).1.keys ↔ ∃ name ∈ r.namesFrom base, shownAs base name = key := by
  rw [readFrom_eq, Table.mem_keys_ofList]
  constructor
  · intro h
    obtain ⟨⟨k, s⟩, hm, rfl⟩ := List.mem_map.mp h
    obtain ⟨name, id, hid, hb, hk, -⟩ := mem_shown.mp hm
    exact ⟨name, mem_namesFrom_of_id? hid hb, hk⟩
  · rintro ⟨name, hn, rfl⟩
    obtain ⟨hs, hb⟩ := mem_namesFrom.mp hn
    obtain ⟨id, hid⟩ := Option.isSome_iff_exists.mp hs
    obtain ⟨s, hr⟩ := exists_read hid
    exact List.mem_map_of_mem (f := Prod.fst) (mem_shown.mpr ⟨name, id, hid, hb, rfl, hr⟩)

theorem nodup_namesFrom (r : Registry) (base : MetricName) : (r.namesFrom base).Nodup :=
  r.names.nodup_keys.filter _

theorem removed_eq_length_namesFrom (r : Registry) (base : MetricName) :
    (r.remove base).1 = (r.namesFrom base).length := by
  have split := List.length_eq_length_filter_add (l := r.nameList) (·.startsWith base)
  have rest : (r.remove base).2.size =
      (r.nameList.filter fun name => !name.startsWith base).length := by
    rw [size, ← Table.length_keys]
    exact congrArg List.length (Table.keys_filterKeys ..)
  have all : r.size = r.nameList.length := (Table.length_keys _).symm
  change r.size - (r.remove base).2.size = _
  rw [rest, all, namesFrom]
  omega

theorem size_readFrom (r : Registry) (base : MetricName) :
    (r.readFrom base).1.size = ((r.namesFrom base).toFinset.image (shownAs base)).card := by
  rw [← Table.length_keys, ← List.toFinset_card_of_nodup (Table.nodup_keys _)]
  congr 1
  ext key
  simp [mem_keys_readFrom]

/-! ### Completeness -/

/-- The base is bound, and so is the name that repeats it below itself. -/
def Repeats (r : Registry) (base : MetricName) : Prop :=
  base ≠ .empty ∧ (r.id? base).isSome ∧ (r.id? (base.join base)).isSome

theorem repeats_of_shownAs_eq {a b : MetricName} (ha : a ∈ r.namesFrom base)
    (hb : b ∈ r.namesFrom base) (hne : a ≠ b) (h : shownAs base a = shownAs base b) :
    r.Repeats base ∧ (a = base ∨ a = base.join base) := by
  obtain ⟨sa, pa⟩ := mem_namesFrom.mp ha
  obtain ⟨sb, pb⟩ := mem_namesFrom.mp hb
  rcases shownAs_injective pa pb h with h | ⟨he, ⟨rfl, rfl⟩ | ⟨rfl, rfl⟩⟩
  · exact absurd h hne
  · exact ⟨⟨he, sa, sb⟩, .inl rfl⟩
  · exact ⟨⟨he, sb, sa⟩, .inr rfl⟩

theorem size_readFrom_of_not_repeats (h : ¬r.Repeats base) :
    (r.readFrom base).1.size = (r.namesFrom base).length := by
  rw [size_readFrom, Finset.card_image_of_injOn,
    List.toFinset_card_of_nodup (r.nodup_namesFrom base)]
  intro a ha b hb hk
  by_contra hne
  exact h (repeats_of_shownAs_eq (List.mem_toFinset.mp ha) (List.mem_toFinset.mp hb) hne hk).1

theorem join_self_ne {base : MetricName} (h : base ≠ .empty) : base.join base ≠ base := by
  intro he
  exact h (MetricName.join_left_cancel (he.trans (MetricName.join_empty base).symm))

theorem size_readFrom_of_repeats (h : r.Repeats base) :
    (r.readFrom base).1.size + 1 = (r.namesFrom base).length := by
  obtain ⟨he, hs, hj⟩ := h
  have hb : base ∈ (r.namesFrom base).toFinset :=
    List.mem_toFinset.mpr (mem_namesFrom.mpr ⟨hs, base.startsWith_self⟩)
  have hjoin : base.join base ∈ (r.namesFrom base).toFinset :=
    List.mem_toFinset.mpr (mem_namesFrom.mpr ⟨hj, base.startsWith_join base⟩)
  -- Without the repetition the keys are distinct, and its own key is already there.
  have himage : (r.namesFrom base).toFinset.image (shownAs base) =
      ((r.namesFrom base).toFinset.erase (base.join base)).image (shownAs base) := by
    rw [← Finset.insert_erase hjoin, Finset.image_insert, Finset.erase_insert_eq_erase,
      Finset.erase_idem]
    refine Finset.insert_eq_self.mpr (Finset.mem_image.mpr ⟨base, ?_, ?_⟩)
    · exact Finset.mem_erase.mpr ⟨(join_self_ne he).symm, hb⟩
    · rw [shownAs_self, shownAs_join he]
  have hinj : Set.InjOn (shownAs base)
      ((r.namesFrom base).toFinset.erase (base.join base) : Set MetricName) := by
    intro a ha b hb' hk
    obtain ⟨na, ha⟩ := Finset.mem_erase.mp ha
    obtain ⟨nb, hb'⟩ := Finset.mem_erase.mp hb'
    rcases shownAs_injective (mem_namesFrom.mp (List.mem_toFinset.mp ha)).2
      (mem_namesFrom.mp (List.mem_toFinset.mp hb')).2 hk with h | ⟨-, ⟨-, h⟩ | ⟨h, -⟩⟩
    · exact h
    · exact absurd h nb
    · exact absurd h na
  rw [size_readFrom, himage, Finset.card_image_of_injOn hinj, Finset.card_erase_add_one hjoin,
    List.toFinset_card_of_nodup (r.nodup_namesFrom base)]

theorem find?_readFrom (hid : r.id? name = some id) (hb : name.startsWith base)
    (alone : r.Repeats base → name ≠ base ∧ name ≠ base.join base) {s : Snapshot}
    (hs : (r.read id).1 = some s) : (r.readFrom base).1.find? (shownAs base name) = some s := by
  rw [readFrom_eq]
  refine Table.find?_ofList (mem_shown.mpr ⟨name, id, hid, hb, rfl, hs⟩) fun t ht => ?_
  obtain ⟨other, id', hid', hb', hk, ht⟩ := mem_shown.mp ht
  have same : name = other := by
    by_contra hne
    obtain ⟨hr, hn⟩ := repeats_of_shownAs_eq (mem_namesFrom_of_id? hid hb)
      (mem_namesFrom_of_id? hid' hb') hne hk.symm
    exact hn.elim (alone hr).1 (alone hr).2
  subst same
  cases hid.symm.trans hid'
  exact Option.some.inj (ht.symm.trans hs)

/-- A snapshot shows each name from the base on, by its own key and with what its metric shows, and
nothing else. But if the base is bound and repeats itself below, then one of these two is lost. -/
theorem readFrom_complete (r : Registry) (base : MetricName) :
    (∀ name id, r.id? name = some id → name.startsWith base →
      (r.Repeats base → name ≠ base ∧ name ≠ base.join base) →
      ∃ key s, (name = base → key = name.text) ∧ (name ≠ base → name.relativeTo? base = some key) ∧
        (r.read id).1 = some s ∧ (r.readFrom base).1.find? key = some s) ∧
    (∀ key s, (r.readFrom base).1.find? key = some s → ∃ name id, r.id? name = some id ∧
      name.startsWith base ∧ shownAs base name = key ∧ (r.read id).1 = some s) ∧
    (¬r.Repeats base → (r.readFrom base).1.size = (r.namesFrom base).length) ∧
    (r.Repeats base → (r.readFrom base).1.size + 1 = (r.namesFrom base).length) := by
  refine ⟨fun name id hid hb alone => ?_, fun key s h => ?_, size_readFrom_of_not_repeats,
    size_readFrom_of_repeats⟩
  · obtain ⟨s, hs⟩ := exists_read hid
    refine ⟨shownAs base name, s, ?_, fun hne => ?_, hs, find?_readFrom hid hb alone hs⟩
    · rintro rfl
      exact shownAs_self name
    · obtain ⟨below, rfl⟩ := MetricName.startsWith_iff.mp hb
      have he : below ≠ .empty := by
        rintro rfl
        exact hne (MetricName.join_empty base)
      rw [shownAs_join he, MetricName.relativeTo?_join base below he]
  · rw [readFrom_eq] at h
    exact mem_shown.mp (Table.mem_of_find?_ofList h)

/-- A counter under `a` and one under `a.a`. -/
def twins : Registry :=
  let a := MetricName.ofNode (Node.escape "a")
  (((withClock (.startingAt 0)).getOrCreate a .counter).2.getOrCreate (a.join a) .counter).2

theorem readFrom_twins :
    (twins.namesFrom (.ofNode (Node.escape "a"))).length = 2 ∧
      (twins.readFrom (.ofNode (Node.escape "a"))).1.size = 1 := by
  decide

end Registry

end Telemetry
