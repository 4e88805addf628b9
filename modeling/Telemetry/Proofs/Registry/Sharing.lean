import Telemetry.Proofs.Table
import Telemetry.Registry.Shared

/-!
Who shares a registry. From the request that first names it until the name is removed, all requests
with a name get one registry; after that the name stands for another one, and those who have the old
one keep it. A registry that was asked for without a name belongs to one context alone.
-/

namespace Telemetry.Registries

variable {rs : Registries} {name : String} {sought : Option String} {id : RegistryId}

/-! ### What a request gets -/

/-- A request gets what the name stands for, or else a new registry, for which the name stands then
if there is one. -/
inductive Serves (rs : Registries) : Option String → RegistryId × Registries → Prop
  | shared {name : String} {id : RegistryId} (h : rs.shared? name = some id) :
    Serves rs (some name) (id, rs)
  | first {name : String} (h : rs.shared? name = none) :
    Serves rs (some name)
      (rs.all.size, { rs.addNew.2 with shared := rs.shared.insert name rs.all.size })
  | own : Serves rs none rs.addNew

theorem serves_getOrCreate (rs : Registries) (name : String) :
    rs.Serves (some name) (rs.getOrCreate name) := by
  unfold getOrCreate
  cases h : rs.shared? name with
  | some id => exact .shared h
  | none => exact .first h

namespace Serves

variable {served : RegistryId × Registries}

theorem size_le (h : rs.Serves sought served) : rs.all.size ≤ served.2.all.size := by
  cases h <;> simp [addNew, add]

theorem get? (h : rs.Serves sought served) (hid : id < rs.all.size) :
    served.2.get? id = rs.get? id := by
  cases h with
  | shared h => rfl
  | first h => simp [Registries.get?, addNew, add, Array.getElem?_push, Nat.ne_of_lt hid]
  | own => simp [Registries.get?, addNew, add, Array.getElem?_push, Nat.ne_of_lt hid]

theorem shared? (h : rs.Serves sought served) (name : String) :
    served.2.shared? name = if sought = some name then some served.1 else rs.shared? name := by
  cases h with
  | @shared n id h =>
    split
    · next same => exact Option.some.inj same ▸ h
    · rfl
  | @first n h =>
    split
    · next same =>
      cases same
      exact Table.find?_insert_self ..
    · next other => exact Table.find?_insert_of_ne _ _ fun same => other (congrArg some same.symm)
  | own => rfl

/-- A registry that is handed out is one that the name stands for, or has not been there before. -/
theorem known_or_new (h : rs.Serves sought served) :
    (∃ name, sought = some name ∧ rs.shared? name = some served.1) ∨
      (∀ name, sought = some name → rs.shared? name = none) ∧ served.1 = rs.all.size ∧
        served.1 < served.2.all.size := by
  cases h with
  | shared h => exact .inl ⟨_, rfl, h⟩
  | first h =>
    refine .inr ⟨fun name same => ?_, rfl, by simp [addNew, add]⟩
    cases same
    exact h
  | own => exact .inr ⟨fun name same => (by cases same), rfl, by simp [addNew, add]⟩

end Serves

/-- No registry is shared yet. -/
def start (all : Array Registry) : Registries := ⟨all, .empty⟩

/-- A name stands for a registry that is there, and no other name stands for it. -/
structure Sound (rs : Registries) : Prop where
  lt : ∀ {name id}, rs.shared? name = some id → id < rs.all.size
  unique : ∀ {name other id}, rs.shared? name = some id → rs.shared? other = some id →
    name = other

theorem sound_start (all : Array Registry) : (start all).Sound :=
  ⟨fun h => (by cases h), fun h => (by cases h)⟩

/-! ### What is done -/

variable [Pattern.Engine]

/-- What is done with the registries of a program. -/
inductive Op
  | getOrCreate (name : String)
  | remove (name : String)
  | context (o : MeasureOptions)
  /-- Any use of one of them. -/
  | modify (id : RegistryId) (f : Registry → Registry)

/-- The registry that is handed out, and the registries afterwards. -/
def step (rs : Registries) : Op → Option RegistryId × Registries
  | .getOrCreate name => let (id, rs) := rs.getOrCreate name; (some id, rs)
  | .remove name => rs.remove name
  | .context o => let (c, rs) := Context.withShared o rs; (c.map (·.registry), rs)
  | .modify id f => (none, rs.modify id f)

def run (rs : Registries) (ops : List Op) : Registries := ops.foldl (fun rs op => (rs.step op).2) rs

namespace Op

/-- Whether a registry is asked for, and the name under which it is to be shared. -/
def request? : Op → Option (Option String)
  | .getOrCreate name => some (some name)
  | .context o => if o.enabled then some o.registryName else none
  | _ => none

def removes (name : String) : Op → Bool
  | .remove n => n == name
  | _ => false

/-- What is done to one of the registries. -/
def effect (id : RegistryId) : Op → Registry → Registry
  | .modify i f => if i = id then f else fun r => r
  | _ => fun r => r

end Op

variable {op : Op} {ops : List Op}

@[simp] theorem run_nil (rs : Registries) : rs.run [] = rs := rfl

@[simp] theorem run_cons (rs : Registries) (op : Op) (ops : List Op) :
    rs.run (op :: ops) = (rs.step op).2.run ops := rfl

/-! ### One step -/

/-- Every request is served in this way, and all that asks for nothing hands out nothing that a
name could stand for. -/
theorem step_cases (rs : Registries) (op : Op) :
    (∃ sought served, op.request? = some sought ∧ rs.Serves sought served ∧
      rs.step op = (some served.1, served.2)) ∨
    op.request? = none ∧
      ((∃ name, op = .remove name) ∨ (∃ id f, op = .modify id f) ∨
        (∃ o, op = .context o) ∧ rs.step op = (none, rs)) := by
  cases op with
  | getOrCreate name => exact .inl ⟨_, _, rfl, rs.serves_getOrCreate name, rfl⟩
  | remove name => exact .inr ⟨rfl, .inl ⟨name, rfl⟩⟩
  | modify id f => exact .inr ⟨rfl, .inr (.inl ⟨id, f, rfl⟩)⟩
  | context o =>
    cases enabled : o.enabled with
    | false =>
      refine .inr ⟨by simp [Op.request?, enabled], .inr (.inr ⟨⟨o, rfl⟩, ?_⟩)⟩
      simp [step, Context.withShared, Context.new, enabled]
    | true =>
      cases named : o.registryName with
      | none =>
        refine .inl ⟨none, _, by simp [Op.request?, enabled, named], .own, ?_⟩
        simp [step, Context.withShared, Context.new, Context.withRegistry, enabled, named]
      | some name =>
        refine .inl ⟨some name, _, by simp [Op.request?, enabled, named],
          rs.serves_getOrCreate name, ?_⟩
        simp [step, Context.withShared, Context.withRegistry, enabled, named]

theorem size_le_step (rs : Registries) (op : Op) : rs.all.size ≤ (rs.step op).2.all.size := by
  rcases rs.step_cases op with ⟨_, _, -, served, step⟩ | ⟨-, ⟨name, rfl⟩ | ⟨id, f, rfl⟩ | ⟨-, step⟩⟩
  · rw [step]
    exact served.size_le
  · exact Nat.le_refl _
  · simp [Registries.step, modify]
  · simp [step]

theorem get?_step (h : id < rs.all.size) (op : Op) :
    (rs.step op).2.get? id = (rs.get? id).map (op.effect id) := by
  have idle {op : Op} (none : op.effect id = fun r => r) :
      (rs.get? id).map (op.effect id) = rs.get? id := by simp [none]
  rcases rs.step_cases op with ⟨_, _, hr, served, step⟩ | ⟨-, ⟨name, rfl⟩ | ⟨i, f, rfl⟩ |
    ⟨⟨o, rfl⟩, step⟩⟩
  · rw [step, idle, served.get? h]
    cases op <;> first | rfl | cases hr
  · exact (idle rfl).symm
  · simp only [Registries.step, modify, get?, Op.effect, Array.getElem?_modify]
    split
    · rfl
    · simp
  · rw [step, idle rfl]

theorem shared?_step (rs : Registries) (op : Op) (name : String) :
    (rs.step op).2.shared? name =
      if op.request? = some (some name) then (rs.step op).1
      else if op.removes name then none else rs.shared? name := by
  rcases rs.step_cases op with ⟨sought, _, hr, served, step⟩ | ⟨hr, ⟨n, rfl⟩ | ⟨i, f, rfl⟩ |
    ⟨⟨o, rfl⟩, step⟩⟩
  · have stays : op.removes name = false := by
      cases op <;> first | rfl | cases hr
    rw [step, served.shared? name, hr, stays]
    simp
  · simp [Registries.step, remove, shared?, Table.find?_erase, Op.request?, Op.removes]
  · rfl
  · rw [step, hr]
    rfl

/-- A request is answered with what its name stands for, or with a registry that is new. -/
theorem answer_cases (h : op.request? = some sought) (rs : Registries) :
    ∃ id, (rs.step op).1 = some id ∧
      ((∃ name, sought = some name ∧ rs.shared? name = some id) ∨
        (∀ name, sought = some name → rs.shared? name = none) ∧ id = rs.all.size ∧
          id < (rs.step op).2.all.size) := by
  rcases rs.step_cases op with ⟨_, served, hr, serves, step⟩ | ⟨hr, -⟩
  · cases h.symm.trans hr
    exact ⟨served.1, by rw [step], by rw [step]; exact serves.known_or_new⟩
  · cases h.symm.trans hr

/-! ### Names and registries -/

/-- Of the registries that are there, a name stands for the same as before, if for any. -/
theorem shared?_step_iff (hid : id < rs.all.size) (op : Op) (name : String) :
    (rs.step op).2.shared? name = some id ↔ rs.shared? name = some id ∧ ¬op.removes name := by
  rw [shared?_step]
  split
  · next hr =>
    have stays : op.removes name = false := by
      cases op <;> first | rfl | cases hr
    obtain ⟨i, answer, ⟨n, same, known⟩ | ⟨free, rfl, -⟩⟩ := answer_cases hr rs
    · cases same
      simp [answer, known, stays]
    · simp [answer, free name rfl, Nat.ne_of_gt hid]
  · split <;> simp [*]

/-- A registry that was handed out under a name has this name only. -/
theorem Sound.shared?_answer_iff (sound : rs.Sound) (h : op.request? = some sought)
    (answer : (rs.step op).1 = some id) (name : String) :
    (rs.step op).2.shared? name = some id ↔ sought = some name := by
  constructor
  · intro hs
    obtain ⟨i, hi, ⟨n, rfl, known⟩ | ⟨-, rfl, -⟩⟩ := answer_cases h rs <;>
      cases answer.symm.trans hi
    · have before := ((shared?_step_iff (sound.lt known) op name).mp hs).1
      exact congrArg some (sound.unique known before)
    · by_contra other
      rw [shared?_step, if_neg (by simpa [h] using other)] at hs
      split at hs
      · cases hs
      · exact Nat.lt_irrefl _ (sound.lt hs)
  · rintro rfl
    rw [shared?_step, if_pos h, answer]

theorem Sound.answer_lt (sound : rs.Sound) (h : op.request? = some sought)
    (answer : (rs.step op).1 = some id) : id < (rs.step op).2.all.size := by
  obtain ⟨i, hi, ⟨n, -, known⟩ | ⟨-, -, there⟩⟩ := answer_cases h rs <;>
    cases answer.symm.trans hi
  · exact Nat.lt_of_lt_of_le (sound.lt known) (size_le_step rs op)
  · exact there

theorem Sound.step (sound : rs.Sound) (op : Op) : (rs.step op).2.Sound := by
  have origin {name : String} {id : RegistryId} (h : (rs.step op).2.shared? name = some id) :
      (op.request? = some (some name) ∧ (rs.step op).1 = some id) ∨ rs.shared? name = some id := by
    rw [shared?_step] at h
    split at h
    · next hr => exact .inl ⟨hr, h⟩
    · split at h
      · cases h
      · exact .inr h
  constructor
  · intro name id h
    rcases origin h with ⟨hr, answer⟩ | before
    · exact sound.answer_lt hr answer
    · exact Nat.lt_of_lt_of_le (sound.lt before) (size_le_step rs op)
  · intro name other id h ho
    rcases origin h with ⟨hr, answer⟩ | before
    · exact Option.some.inj ((sound.shared?_answer_iff hr answer other).mp ho)
    · rcases origin ho with ⟨hr, answer⟩ | before'
      · exact (Option.some.inj ((sound.shared?_answer_iff hr answer name).mp h)).symm
      · exact sound.unique before before'

/-! ### Runs -/

theorem Sound.run (sound : rs.Sound) (ops : List Op) : (rs.run ops).Sound := by
  induction ops generalizing rs with
  | nil => exact sound
  | cons op ops ih => exact ih (sound.step op)

theorem size_le_run (rs : Registries) (ops : List Op) : rs.all.size ≤ (rs.run ops).all.size := by
  induction ops generalizing rs with
  | nil => exact Nat.le_refl _
  | cons op ops ih => exact Nat.le_trans (size_le_step rs op) (ih _)

/-- What is in a registry depends on nothing but what was done to it. -/
theorem get?_run (h : id < rs.all.size) (ops : List Op) :
    (rs.run ops).get? id = (rs.get? id).map fun r => ops.foldl (fun r op => op.effect id r) r := by
  induction ops generalizing rs with
  | nil => simp
  | cons op ops ih =>
    rw [run_cons, ih (Nat.lt_of_lt_of_le h (size_le_step rs op)), get?_step h, Option.map_map]
    rfl

theorem shared?_run_iff (hid : id < rs.all.size) (ops : List Op) (name : String) :
    (rs.run ops).shared? name = some id ↔
      rs.shared? name = some id ∧ ∀ op ∈ ops, ¬op.removes name := by
  induction ops generalizing rs with
  | nil => simp
  | cons op ops ih =>
    rw [run_cons, ih (Nat.lt_of_lt_of_le hid (size_le_step rs op)), shared?_step_iff hid,
      List.forall_mem_cons, and_assoc]

/-- The name was asked for, and not removed since. -/
def Lives (name : String) (ops : List Op) : Prop :=
  ∃ before op after, ops = before ++ op :: after ∧ op.request? = some (some name) ∧
    ∀ o ∈ after, ¬o.removes name

theorem isSome_shared?_step (rs : Registries) (op : Op) (name : String) :
    ((rs.step op).2.shared? name).isSome ↔
      op.request? = some (some name) ∨ (rs.shared? name).isSome ∧ ¬op.removes name := by
  rw [shared?_step]
  split
  · next hr =>
    obtain ⟨id, answer, -⟩ := answer_cases hr rs
    simp [answer, hr]
  · next hr => split <;> simp [*]

theorem isSome_shared?_run (rs : Registries) (ops : List Op) (name : String) :
    ((rs.run ops).shared? name).isSome ↔
      Lives name ops ∨ (rs.shared? name).isSome ∧ ∀ op ∈ ops, ¬op.removes name := by
  induction ops generalizing rs with
  | nil => simp [Lives]
  | cons op ops ih =>
    have lives : Lives name (op :: ops) ↔
        Lives name ops ∨ op.request? = some (some name) ∧ ∀ o ∈ ops, ¬o.removes name := by
      constructor
      · rintro ⟨before, o, after, split, hr, kept⟩
        cases before with
        | nil =>
          cases split
          exact .inr ⟨hr, kept⟩
        | cons x before =>
          cases split
          exact .inl ⟨before, o, after, rfl, hr, kept⟩
      · rintro (⟨before, o, after, rfl, hr, kept⟩ | ⟨hr, kept⟩)
        · exact ⟨op :: before, o, after, rfl, hr, kept⟩
        · exact ⟨[], op, ops, rfl, hr, kept⟩
    rw [run_cons, ih, isSome_shared?_step, lives, List.forall_mem_cons]
    tauto

/-! ### The law -/

section

variable {later : Op} {wanted : Option String} {id' : RegistryId}

theorem Sound.shared?_run_answer_iff (sound : rs.Sound) (h : op.request? = some sought)
    (answer : (rs.step op).1 = some id) (ops : List Op) (name : String) :
    ((rs.step op).2.run ops).shared? name = some id ↔
      sought = some name ∧ ∀ o ∈ ops, ¬o.removes name := by
  rw [shared?_run_iff (sound.answer_lt h answer), sound.shared?_answer_iff h answer]

/-- A later request gets the same registry exactly if both name it alike and the name was not
removed between them. -/
theorem Sound.same_iff (sound : rs.Sound) (h : op.request? = some sought)
    (answer : (rs.step op).1 = some id) (h' : later.request? = some wanted)
    (answer' : (((rs.step op).2.run ops).step later).1 = some id') :
    id = id' ↔ ∃ name, sought = some name ∧ wanted = some name ∧ ∀ o ∈ ops, ¬o.removes name := by
  have stands := sound.shared?_run_answer_iff h answer ops
  have older : id < ((rs.step op).2.run ops).all.size :=
    Nat.lt_of_lt_of_le (sound.answer_lt h answer) (size_le_run _ ops)
  obtain ⟨i, hi, ⟨name, rfl, known⟩ | ⟨free, rfl, -⟩⟩ :=
    answer_cases h' ((rs.step op).2.run ops) <;> cases answer'.symm.trans hi
  · constructor
    · rintro rfl
      obtain ⟨named, kept⟩ := (stands name).mp known
      exact ⟨name, named, rfl, kept⟩
    · rintro ⟨_, named, ⟨⟩, kept⟩
      exact Option.some.inj (((stands name).mpr ⟨named, kept⟩).symm.trans known)
  · refine ⟨fun same => absurd older (by simp [same]), ?_⟩
    rintro ⟨name, named, rfl, kept⟩
    exact absurd ((free name rfl).symm.trans ((stands name).mpr ⟨named, kept⟩)) (by simp)

end

section

variable {o : MeasureOptions} {c : Context}

theorem options_withShared (o : MeasureOptions) (rs : Registries) :
    (Context.withShared o rs).1.map (·.options) = if o.enabled then some o else none := by
  cases enabled : o.enabled <;> cases named : o.registryName <;>
    simp [Context.withShared, Context.new, Context.withRegistry, enabled, named]

theorem withShared_of_not_enabled (h : o.enabled = false) (rs : Registries) :
    Context.withShared o rs = (none, rs) := by
  simp [Context.withShared, Context.new, h]

/-- Whoever gets a context has asked for its registry. -/
theorem request?_of_withShared (h : (Context.withShared o rs).1 = some c) :
    (Op.context o).request? = some o.registryName ∧
      (rs.step (.context o)).1 = some c.registry := by
  have enabled : o.enabled := by
    have options := options_withShared o rs
    rw [h] at options
    by_contra disabled
    simp [disabled] at options
  refine ⟨if_pos enabled, ?_⟩
  change (Context.withShared o rs).1.map (·.registry) = _
  rw [h, Option.map_some]

end

/-- Contexts share a registry exactly if they name it alike and the name was not removed between
them, and so do those who ask by the name itself; without a name a context has a registry that
nobody else gets. The names listed are those asked for and not removed since. A context keeps its
registry and what is in it, whatever becomes of the name. -/
theorem sharing_law (all : Array Registry) (before : List Op) :
    let rs := (start all).run before
    -- There is a context if the options are enabled, and else nothing happens.
    (∀ o, (Context.withShared o rs).1.map (·.options) = if o.enabled then some o else none) ∧
    (∀ o : MeasureOptions, o.enabled = false → Context.withShared o rs = (none, rs)) ∧
    -- Who shares with whom
    (∀ o c, (Context.withShared o rs).1 = some c → ∀ between,
      let rs' := (Context.withShared o rs).2.run between
      (∀ o' c', (Context.withShared o' rs').1 = some c' →
        (c.registry = c'.registry ↔ ∃ name, o.registryName = some name ∧
          o'.registryName = some name ∧ ∀ op ∈ between, ¬op.removes name)) ∧
      (∀ name, c.registry = (rs'.getOrCreate name).1 ↔
        o.registryName = some name ∧ ∀ op ∈ between, ¬op.removes name) ∧
      (o.registryName = none → rs.get? c.registry = none ∧
        ∀ name, rs'.shared? name ≠ some c.registry) ∧
      -- What a context measures into
      ∃ r, (Context.withShared o rs).2.get? c.registry = some r ∧
        rs'.get? c.registry = some (between.foldl (fun r op => op.effect c.registry r) r)) ∧
    -- The names
    (∀ name, (rs.shared? name).isSome ↔ Lives name before) ∧
    rs.sharedNames.Pairwise (· < ·) ∧
    ∀ name, name ∈ rs.sharedNames ↔ Lives name before := by
  intro rs
  have sound : rs.Sound := (sound_start all).run before
  have lives (name : String) : (rs.shared? name).isSome ↔ Lives name before := by
    rw [isSome_shared?_run]
    simp [start, shared?]
  refine ⟨fun o => options_withShared o rs, fun o h => withShared_of_not_enabled h rs,
    fun o c hc between => ?_, lives, ?_, fun name => Table.isSome_find?_iff.symm.trans (lives name)⟩
  · obtain ⟨asked, answer⟩ := request?_of_withShared hc
    have there : c.registry < (Context.withShared o rs).2.all.size := sound.answer_lt asked answer
    refine ⟨fun o' c' hc' => ?_, fun name => ?_, fun unnamed => ⟨?_, fun name shared => ?_⟩, ?_⟩
    · obtain ⟨asked', answer'⟩ := request?_of_withShared hc'
      exact sound.same_iff asked answer asked' answer'
    · have same : c.registry = (((Context.withShared o rs).2.run between).getOrCreate name).1 ↔ _ :=
        sound.same_iff asked answer (rfl : (Op.getOrCreate name).request? = some (some name)) rfl
      exact same.trans (by simp)
    · obtain ⟨id, hid, ⟨name, named, -⟩ | ⟨-, new, -⟩⟩ := answer_cases asked rs
      · cases unnamed.symm.trans named
      · rw [Option.some.inj (answer.symm.trans hid), new]
        exact Array.getElem?_eq_none (Nat.le_refl _)
    · have named := ((sound.shared?_run_answer_iff asked answer between name).mp shared).1
      cases unnamed.symm.trans named
    · have held : (Context.withShared o rs).2.get? c.registry = some _ :=
        Array.getElem?_eq_getElem there
      exact ⟨_, held, (get?_run there between).trans (congrArg _ held)⟩
  · refine List.pairwise_map.mpr (rs.shared.ascending.imp fun h => ?_)
    exact compareOfLessAndEq_eq_lt.mp h

end Telemetry.Registries
