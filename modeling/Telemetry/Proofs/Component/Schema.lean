import Telemetry.Component.Dynamic
import Telemetry.Proofs.Registry.Lookup

/-!
Schemas, which give each name its kind. Whoever asks only for what a schema allows never meets a
metric of another kind in a registry that others fill by the same schema, and binds only names that
the schema knows.
-/

namespace Telemetry

/-- The kind of each name that may be used at all. -/
abbrev Schema := MetricName → Option Kind

def Schema.Sub (S T : Schema) : Prop := ∀ name kind, S name = some kind → T name = some kind

namespace Registry

/-- The names of a schema have metrics of the right kinds, as far as they have any. -/
def Respects (r : Registry) (S : Schema) : Prop :=
  ∀ name kind id, S name = some kind → r.id? name = some id → r.kind? id = some kind

/-- The second registry comes from the first by recording and by asking for what a schema allows.
Something is left out only if the first one does not respect the schema. -/
inductive Uses (S : Schema) (r : Registry) : Registry → Prop
  | refl : Uses S r r
  | record {r' : Registry} (h : Uses S r r') (id : MetricId) (e : Event) : Uses S r (r'.record id e)
  | obtain {r' : Registry} (h : Uses S r r') {name : MetricName} {kind : Kind}
    (hs : S name = some kind) {new? : Option Metric} (hnew : ∀ m ∈ new?, m.kind = kind) :
    Uses S r (r'.obtain name kind new?).2
  | skip {r' : Registry} (h : Uses S r r') (hr : ¬r.Respects S) (e : MeasureError) :
    Uses S r (r'.skip e)

variable {S T : Schema} {r r' r'' : Registry} {name : MetricName} {id : MetricId} {kind : Kind}

theorem respects_withClock (c : Clock) (S : Schema) : (withClock c).Respects S := by
  intro name kind id hs hid
  simp at hid

theorem Respects.anti (h : r.Respects T) (hsub : S.Sub T) : r.Respects S :=
  fun name kind id hs => h name kind id (hsub name kind hs)

theorem Respects.not_refuses (h : r.Respects S) (hs : S name = some kind) :
    ¬r.Refuses name kind := by
  rintro ⟨id, registered, hid, hk, hne⟩
  exact hne (Option.some.inj (hk.symm.trans (h name kind id hs hid)))

theorem Respects.obtain_ok (h : r.Respects S) (hs : S name = some kind) (m : Metric) :
    ∃ id, (r.obtain name kind (some m)).1 = .ok id := by
  rcases r.obtain_cases name kind (some m) with ⟨id, -, -, ho⟩ | ⟨id, k, hid, hk, hne, -⟩ |
    ⟨-, hm, -⟩ | ⟨_, -, -, ho⟩
  · exact ⟨id, by rw [ho]⟩
  · exact absurd ⟨id, k, hid, hk, hne⟩ (h.not_refuses hs)
  · cases hm
  · exact ⟨r.fresh, by rw [ho]⟩

namespace Uses

theorem respects (h : Uses S r r') (hr : r.Respects S) : r'.Respects S := by
  induction h with
  | refl => exact hr
  | record _ i e ih =>
    intro name kind id hs hid
    rw [kind?_record]
    exact ih name kind id hs hid
  | @obtain r' _ n k hn new? hnew ih =>
    rcases r'.obtain_snd_cases n k new? with ho | ⟨m, hm, free, ho⟩ <;> rw [ho]
    · exact ih
    · intro name kind id hs hid
      by_cases same : name = n
      · subst same
        rw [id?_insert_self] at hid
        cases hid
        cases hn.symm.trans hs
        rw [kind?_insert_fresh, hnew m hm]
      · rw [id?_insert_of_ne r' m same] at hid
        rw [kind?_insert_of_lt r' n m (id_lt hid)]
        exact ih name kind id hs hid
  | skip _ _ _ ih => exact ih

/-- Nothing is left out where the schema is respected. -/
theorem skipped_eq (h : Uses S r r') (hr : r.Respects S) : r'.skipped = r.skipped := by
  induction h with
  | refl => rfl
  | record _ _ _ ih => exact ih
  | @obtain r' _ n k _ new? _ ih =>
    rcases r'.obtain_snd_cases n k new? with ho | ⟨m, -, -, ho⟩ <;> rw [ho] <;> exact ih
  | skip _ offended _ _ => exact absurd hr offended

theorem clock_eq (h : Uses S r r') : r'.clock = r.clock := by
  induction h with
  | refl => rfl
  | record _ _ _ ih => exact ih
  | @obtain r' _ n k _ new? _ ih =>
    rcases r'.obtain_snd_cases n k new? with ho | ⟨m, -, -, ho⟩ <;> rw [ho] <;> exact ih
  | skip _ _ _ ih => exact ih

theorem trans (h : Uses S r r') (h' : Uses S r' r'') : Uses S r r'' := by
  induction h' with
  | refl => exact h
  | record _ id e ih => exact ih.record id e
  | obtain _ hs hnew ih => exact ih.obtain hs hnew
  | skip _ offended e ih => exact ih.skip (fun hr => offended (h.respects hr)) e

theorem mono (h : Uses S r r') (hsub : S.Sub T) : Uses T r r' := by
  induction h with
  | refl => exact refl
  | record _ id e ih => exact ih.record id e
  | obtain _ hs hnew ih => exact ih.obtain (hsub _ _ hs) hnew
  | skip _ offended e ih => exact ih.skip (fun hr => offended (hr.anti hsub)) e

theorem isSome_of_changed (h : Uses S r r') (hne : r'.id? name ≠ r.id? name) : (S name).isSome := by
  induction h with
  | refl => exact absurd rfl hne
  | record _ _ _ ih => exact ih hne
  | @obtain r' _ n k hs new? _ ih =>
    by_cases hn : name = n
    · rw [hn, hs]
      rfl
    · refine ih fun he => hne ?_
      rcases r'.obtain_snd_cases n k new? with ho | ⟨m, -, -, ho⟩ <;> rw [ho]
      · exact he
      · rw [id?_insert_of_ne r' m hn, he]
  | skip _ _ _ ih => exact ih hne

theorem recordAll (h : Uses S r r') (es : List (MetricId × Event)) :
    Uses S r (r'.recordAll es) := by
  induction es generalizing r' with
  | nil => exact h
  | cons e es ih => exact ih (h.record e.1 e.2)

theorem recordIn (h : Uses S r r') (id? : Option MetricId) (e : Event) :
    Uses S r (r'.recordIn id? e) := by
  cases id? with
  | none => exact h
  | some id => exact h.record id e

theorem typed (h : Uses S r r') (hs : S name = some kind) : Uses S r (r'.typed name kind).2 := by
  rw [typed_eq]
  exact h.obtain hs fun _ => kind_of_mem_new?

theorem getOrAddGauge (h : Uses S r r') (hs : S name = some .gauge) (g : Gauge) :
    Uses S r (r'.getOrAddGauge name g).2 := by
  rw [getOrAddGauge_eq]
  exact h.obtain hs fun _ => kind_of_mem_gauge

/-- A metric that is not free is one of another kind. -/
theorem metricIfFree (h : Uses S r r') (hs : S name = some kind) (plain : kind ≠ .gauge) :
    Uses S r (r'.metricIfFree (.ok name) kind).2 := by
  have hu := h.typed hs
  rw [typed_eq, getOrCreate] at hu
  rw [Registry.metricIfFree]
  simp only [typed_eq, getOrCreate]
  rcases r'.obtain_cases name kind (Metric.new? kind r'.now) with ⟨_, -, -, ho⟩ |
    ⟨i, k, hid, hk, hne, ho⟩ | ⟨-, hm, ho⟩ | ⟨_, -, -, ho⟩ <;> rw [ho] at hu ⊢
  · exact hu
  · exact hu.skip (fun hr => (h.respects hr).not_refuses hs ⟨i, k, hid, hk, hne⟩) _
  · exact absurd ((Metric.new?_eq_none_iff ..).mp hm) plain
  · exact hu

end Uses

end Registry

namespace Setup

variable {S : Schema} {α β : Type} {P : α → Prop} {Q : β → Prop} {m : Setup α}

/-- The steps use a registry by a schema, they succeed where it is respected, and what they give
satisfies `P`. -/
structure Within (S : Schema) (P : α → Prop) (m : Setup α) : Prop where
  uses : ∀ r, Registry.Uses S r (m.run r).2
  ok : ∀ r, r.Respects S → ∃ a, (m.run r).1 = .ok a
  post : ∀ r a, (m.run r).1 = .ok a → P a

theorem run_bind (m : Setup α) (f : α → Setup β) (r : Registry) :
    (m >>= f).run r = match m.run r with
      | (.ok a, r) => (f a).run r
      | (.error e, r) => (.error e, r) := by
  change ExceptT.bindCont f (m.run r).1 (m.run r).2 = _
  rcases m.run r with ⟨_ | _, _⟩ <;> rfl

namespace Within

theorem pure {a : α} (h : P a) : Within S P (Pure.pure a : Setup α) where
  uses _ := .refl
  ok _ _ := ⟨a, rfl⟩
  post _ _ ha := by
    cases ha
    exact h

theorem bind {f : α → Setup β} (h : Within S P m) (hf : ∀ a, P a → Within S Q (f a)) :
    Within S Q (m >>= f) := by
  refine ⟨fun r => ?_, fun r hr => ?_, fun r b hb => ?_⟩
  · have hu := h.uses r
    rw [run_bind]
    rcases hm : m.run r with ⟨_ | a, r'⟩ <;> rw [hm] at hu
    · exact hu
    · exact hu.trans ((hf a (h.post r a (by rw [hm]))).uses r')
  · obtain ⟨a, ha⟩ := h.ok r hr
    have hr' := (h.uses r).respects hr
    rw [run_bind]
    rcases hm : m.run r with ⟨_ | _, r'⟩ <;> rw [hm] at ha hr' <;> cases ha
    exact (hf a (h.post r a (by rw [hm]))).ok r' hr'
  · rw [run_bind] at hb
    rcases hm : m.run r with ⟨_ | a, r'⟩ <;> rw [hm] at hb
    · cases hb
    · exact (hf a (h.post r a (by rw [hm]))).post r' b hb

theorem map {f : α → β} (h : Within S P m) (hf : ∀ a, P a → Q (f a)) : Within S Q (f <$> m) := by
  rw [map_eq_pure_bind]
  exact h.bind fun a ha => .pure (hf a ha)

theorem mono {S T : Schema} (h : Within S P m) (hsub : S.Sub T) : Within T P m where
  uses r := (h.uses r).mono hsub
  ok r hr := h.ok r (hr.anti hsub)
  post := h.post

end Within

end Setup

end Telemetry
