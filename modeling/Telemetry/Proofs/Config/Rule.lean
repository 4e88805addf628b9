import Telemetry.Config.Convert
import Telemetry.Pattern.Standard

/-!
Rules that are written as maps, and the order of their entries. Each entry says something about the
value, the type or the nickname, and the last one to say so counts. So all orders of a map come to
the same exactly if no two of its entries contradict each other, or if none of them makes a rule.
-/

namespace Telemetry.Config

/-! ### What an entry says -/

/-- What is said about a rule, where anything is. -/
structure Part where
  value : Option String
  type : Option MatchType
  nickname : Option Node

namespace Part

/-- Where both say something they say the same. -/
def Compatible (p q : Part) : Prop :=
  (∀ a ∈ p.value, ∀ b ∈ q.value, a = b) ∧ (∀ a ∈ p.type, ∀ b ∈ q.type, a = b) ∧
    ∀ a ∈ p.nickname, ∀ b ∈ q.nickname, a = b

end Part

/-- Nothing if the entry has no place in a rule or its value does not fit. -/
def part? : Yaml × Yaml → Option Part
  | (.string key, v) =>
    match Key.normalize key with
    | "exact" | "equals" => (text v).toOption.map fun s => ⟨some s, some .equals, none⟩
    | "regex" => (text v).toOption.map fun s => ⟨some s, some .regex, none⟩
    | "value" => (text v).toOption.map fun s => ⟨some s, none, none⟩
    | "type" => ((text v).toOption.bind MatchType.parse?).map fun t => ⟨none, some t, none⟩
    | "alias" => (node v).toOption.map fun n => ⟨none, none, some n⟩
    | _ => none
  | _ => none

/-- Takes what is said in place of what was said before. -/
def RuleDraft.take (d : RuleDraft) (p : Part) : RuleDraft :=
  ⟨p.value.or d.value, p.type.getD d.type, p.nickname.or d.nickname⟩

theorem RuleDraft.take_comm {p q : Part} (h : p.Compatible q) (d : RuleDraft) :
    (d.take p).take q = (d.take q).take p := by
  obtain ⟨value, type, nickname⟩ := h
  obtain ⟨pv, pt, pn⟩ := p
  obtain ⟨qv, qt, qn⟩ := q
  cases pv <;> cases qv <;> cases pt <;> cases qt <;> cases pn <;> cases qn <;>
    simp_all [RuleDraft.take]

theorem toOption_set (d : RuleDraft) (key : String) (v : Yaml) :
    (d.set key v).toOption = (part? (.string key, v)).map d.take := by
  simp only [RuleDraft.set, part?]
  generalize Key.normalize key = k
  split
  · cases text v <;> rfl
  · cases text v <;> rfl
  · cases text v <;> rfl
  · cases text v <;> rfl
  · cases text v with
    | error e => rfl
    | ok s =>
      simp only [Except.bind, Except.toOption, Option.bind_some]
      cases MatchType.parse? s <;> rfl
  · cases node v <;> rfl
  · simp [Except.toOption, *]

/-! ### Maps -/

/-- Every entry says something. -/
def Readable (m : List (Yaml × Yaml)) : Prop := ∀ e ∈ m, (part? e).isSome

instance (m : List (Yaml × Yaml)) : Decidable (Readable m) :=
  inferInstanceAs (Decidable (∀ e ∈ m, (part? e).isSome))

/-- What the entries say, one after another. -/
def parts (m : List (Yaml × Yaml)) : List Part := m.filterMap part?

theorem toOption_foldEntries_cons (d : RuleDraft) (e : Yaml × Yaml) (m : List (Yaml × Yaml)) :
    (foldEntries RuleDraft.set d (e :: m)).toOption =
      (part? e).bind fun p => (foldEntries RuleDraft.set (d.take p) m).toOption := by
  obtain ⟨k, v⟩ := e
  cases k with
  | string key =>
    have said := toOption_set d key v
    simp only [foldEntries, forEntries]
    cases set : d.set key v <;> cases part : part? (.string key, v) <;>
      simp_all [Except.toOption]
  | _ => rfl

theorem toOption_foldEntries_set (d : RuleDraft) (m : List (Yaml × Yaml)) :
    (foldEntries RuleDraft.set d m).toOption =
      if Readable m then some ((parts m).foldl RuleDraft.take d) else none := by
  induction m generalizing d with
  | nil => rfl
  | cons e m ih =>
    have readable : Readable (e :: m) ↔ (part? e).isSome ∧ Readable m := List.forall_mem_cons
    rw [toOption_foldEntries_cons]
    cases part : part? e with
    | none => simp [readable, part]
    | some p => simp [ih, readable, parts, part]

section Outcomes

variable [Pattern.Engine] {m m' : List (Yaml × Yaml)} {e : Yaml × Yaml} {p : Part} {r : MatchRule}

/-- What a map comes to. -/
def outcome (m : List (Yaml × Yaml)) : Option MatchRule := (rule (.map m)).toOption

theorem outcome_eq (m : List (Yaml × Yaml)) : outcome m =
    if Readable m then ((parts m).foldl RuleDraft.take .empty).rule.toOption else none := by
  have bound (x : Result RuleDraft) :
      (x.bind RuleDraft.rule).toOption = x.toOption.bind (·.rule.toOption) := by
    cases x <;> rfl
  rw [outcome, rule, bound, toOption_foldEntries_set]
  split <;> rfl

theorem fields_of_rule {d : RuleDraft} (h : d.rule = .ok r) :
    d.value = some r.value ∧ d.type = r.type ∧ d.nickname = r.nickname := by
  obtain ⟨value, type, nickname⟩ := d
  cases value with
  | none => cases h
  | some value =>
    cases type with
    | equals =>
      cases h
      exact ⟨rfl, rfl, rfl⟩
    | regex =>
      simp only [RuleDraft.rule, MatchRule.ofType, MatchRule.regex] at h
      split at h <;> cases h
      exact ⟨rfl, rfl, rfl⟩

/-! ### Orders -/

/-- No two entries contradict each other. -/
def Consistent (m : List (Yaml × Yaml)) : Prop := ∀ p ∈ parts m, ∀ q ∈ parts m, p.Compatible q

theorem outcome_of_perm (h : Consistent m) (hp : m.Perm m') : outcome m = outcome m' := by
  have readable : Readable m ↔ Readable m' :=
    ⟨fun h e he => h e (hp.mem_iff.mpr he), fun h e he => h e (hp.mem_iff.mp he)⟩
  have folded : (parts m).foldl RuleDraft.take .empty = (parts m').foldl RuleDraft.take .empty :=
    (hp.filterMap part?).foldl_eq' (fun p hp q hq d => RuleDraft.take_comm (h p hp q hq) d) _
  simp only [outcome_eq, folded, readable]

/-- The last entry has the last word. -/
theorem outcome_concat (hp : part? e = some p) (h : outcome (m ++ [e]) = some r) :
    (∀ a ∈ p.value, a = r.value) ∧ (∀ a ∈ p.type, a = r.type) ∧
      ∀ a ∈ p.nickname, some a = r.nickname := by
  rw [outcome_eq, Option.ite_none_right_eq_some] at h
  have last : parts (m ++ [e]) = parts m ++ [p] := by simp [parts, hp]
  rw [last, List.foldl_append, List.foldl_cons, List.foldl_nil] at h
  have made {x : Result MatchRule} (h : x.toOption = some r) : x = .ok r := by
    cases x <;> cases h
    rfl
  obtain ⟨value, type, nickname⟩ := fields_of_rule (made h.2)
  refine ⟨fun a ha => ?_, fun a ha => ?_, fun a ha => ?_⟩
  · simpa [RuleDraft.take, Option.mem_def.mp ha] using value
  · simpa [RuleDraft.take, Option.mem_def.mp ha] using type
  · simpa [RuleDraft.take, Option.mem_def.mp ha] using nickname

/-- All orders of a map come to the same if its entries do not contradict each other, and otherwise
only if none of them makes a rule. -/
theorem orders_agree_iff (m : List (Yaml × Yaml)) :
    (∀ m', m.Perm m' → (rule (.map m)).toOption = (rule (.map m')).toOption) ↔
      Consistent m ∨ ∀ m', m.Perm m' → (rule (.map m')).toOption = none := by
  constructor
  · intro agree
    cases made : outcome m with
    | none => exact .inr fun m' hp => (agree m' hp).symm.trans made
    | some r =>
      -- Whatever an entry says is what the rule has, for the entry could as well be the last.
      have spoken : ∀ p ∈ parts m, (∀ a ∈ p.value, a = r.value) ∧ (∀ a ∈ p.type, a = r.type) ∧
          ∀ a ∈ p.nickname, some a = r.nickname := by
        intro p hp
        obtain ⟨e, he, part⟩ := List.mem_filterMap.mp hp
        obtain ⟨before, after, rfl⟩ := List.append_of_mem he
        have moved : (before ++ e :: after).Perm (before ++ after ++ [e]) :=
          List.perm_middle.trans (List.perm_append_singleton e _).symm
        exact outcome_concat part ((agree _ moved).symm.trans made)
      refine .inl fun p hp q hq => ?_
      obtain ⟨pv, pt, pn⟩ := spoken p hp
      obtain ⟨qv, qt, qn⟩ := spoken q hq
      exact ⟨fun a ha b hb => (pv a ha).trans (qv b hb).symm,
        fun a ha b hb => (pt a ha).trans (qt b hb).symm,
        fun a ha b hb => Option.some.inj ((pn a ha).trans (qn b hb).symm)⟩
  · rintro (consistent | none) m' hp
    · exact outcome_of_perm consistent hp
    · rw [none m' hp, none m (.refl m)]

end Outcomes

/-- A text to compare with becomes a pattern if the entries change places. -/
theorem exact_and_regex :
    let exact : Yaml × Yaml := (.string "exact", .string "a")
    let regex : Yaml × Yaml := (.string "regex", .string "b")
    [exact, regex].Perm [regex, exact] ∧
      (rule (.map [exact, regex])).toOption.map (fun r => (r.type, r.value)) =
        some (.regex, "b") ∧
      (rule (.map [regex, exact])).toOption.map (fun r => (r.type, r.value)) =
        some (.equals, "a") := by
  refine ⟨.swap .., ?_, ?_⟩ <;> decide +kernel

end Telemetry.Config
