import Telemetry.Proofs.Pattern.Groups

/-!
A pattern that is read inside a group of a longer text. Unless it closes that group or ends in a
comment, it is read there as it is by itself.
-/

namespace Telemetry.Pattern

namespace Parser

variable {around : List (Flags × Branches)} {s s' : State} {c : Char} {cs r r' : List Char}
  {t : Closer} {n : Nat}

/-- The same state with more groups around it. -/
def State.inside (s : State) (around : List (Flags × Branches)) : State :=
  { s with outer := s.outer ++ around }

/-- Steps that lead from one place in a text to another. -/
inductive Reaches [Dialect] : State → List Char → State → List Char → Prop
  | refl (s : State) (cs : List Char) : Reaches s cs s cs
  | step {s s₁ s₂ : State} {c : Char} {cs cs' cs₁ cs₂ : List Char}
      (h : skipBlanks s.flags.verbose cs = c :: cs') (one : step s c cs' = some (s₁, cs₁))
      (rest : Reaches s₁ cs₁ s₂ cs₂) : Reaches s cs s₂ cs₂

/-- No closing parenthesis is reached that has no group to close. -/
def Contained [Dialect] (s : State) (cs : List Char) : Prop :=
  ∀ s' r r', Reaches s cs s' r → skipBlanks s'.flags.verbose r = ')' :: r' → s'.outer ≠ []

/-! ### Groups around a step -/

theorem bind_inside {γ α β : Type} {f : γ → Option α} {g : γ → Option β} {φ : α → β}
    (h : ∀ c, g c = (f c).map φ) (x : Option γ) : x >>= g = (x >>= f).map φ := by
  cases x with
  | none => rfl
  | some c => exact h c

/-- What a step gives, inside more groups. -/
def putInside (around : List (Flags × Branches)) (p : State × List Char) : State × List Char :=
  (p.1.inside around, p.2)

theorem flagged?_inside (s : State) (p : List Char × List Char) :
    (s.inside around).flagged? p = (s.flagged? p).map (putInside around) := by
  unfold State.flagged?
  split
  · rfl
  · rw [apply_ite (Option.map _)]
    rfl
  · rfl

theorem named?_inside [Dialect] (s : State) (cs : List Char) :
    (s.inside around).named? cs = (s.named? cs).map (putInside around) := by
  refine bind_inside (fun p => ?_) (groupName? cs)
  rw [apply_ite (Option.map _)]
  rfl

theorem openGroup_inside [Dialect] (s : State) (cs : List Char) :
    openGroup (s.inside around) cs = (openGroup s cs).map (putInside around) := by
  unfold openGroup
  dsimp only [State.inside]
  split
  · rfl
  · split
    · exact named?_inside s _
    · exact named?_inside s _
    · exact bind_inside (flagged?_inside s) _
    · rfl

theorem leave?_inside (h : s.outer ≠ []) :
    (s.inside around).leave? = s.leave?.map (·.inside around) := by
  obtain ⟨flags, level, outer, names⟩ := s
  cases outer with
  | nil => exact absurd rfl h
  | cons group outer => rfl

theorem repeatLast?_inside (s : State) (least : Nat) (most : Option Nat) :
    (s.inside around).repeatLast? least most =
      (s.repeatLast? least most).map (·.inside around) := by
  unfold State.repeatLast?
  dsimp only [State.inside]
  split
  · rw [apply_ite (Option.map _)]
    rfl
  · rfl

theorem pushEscape?_inside (s : State) (e : Escape) :
    pushEscape? (s.inside around) e = (pushEscape? s e).map (·.inside around) := by
  cases e with
  | literal c byte =>
    simp only [pushEscape?, apply_ite (Option.map _)]
    rfl
  | look l => rfl
  | perl letter =>
    simp only [pushEscape?, Option.map_map]
    rfl
  | property negated cls =>
    simp only [pushEscape?, Option.map_map]
    rfl

/-- A step that does not close a group of the surroundings does not see them. -/
theorem step_inside [Dialect] (h : c = ')' → s.outer ≠ []) (cs : List Char) :
    step (s.inside around) c cs = (step s c cs).map (putInside around) := by
  unfold step
  split
  · exact openGroup_inside s cs
  · rw [leave?_inside (h rfl), Option.map_map, Option.map_map]
    rfl
  · rfl
  · refine bind_inside (fun ⟨cls, depth, r⟩ => ?_) (bracketClass s.flags cs)
    rfl
  · rw [repeatLast?_inside, Option.map_map, Option.map_map]
    rfl
  · rw [repeatLast?_inside, Option.map_map, Option.map_map]
    rfl
  · rw [repeatLast?_inside, Option.map_map, Option.map_map]
    rfl
  · refine bind_inside (fun ⟨least, most, r⟩ => ?_) (bounds? s.flags.verbose cs)
    dsimp only
    rw [repeatLast?_inside, Option.map_map, Option.map_map]
    rfl
  · refine bind_inside (fun ⟨e, r⟩ => ?_) (escape s.flags.verbose cs)
    dsimp only
    rw [pushEscape?_inside, Option.map_map, Option.map_map]
    rfl
  · rw [apply_ite (Option.map _)]
    rfl
  · rfl
  · rfl
  · rfl

/-! ### Runs -/

section Runs

variable [Dialect]

theorem run_nil (h : 0 < n) (s : State) : run n s [] = some s := by
  cases n with
  | zero => cases h
  | succ n => simp [run]

theorem run_anchor (h : 1 < n) (s : State) :
    run n s ['$'] = some (s.push (.look (dollarLook s.flags)) 0) := by
  rcases n with _ | _ | n
  · cases h
  · exact absurd h (Nat.lt_irrefl 1)
  · simp [run, step]

theorem run_stuck (h : Stuck t s r) (ho : s.outer ≠ []) (hrun : run n s r = some s') :
    s'.outer ≠ [] := by
  rcases h with used | ⟨cs, rfl, none⟩
  · rcases Closer.suffix_after used with rfl | rfl
    · cases n with
      | zero => cases hrun
      | succ n =>
        rw [run_nil (Nat.succ_pos n)] at hrun
        cases hrun
        exact ho
    · rcases n with _ | _ | n
      · cases hrun
      · simp [run, step] at hrun
      · rw [run_anchor (by omega)] at hrun
        cases hrun
        exact ho
  · cases n with
    | zero => cases hrun
    | succ n =>
      rw [run, skipBlanks_cons (by decide) (by decide)] at hrun
      simp [step, none] at hrun

theorem run_cons (here : skipBlanks s.flags.verbose cs = c :: r) (n : Nat) :
    run (n + 1) s cs = (step s c r).bind fun p => run n p.1 p.2 := by
  rw [run, here]
  rfl

/-- How a run ends that has more groups around it and a closer behind it: before the closer, in a
comment that takes it, or with one of these groups still open. -/
inductive Ending (x : Option State) (y : List (Flags × Branches) → Closer → Option State) : Prop
  | on {s : State} (hx : x = some s)
      (h : ∀ around t, ∃ n, t.text.length < n ∧ y around t = run n (s.inside around) t.text)
  | comment {s : State} (hx : x = some s) (h : ∀ around t, y around t = some (s.inside around))
  | cut (hx : x = none) (h : ∀ around t s, around ≠ [] → y around t = some s → s.outer ≠ [])

theorem Contained.next {s₁ : State} {cs₁ : List Char} (h : Contained s cs)
    (here : skipBlanks s.flags.verbose cs = c :: r) (one : step s c r = some (s₁, cs₁)) :
    Contained s₁ cs₁ :=
  fun s' r r' reaches => h s' r r' (.step here one reaches)

/-- A step with more groups around it and a closer behind the text, which is not reached. -/
theorem run_cons_inside (here : skipBlanks s.flags.verbose (cs ++ t.text) = c :: (r ++ t.text))
    (closing : c = ')' → s.outer ≠ []) (n : Nat) :
    run (n + 1) (s.inside around) (cs ++ t.text) =
      (step s c (r ++ t.text)).bind fun p => run n (p.1.inside around) p.2 := by
  have there : skipBlanks (s.inside around).flags.verbose (cs ++ t.text) = c :: (r ++ t.text) := here
  rw [run_cons there, step_inside closing, Option.bind_map]
  rfl

theorem run_blank (here : skipBlanks s.flags.verbose cs = []) (n : Nat) :
    run (n + 1) s cs = some s := by
  rw [run, here]

/-- Each step is the same inside and outside, until nothing is left before the closer. -/
theorem run_ending {n : Nat} {m : Closer → Nat} (contained : Contained s cs) (enough : Enough n m cs) :
    Ending (run n s cs) fun around t => run (m t) (s.inside around) (cs ++ t.text) := by
  induction n generalizing m s cs with
  | zero => cases enough.alone
  | succ n ih =>
    obtain ⟨m, rfl, onward⟩ := enough.exists_next
    have flags (around : List (Flags × Branches)) : (s.inside around).flags = s.flags := rfl
    rcases skipBlanks_append s.flags.verbose cs with h | ⟨h₀, h⟩
    · cases here : skipBlanks s.flags.verbose cs with
      | nil =>
        refine .on (run_blank here n) fun around t => ⟨m t + 1, ?_, ?_⟩
        · exact Nat.lt_of_le_of_lt (List.suffix_append cs t.text).length_le (enough.closed t)
        · rw [run, run, flags, h, here, skipBlanks_closer]
          rfl
      | cons c r =>
        have less : r.length < cs.length := by
          have sub := skipBlanks_suffix s.flags.verbose cs
          rw [here] at sub
          exact sub.length_le
        have closing : c = ')' → s.outer ≠ [] := by
          rintro rfl
          exact contained s cs r (.refl s cs) here
        have inner (around : List (Flags × Branches)) (t : Closer) :
            run (m t + 1) (s.inside around) (cs ++ t.text) =
              (step s c (r ++ t.text)).bind fun p => run (m t) (p.1.inside around) p.2 :=
          run_cons_inside (by rw [h, here]; rfl) closing (m t)
        simp only [inner, run_cons here]
        -- The step ends before the closer, in a comment that takes it, or not at all without it.
        rcases (reading_step s c r).outcome with
          ⟨s₁, r₁, sub₁, hx, hy⟩ | ⟨s₁, hx, hy⟩ | ⟨hx, lost⟩
        · simp only [hx, hy, Option.bind_some]
          exact ih (contained.next here hx) (onward r₁ (Nat.lt_of_le_of_lt sub₁.length_le less))
        · have last := onward [] (Nat.zero_lt_of_lt less)
          simp only [hx, hy, Option.bind_some]
          refine .comment (run_nil last.alone s₁) fun _ t => ?_
          exact run_nil (Nat.zero_lt_of_lt (last.closed t)) _
        · refine .cut (by rw [hx]; rfl) fun around t s₂ inside hy => ?_
          obtain ⟨p, hp, hrun⟩ := Option.bind_eq_some_iff.mp hy
          obtain ⟨s₁, r₁, rfl, stuck⟩ := lost t p hp
          exact run_stuck (s := s₁.inside around) stuck (by simp [State.inside, inside]) hrun
    · refine .comment (run_blank h₀ n) fun around t => ?_
      exact run_blank (s := s.inside around) (h t) (m t)

theorem run_of_reaches {s₁ : State} {cs₁ : List Char} (h : Reaches s cs s₁ cs₁)
    (hn : cs.length < n) : ∃ m, cs₁.length < m ∧ run n s cs = run m s₁ cs₁ := by
  induction h generalizing n with
  | refl s cs => exact ⟨n, hn, rfl⟩
  | @step s s₁ s₂ c cs r cs₁ cs₂ here one _ ih =>
    obtain ⟨n, rfl⟩ : ∃ k, n = k + 1 := ⟨n - 1, by omega⟩
    have sub := skipBlanks_suffix s.flags.verbose cs
    rw [here] at sub
    have size := sub.length_le
    have shorter : cs₁.length ≤ r.length := by
      rcases (reading_step s c r).outcome with ⟨s', r', sub', hx, -⟩ | ⟨s', hx, -⟩ | ⟨hx, -⟩
      · cases hx.symm.trans one
        exact sub'.length_le
      · cases hx.symm.trans one
        exact Nat.zero_le _
      · cases hx.symm.trans one
    rw [List.length_cons] at size
    obtain ⟨m, hm, eq⟩ := ih (n := n) (by omega)
    refine ⟨m, hm, ?_⟩
    rw [run_cons here, one]
    exact eq

end Runs

end Parser

end Telemetry.Pattern
