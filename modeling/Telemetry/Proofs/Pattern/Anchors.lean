import Telemetry.Proofs.Pattern.Matching
import Telemetry.Proofs.Pattern.Pasting

/-!
Patterns between anchors. The text between them is that of a pattern of its own, unless it closes the
group that is pasted around it or ends in a comment, which hides the end of that group.
-/

namespace Telemetry.Pattern

open Telemetry.Pattern.Parser (Branches Closer Contained Ending Reaches State run run_anchor run_cons
  run_ending run_of_reaches run_stuck skipBlanks skipBlanks_paren step)

variable [Dialect]

/-- Read by itself, the text comes to a closing parenthesis with no group to close. -/
def Overcloses (cs : List Char) : Prop :=
  ∃ s r r', Reaches .start cs s r ∧ skipBlanks s.flags.verbose r = ')' :: r' ∧ s.outer = []

/-- The text is well formed, and with a closing parenthesis behind it means the same: it ends in a
comment. -/
def EndsInComment (cs : List Char) : Prop :=
  ∃ whole, read? cs = some whole ∧ read? (cs ++ [')']) = some whole

variable {cs : List Char}

theorem contained_of_not_overcloses (h : ¬Overcloses cs) : Contained .start cs :=
  fun s r r' reaches here free => h ⟨s, r, r', reaches, here, free⟩

theorem read?_eq_none_of_overcloses (h : Overcloses cs) : read? cs = none := by
  obtain ⟨s, r, r', reaches, here, free⟩ := h
  obtain ⟨n, hn, eq⟩ := run_of_reaches reaches (Nat.lt_succ_self _)
  obtain ⟨n, rfl⟩ : ∃ k, n = k + 1 := ⟨n - 1, by omega⟩
  have stops : s.leave? = none := by rw [State.leave?, free]
  rw [read?, eq, run_cons here]
  simp [step, stops]

/-- The text with an anchor on both sides of it, in a group of its own. -/
def betweenAnchors (cs : List Char) : List Char :=
  '^' :: '(' :: '?' :: ':' :: (cs ++ Closer.anchored.text)

/-- What anchors and a group around a text make of its part. -/
def Part.anchored (p : Part) : Part :=
  ⟨.seq (.look .textStart) (.seq (.group p.pattern) (.look .textEnd)), p.depth + 2, true⟩

/-- The group around a text that stands behind an anchor. -/
def anchorGroup : Flags × Branches := (.default, ⟨[], [⟨.look .textStart, 0, true⟩]⟩)

theorem run_opening (n : Nat) (cs : List Char) :
    run (n + 2) .start ('^' :: '(' :: '?' :: ':' :: cs) =
      run n (State.start.inside [anchorGroup]) cs := rfl

variable {s s' : State} {n : Nat}

/-- The parenthesis closes the group of the anchors, and the last anchor stands behind it. -/
theorem run_closing (h : s.outer = []) (hn : 2 < n) :
    run n (s.inside [anchorGroup]) Closer.anchored.text =
      some ⟨.default, ⟨[], [⟨.look .textEnd, 0, true⟩,
        ⟨.group s.level.whole.pattern, s.level.whole.depth + 1, true⟩,
        ⟨.look .textStart, 0, true⟩]⟩, [], s.names⟩ := by
  obtain ⟨n, rfl⟩ : ∃ k, n = k + 1 := ⟨n - 1, by omega⟩
  obtain ⟨flags, level, outer, names⟩ := s
  cases h
  have here := skipBlanks_paren flags.verbose Closer.anchored.after
  rw [Closer.text, run_cons (s := State.inside ⟨flags, level, [], names⟩ _) here]
  exact run_anchor (by omega) _

/-- The parenthesis closes a group that the text left open, and that of the anchors is still open. -/
theorem outer_of_run_closing (h : s.outer ≠ [])
    (hrun : run n (s.inside [anchorGroup]) Closer.anchored.text = some s') : s'.outer ≠ [] := by
  obtain ⟨flags, level, outer, names⟩ := s
  obtain ⟨⟨f, l⟩, outer, rfl⟩ := List.exists_cons_of_ne_nil h
  cases n with
  | zero => cases hrun
  | succ n =>
    have here := skipBlanks_paren flags.verbose Closer.anchored.after
    rw [Closer.text, run_cons (s := State.inside ⟨flags, level, (f, l) :: outer, names⟩ _) here]
      at hrun
    refine run_stuck (t := .anchored) (.inl List.suffix_rfl) ?_ hrun
    simp

omit [Dialect] in
theorem whole_anchored (p : Part) :
    (Branches.mk [] [⟨.look .textEnd, 0, true⟩, ⟨.group p.pattern, p.depth + 1, true⟩,
      ⟨.look .textStart, 0, true⟩]).whole = p.anchored := by
  simp [Branches.whole, Branches.branch, Part.anchored, Parser.joinDepth, Parser.sequence,
    Parser.alternatives]

theorem run_bare (h : s.outer = []) : run n (s.inside []) Closer.bare.text = none := by
  cases n with
  | zero => rfl
  | succ n =>
    obtain ⟨flags, level, outer, names⟩ := s
    cases h
    have here := skipBlanks_paren flags.verbose Closer.bare.after
    rw [Closer.text, run_cons (s := State.inside ⟨flags, level, [], names⟩ _) here]
    rfl

/-- How many steps are allowed for a text with its closer. -/
def room (cs : List Char) : Closer → Nat
  | .bare => cs.length + 2
  | .anchored => cs.length + 5

theorem ending (h : ¬Overcloses cs) :
    Ending (run (cs.length + 1) .start cs) fun around t =>
      run (room cs t) (State.start.inside around) (cs ++ t.text) := by
  refine run_ending (contained_of_not_overcloses h) ⟨Nat.lt_succ_self _, fun t => ?_⟩
  cases t with
  | bare => simp [room, Closer.text, Closer.after]
  | anchored => simp [room, Closer.text, Closer.after]

theorem read?_betweenAnchors (cs : List Char) :
    read? (betweenAnchors cs) =
      (run (room cs .anchored) (State.start.inside [anchorGroup])
        (cs ++ Closer.anchored.text)).bind fun s => if s.outer = [] then some s.level.whole else none := by
  have size : (betweenAnchors cs).length + 1 = room cs .anchored + 2 := by
    simp [betweenAnchors, room, Closer.text, Closer.after]
  rw [read?, size, betweenAnchors, run_opening]
  rfl

theorem read?_append_paren (cs : List Char) :
    read? (cs ++ [')']) =
      (run (room cs .bare) (State.start.inside []) (cs ++ Closer.bare.text)).bind fun s =>
        if s.outer = [] then some s.level.whole else none := by
  have size : (cs ++ [')']).length + 1 = room cs .bare := by simp [room]
  rw [read?, size]
  rfl

omit [Dialect] in
/-- A run after which a group is open gives no part. -/
theorem wholeIn_eq_none {x : Option State} (h : ∀ s, x = some s → s.outer ≠ []) :
    (x.bind fun s => if s.outer = [] then some s.level.whole else none) = none := by
  cases x with
  | none => rfl
  | some s => exact if_neg (h s rfl)

/-- Between anchors a text has the part that it has by itself, if it does not end in a comment. -/
theorem read?_anchored (h : ¬Overcloses cs) :
    (∃ whole, read? cs = some whole ∧ ¬EndsInComment cs ∧
      read? (betweenAnchors cs) = some whole.anchored) ∨
    ((read? cs = none ∨ EndsInComment cs) ∧ read? (betweenAnchors cs) = none) := by
  have alone : read? cs = (run (cs.length + 1) .start cs).bind fun s =>
      if s.outer = [] then some s.level.whole else none := rfl
  rw [read?_betweenAnchors]
  rcases ending h with ⟨hx, hy⟩ | ⟨hx, hy⟩ | ⟨hx, hy⟩
  · next s =>
    obtain ⟨n, hn, inside⟩ := hy [anchorGroup] .anchored
    rw [hx, Option.bind_some] at alone
    rw [inside]
    by_cases closed : s.outer = []
    · rw [if_pos closed] at alone
      refine .inl ⟨_, alone, ?_, ?_⟩
      · rintro ⟨whole, -, bare⟩
        obtain ⟨m, -, outside⟩ := hy [] .bare
        rw [read?_append_paren, outside, run_bare closed] at bare
        cases bare
      · rw [run_closing closed hn, Option.bind_some, if_pos rfl, whole_anchored]
    · rw [if_neg closed] at alone
      exact .inr ⟨.inl alone, wholeIn_eq_none fun s' => outer_of_run_closing closed⟩
  · next s =>
    rw [hx, Option.bind_some] at alone
    refine .inr ⟨?_, wholeIn_eq_none fun s' hs => ?_⟩
    · by_cases closed : s.outer = []
      · rw [if_pos closed] at alone
        refine .inr ⟨_, alone, ?_⟩
        have outer : (s.inside []).outer = [] := by simp [State.inside, closed]
        rw [read?_append_paren, hy, Option.bind_some, if_pos outer]
        rfl
      · exact .inl (alone.trans (if_neg closed))
    · cases (hy [anchorGroup] .anchored).symm.trans hs
      simp [State.inside]
  · rw [hx] at alone
    refine .inr ⟨.inl alone, wholeIn_eq_none fun s hs => ?_⟩
    exact hy [anchorGroup] .anchored s (List.cons_ne_nil _ _) hs

theorem textStart_holdsAt (text : Array Char) {i : Nat} (hi : i ≤ text.size) :
    Look.textStart.holdsAt text i = true ↔ i = 0 := by
  rw [Look.holdsAt, Look.holdsBetween]
  by_cases zero : i = 0
  · simp [zero]
  · simp [zero]
    omega

theorem textEnd_holdsAt (text : Array Char) {i : Nat} (hi : i ≤ text.size) :
    Look.textEnd.holdsAt text i = true ↔ i = text.size := by
  simp [Look.holdsAt, Look.holdsBetween]
  omega

/-- What matches somewhere with anchors on both sides matches the whole text without them. -/
theorem matchesWithin_anchored (p : Part) (text : String) :
    p.anchored.pattern.MatchesWithin text ↔ p.pattern.MatchesWhole text := by
  constructor
  · rintro ⟨i, j, hi, i', ⟨first, rfl⟩, j', spans, last, rfl⟩
    cases (textStart_holdsAt _ hi).mp first
    have hj := (Spans.bounded (p := p.pattern) hi spans).2
    cases (textEnd_holdsAt _ hj).mp last
    exact spans
  · intro spans
    exact ⟨0, text.toList.length, Nat.zero_le _, 0, ⟨(textStart_holdsAt _ (Nat.zero_le _)).mpr rfl, rfl⟩,
      text.toList.length, spans, (textEnd_holdsAt _ (Nat.le_refl _)).mpr rfl, rfl⟩

end Telemetry.Pattern
