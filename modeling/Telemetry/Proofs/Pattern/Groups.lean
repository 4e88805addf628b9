import Telemetry.Proofs.Pattern.Brackets

/-!
How groups, flags and repetitions are read when a closing parenthesis stands behind the text, and with
them all steps of the machine.
-/

namespace Telemetry.Pattern.Parser

/-! ### Groups -/

theorem reading_flagLetters (seen cs : List Char) :
    Reading Prod.mk Reached cs (flagLetters seen cs) fun t => flagLetters seen (cs ++ t.text) := by
  induction cs generalizing seen with
  | nil =>
    refine .cut fun t => ?_
    change Loses _ _ (if seen.head? = some '-' then none else some (seen.reverse, t.text))
    split
    · exact .none
    · exact .some List.suffix_rfl
  | cons c cs ih =>
    simp only [List.cons_append, flagLetters]
    split
    · split
      · exact .none
      · exact .on List.suffix_rfl fun _ => rfl
    · split
      · exact .none
      · split
        · exact (ih _).mono (List.suffix_cons c cs)
        · exact .none

theorem reading_groupName? [Dialect] (cs : List Char) :
    Reading Prod.mk Never cs (groupName? cs) fun t => groupName? (cs ++ t.text) := by
  refine .bind (reading_splitAt? (by decide) (by decide) cs) (fun name r _ => ?_) Never.elim
  cases name with
  | nil => exact .none
  | cons c rest =>
    dsimp only
    split
    · exact .on List.suffix_rfl fun _ => rfl
    · exact .none

theorem isPrefixOf_append {p : List Char} (h : ')' ∉ p) (cs : List Char) (t : Closer) :
    p.isPrefixOf (cs ++ t.text) = p.isPrefixOf cs := by
  induction p generalizing cs with
  | nil => simp
  | cons a p ih =>
    rw [List.mem_cons, not_or] at h
    cases cs with
    | nil => simp [Closer.text, List.isPrefixOf, Ne.symm h.1]
    | cons c cs => simp [List.isPrefixOf, ih h.2]

theorem startsLookaround_append (cs : List Char) (t : Closer) :
    startsLookaround (cs ++ t.text) = startsLookaround cs := by
  simp [startsLookaround, isPrefixOf_append]

/-- Where the name of a group leads. -/
def State.named? [Dialect] (s : State) (cs : List Char) : Option (State × List Char) :=
  groupName? cs >>= fun p => if s.names.contains p.1 then none
    else some ({ s.enter s.flags with names := p.1 :: s.names }, p.2)

theorem reading_named? [Dialect] (s : State) (cs : List Char) :
    Reading Prod.mk Never cs (s.named? cs) fun t => s.named? (cs ++ t.text) := by
  refine .bind (reading_groupName? cs) (fun name r _ => ?_) Never.elim
  dsimp only
  split
  · exact .none
  · exact .on List.suffix_rfl fun _ => rfl

/-- Where letters of flags lead: into a new group, or on in the same one. -/
def State.flagged? (s : State) : List Char × List Char → Option (State × List Char)
  | (letters, ':' :: r) => some (s.enter (applyFlags s.flags letters), r)
  | (letters, _ :: r) =>
    if letters = [] then none
    else some ({ s with flags := applyFlags s.flags letters, level := s.level.push Part.empty }, r)
  | (_, []) => none

theorem loses_flagged? (s : State) {t : Closer} {letters r : List Char}
    (h : Reached t letters r) : Loses Prod.mk (Used t) (s.flagged? (letters, r)) := by
  have onward (c : Char) (r : List Char) (hc : c ≠ ':') (used : r <:+ t.after) :
      Loses Prod.mk (Used t) (s.flagged? (letters, c :: r)) := by
    simp only [State.flagged?]
    split
    · exact .none
    · exact .some used
  rcases List.suffix_cons_iff.mp h with rfl | used
  · exact onward ')' t.after (by decide) List.suffix_rfl
  · rcases Closer.suffix_after used with rfl | rfl
    · exact .none
    · exact onward '$' [] (by decide) List.nil_suffix

theorem reading_flagged? (s : State) (cs : List Char) :
    Reading Prod.mk Used cs (flagLetters [] cs >>= s.flagged?) fun t =>
      flagLetters [] (cs ++ t.text) >>= s.flagged? := by
  refine .bind (reading_flagLetters [] cs) (fun letters r _ => ?_) fun t letters r reached => ?_
  · cases r with
    | nil => exact .cut fun t => loses_flagged? s List.suffix_rfl
    | cons c r =>
      refine .mono ?_ (List.suffix_cons c r)
      by_cases colon : c = ':'
      · subst colon
        exact .on List.suffix_rfl fun _ => rfl
      · simp only [List.cons_append, State.flagged?]
        split
        · exact .none
        · exact .on List.suffix_rfl fun _ => rfl
  · exact loses_flagged? s reached

theorem reading_openGroup [Dialect] (s : State) (cs : List Char) :
    Reading Prod.mk Used cs (openGroup s cs) fun t => openGroup s (cs ++ t.text) := by
  simp only [openGroup]
  rcases skipBlanks_append s.flags.verbose cs with h | ⟨h₀, h⟩
  · simp only [h, startsLookaround_append]
    refine .mono ?_ (skipBlanks_suffix s.flags.verbose cs)
    generalize skipBlanks s.flags.verbose cs = cs
    split
    · exact .none
    · cases cs with
      | nil => exact .on List.suffix_rfl fun _ => rfl
      | cons c cs =>
        by_cases mark : c = '?'
        · subst mark
          refine .mono ?_ (List.suffix_cons _ cs)
          cases cs with
          | nil => exact reading_flagged? s []
          | cons d cs =>
            -- A name is written in two ways. All else are flags.
            by_cases angle : d = '<'
            · subst angle
              exact ((reading_named? s cs).weaken Never.elim).mono (List.suffix_cons _ cs)
            · by_cases letter : d = 'P'
              · subst letter
                cases cs with
                | nil => exact reading_flagged? s ['P']
                | cons e cs =>
                  by_cases angle : e = '<'
                  · subst angle
                    exact ((reading_named? s cs).weaken Never.elim).mono ⟨['P', '<'], rfl⟩
                  · simp only [List.cons_append, List.cons.injEq, angle, Char.reduceEq, false_and,
                      and_false, imp_false, not_false_eq_true, implies_true]
                    exact reading_flagged? s ('P' :: e :: cs)
              · simp only [List.cons_append, List.cons.injEq, angle, letter, false_and, imp_false,
                  not_false_eq_true, implies_true]
                exact reading_flagged? s (d :: cs)
        · simp only [List.cons_append, List.cons.injEq, mark, false_and, imp_false,
            not_false_eq_true, implies_true]
          exact .on List.suffix_rfl fun _ => rfl
  · simp only [h₀, h]
    exact .comment fun _ => rfl

/-! ### Repetitions -/

@[simp] theorem dropQuestion_append (cs : List Char) (t : Closer) :
    dropQuestion (cs ++ t.text) = dropQuestion cs ++ t.text := by
  cases cs with
  | nil => rfl
  | cons c cs =>
    by_cases mark : c = '?'
    · subst mark
      rfl
    · simp only [List.cons_append, dropQuestion, List.cons.injEq, mark, false_and, imp_false,
        not_false_eq_true, implies_true]

theorem dropQuestion_suffix (cs : List Char) : dropQuestion cs <:+ cs := by
  unfold dropQuestion
  split
  · exact List.suffix_cons _ _
  · exact List.suffix_rfl

/-- A decimal digit, as in the bounds of a repetition. -/
def isDigit (c : Char) : Bool := '0' ≤ c ∧ c ≤ '9'

theorem decimal?_go_eq_scan (verbose : Bool) (n : Nat) (seen cs : List Char) :
    decimal?.go verbose n seen cs = scan isDigit verbose n seen cs := by
  induction n generalizing seen cs with
  | zero => rfl
  | succ n ih =>
    cases cs with
    | nil => rfl
    | cons c cs => simp only [decimal?.go, scan, isDigit, decide_eq_true_eq, ih]

theorem decimal?_skipAll_eq_scan (verbose : Bool) (n : Nat) (seen cs : List Char) :
    decimal?.skipAll verbose n cs = (scan Text.isBlank verbose n seen cs).2 := by
  induction n generalizing seen cs with
  | zero => rfl
  | succ n ih =>
    cases cs with
    | nil => rfl
    | cons c cs =>
      simp only [decimal?.skipAll, scan]
      split
      · exact ih _ _
      · rfl

theorem reading_skipAll {α : Type} (verbose : Bool) (a : α) (cs : List Char) :
    Reading Prod.mk Never cs (some (a, decimal?.skipAll verbose (cs.length + 1) cs)) fun t =>
      some (a, decimal?.skipAll verbose ((cs ++ t.text).length + 1) (cs ++ t.text)) := by
  simp only [decimal?_skipAll_eq_scan verbose _ []]
  have blanks := reading_scan (p := Text.isBlank) (by decide) verbose [] cs
    (Nat.le_succ _) fun t => Nat.le_succ _
  exact blanks.image (f := fun p => (a, p.2)) (fun _ => a) (fun _ _ => rfl) Never.elim

theorem dropWhile_isBlank_append (cs : List Char) (t : Closer) :
    (cs ++ t.text).dropWhile Text.isBlank = cs.dropWhile Text.isBlank ++ t.text := by
  rw [List.dropWhile_append]
  split
  · next none =>
    rw [List.isEmpty_iff.mp none]
    rfl
  · rfl

theorem reading_decimal? (verbose : Bool) (cs : List Char) :
    Reading Prod.mk Never cs (decimal? verbose cs) fun t => decimal? verbose (cs ++ t.text) := by
  simp only [decimal?, decimal?_go_eq_scan, dropWhile_isBlank_append]
  refine .mono ?_ (List.dropWhile_suffix Text.isBlank)
  generalize cs.dropWhile Text.isBlank = cs
  have number := reading_scan (p := isDigit) (by decide) verbose [] cs (Nat.le_succ _)
    fun t => Nat.le_succ _
  rcases number.total with ⟨digits, r, sub, hx, hy⟩ | ⟨digits, hx, hy⟩
  · simp only [hx, hy]
    refine .mono ?_ sub
    split
    · exact .none
    · exact reading_skipAll verbose _ r
  · simp only [hx, hy]
    split
    · exact .none
    · exact .comment fun _ => rfl

theorem decimal?_closer (verbose : Bool) (t : Closer) : decimal? verbose t.text = none := by
  have here : t.text.dropWhile Text.isBlank = t.text := dropWhile_isBlank_append [] t
  simp only [decimal?, decimal?_go_eq_scan, here, scan_closer (p := isDigit) (by decide)]
  rfl

/-- The upper bound of a repetition, and what follows it. -/
def most? (verbose : Bool) (least : Nat) (cs : List Char) : Option (Option Nat × List Char) :=
  match cs with
  | ',' :: r =>
    match skipBlanks verbose r with
    | [] => none
    | '\x7d' :: r => some (none, '\x7d' :: r)
    | r => (decimal? verbose r).map fun (n, r) => (some n, r)
  | r => some (some least, r)

theorem reading_most? (verbose : Bool) (least : Nat) (cs : List Char) :
    Reading Prod.mk Never cs (most? verbose least cs) fun t =>
      most? verbose least (cs ++ t.text) := by
  cases cs with
  | nil => exact .on List.suffix_rfl fun _ => rfl
  | cons c cs =>
    by_cases comma : c = ','
    · subst comma
      refine .mono ?_ (List.suffix_cons _ cs)
      simp only [List.cons_append, most?]
      rcases skipBlanks_append verbose cs with h | ⟨h₀, h⟩
      · simp only [h]
        refine .mono ?_ (skipBlanks_suffix verbose cs)
        cases skipBlanks verbose cs with
        | nil =>
          refine .fails fun t => ?_
          change (decimal? verbose t.text).map _ = none
          rw [decimal?_closer]
          rfl
        | cons d cs =>
          by_cases close : d = '\x7d'
          · subst close
            exact .on List.suffix_rfl fun _ => rfl
          · simp only [List.cons_append, List.cons.injEq, close, false_and, imp_false,
              not_false_eq_true, implies_true]
            exact .image (f := fun p => (some p.1, p.2)) some (fun _ _ => rfl) Never.elim
              (reading_decimal? verbose (d :: cs))
      · simp only [h₀, h]
        exact .none
    · simp only [most?, List.cons_append, List.cons.injEq, comma, false_and, imp_false,
        not_false_eq_true, implies_true]
      exact .on List.suffix_rfl fun _ => rfl

/-- The closing brace behind both bounds. -/
def boundsEnd? (verbose : Bool) (least : Nat) (p : Option Nat × List Char) :
    Option (Nat × Option Nat × List Char) :=
  match p.2 with
  | '\x7d' :: r =>
    if p.1.all (least ≤ ·) then some (least, p.1, dropQuestion (skipBlanks verbose r)) else none
  | _ => none

theorem bounds?_eq (verbose : Bool) (cs : List Char) :
    bounds? verbose cs = decimal? verbose (skipBlanks verbose cs) >>= fun p =>
      most? verbose p.1 p.2 >>= boundsEnd? verbose p.1 := by
  unfold bounds?
  refine congrArg (decimal? verbose (skipBlanks verbose cs) >>= ·) (funext fun ⟨least, r⟩ => ?_)
  cases r with
  | nil => rfl
  | cons c r =>
    by_cases comma : c = ','
    · subst comma
      simp only [most?]
      generalize skipBlanks verbose r = u
      cases u with
      | nil => rfl
      | cons d u =>
        by_cases close : d = '\x7d'
        · subst close
          rfl
        · simp only [List.cons.injEq, close, false_and, imp_false,
            not_false_eq_true, implies_true]
          rfl
    · simp only [most?, List.cons.injEq, comma, false_and, imp_false, not_false_eq_true,
        implies_true]
      rfl

/-- The bounds of a repetition, and what follows them. -/
def bounded (a : Nat × Option Nat) (r : List Char) : Nat × Option Nat × List Char := (a.1, a.2, r)

theorem reading_boundsEnd? (verbose : Bool) (least : Nat) (most : Option Nat) (cs : List Char) :
    Reading bounded Never cs (boundsEnd? verbose least (most, cs)) fun t =>
      boundsEnd? verbose least (most, cs ++ t.text) := by
  cases cs with
  | nil => exact .fails fun _ => rfl
  | cons c cs =>
    by_cases close : c = '\x7d'
    · subst close
      refine .mono ?_ (List.suffix_cons _ cs)
      simp only [List.cons_append, boundsEnd?]
      split
      · rcases skipBlanks_append verbose cs with h | ⟨h₀, h⟩
        · simp only [h, dropQuestion_append]
          refine .on (a := (least, most)) ?_ fun _ => rfl
          exact (dropQuestion_suffix _).trans (skipBlanks_suffix verbose cs)
        · simp only [h₀, h]
          exact .comment (a := (least, most)) fun _ => rfl
      · exact .none
    · simp only [boundsEnd?, List.cons_append, List.cons.injEq, close, false_and, imp_false,
        not_false_eq_true, implies_true]
      exact .none

theorem reading_bounds? (verbose : Bool) (cs : List Char) :
    Reading bounded Never cs (bounds? verbose cs) fun t => bounds? verbose (cs ++ t.text) := by
  simp only [bounds?_eq]
  refine .bind (.skipped (reading_decimal? verbose) verbose cs) (fun least r _ => ?_) Never.elim
  refine .bind (reading_most? verbose least r) (fun most r _ => ?_) Never.elim
  exact reading_boundsEnd? verbose least most r

/-! ### Steps -/

/-- The parenthesis was read as a part of something, or a repetition follows that has no bounds. -/
def Stuck (t : Closer) (s : State) (r : List Char) : Prop :=
  Used t s r ∨ ∃ cs, r = '\x7b' :: cs ∧ bounds? s.flags.verbose cs = none

theorem loses_pushEscape? {s : State} {t : Closer} {e : Escape} {r : List Char}
    (h : Broken s.flags.verbose t e r) :
    Loses Prod.mk (Stuck t) ((pushEscape? s e).map (·, r)) := by
  rcases h with used | ⟨⟨l, rfl⟩, bounds⟩
  · exact .map (fun s => ⟨s, r, rfl, .inl used⟩) _
  · exact .some (.inr bounds)

theorem reading_repeatLast? (s : State) (least : Nat) (most : Option Nat) (cs : List Char) :
    Reading Prod.mk Stuck cs ((s.repeatLast? least most).map (·, dropQuestion cs)) fun t =>
      (s.repeatLast? least most).map (·, dropQuestion (cs ++ t.text)) := by
  simp only [dropQuestion_append]
  exact .givenMap _ fun s => .on (dropQuestion_suffix cs) fun _ => rfl

/-- What a step reads, it reads in the same way with a closer behind the text, unless the step has no
end or a comment takes the closer. -/
theorem reading_step [Dialect] (s : State) (c : Char) (cs : List Char) :
    Reading Prod.mk Stuck cs (step s c cs) fun t => step s c (cs ++ t.text) := by
  unfold step
  split
  · exact (reading_openGroup s cs).weaken fun _ _ _ => .inl
  · exact .givenMap _ fun s => .on List.suffix_rfl fun _ => rfl
  · exact .on List.suffix_rfl fun _ => rfl
  · refine .bind (reading_bracketClass s.flags cs) (fun cls r _ => ?_) Never.elim
    exact .on List.suffix_rfl fun _ => rfl
  · exact reading_repeatLast? s 0 (some 1) cs
  · exact reading_repeatLast? s 0 none cs
  · exact reading_repeatLast? s 1 none cs
  · refine .bind (reading_bounds? s.flags.verbose cs) (fun bounds r _ => ?_) Never.elim
    exact .givenMap _ fun s => .on List.suffix_rfl fun _ => rfl
  · refine .bind (reading_escape s.flags.verbose cs) (fun e r _ => ?_) fun t e r => loses_pushEscape?
    exact .givenMap _ fun s => .on List.suffix_rfl fun _ => rfl
  · split
    · exact .on List.suffix_rfl fun _ => rfl
    · exact .none
  · exact .on List.suffix_rfl fun _ => rfl
  · exact .on List.suffix_rfl fun _ => rfl
  · exact .on List.suffix_rfl fun _ => rfl

end Telemetry.Pattern.Parser
