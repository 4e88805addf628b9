import Telemetry.Proofs.Pattern.Reading

/-!
How classes in brackets are read when a closing parenthesis stands behind the text. A class that is
still open takes the parenthesis for one of its characters, and stays open.
-/

namespace Telemetry.Pattern.Parser

theorem reading_splitAt? {sep : Char} (hp : sep ≠ ')') (hd : sep ≠ '$') (cs : List Char) :
    Reading Prod.mk Never cs (splitAt? [sep] cs) fun t => splitAt? [sep] (cs ++ t.text) := by
  induction cs with
  | nil => exact .fails fun t => by cases t <;> simp [Closer.text, Closer.after, splitAt?, hp, hd]
  | cons c cs ih =>
    refine .mono ?_ (List.suffix_cons c cs)
    simp only [List.cons_append, splitAt?, List.isPrefixOf_cons_cons, List.isPrefixOf_nil_left]
    split
    · exact .on List.suffix_rfl fun _ => rfl
    · exact ih.image (c :: ·) (fun _ _ => rfl) Never.elim

/-- Whether a class is negated, what it is, and what follows it. -/
def named (a : Bool × CharClass) (r : List Char) : Bool × CharClass × List Char := (a.1, a.2, r)

/-- What stands behind the second colon of a name. -/
def namedEnd? (negated : Bool) (p : List Char × List Char) :
    Option (Bool × CharClass × List Char) :=
  match p.2 with
  | ']' :: r => (CharClass.asciiNamed? (String.ofList p.1)).map (negated, ·, r)
  | _ => none

theorem reading_namedEnd? (negated : Bool) (cs : List Char) :
    Reading named Never cs (splitAt? [':'] cs >>= namedEnd? negated) fun t =>
      splitAt? [':'] (cs ++ t.text) >>= namedEnd? negated := by
  refine .bind (reading_splitAt? (by decide) (by decide) cs) (fun name r _ => ?_) Never.elim
  cases r with
  | nil => exact .fails fun _ => rfl
  | cons c r =>
    by_cases close : c = ']'
    · subst close
      refine .mono (.givenMap _ fun cls => ?_) (List.suffix_cons _ r)
      exact .on (a := (negated, cls)) List.suffix_rfl fun _ => rfl
    · simp only [namedEnd?, List.cons_append, List.cons.injEq, close, false_and, imp_false,
        not_false_eq_true, implies_true]
      exact .none

theorem reading_namedClass? (cs : List Char) :
    Reading named Never cs (namedClass? cs) fun t => namedClass? (cs ++ t.text) := by
  unfold namedClass?
  cases cs with
  | nil => exact .fails fun _ => rfl
  | cons c cs =>
    by_cases colon : c = ':'
    · subst colon
      refine .mono ?_ (List.suffix_cons _ cs)
      cases cs with
      | nil => exact reading_namedEnd? false []
      | cons d cs =>
        by_cases caret : d = '^'
        · subst caret
          exact (reading_namedEnd? true cs).mono (List.suffix_cons _ cs)
        · simp only [List.cons_append, List.cons.injEq, caret, false_and, imp_false,
            not_false_eq_true, implies_true]
          exact reading_namedEnd? false (d :: cs)
    · simp only [List.cons_append, List.cons.injEq, colon, false_and, imp_false,
        not_false_eq_true, implies_true]
      exact .none

theorem setOp?_single (c : Char) : setOp? [c] = none := by
  unfold setOp?
  split
  · next same => cases same
  · next same => cases same
  · next same => cases same
  · rfl

/-- Set operations are written as one character twice. -/
theorem setOp?_eq_none {c d : Char} (h : c = d → c ≠ '&' ∧ c ≠ '-' ∧ c ≠ '~') (cs : List Char) :
    setOp? (c :: d :: cs) = none := by
  unfold setOp?
  split
  · next same =>
    cases same
    exact absurd rfl (h rfl).1
  · next same =>
    cases same
    exact absurd rfl (h rfl).2.1
  · next same =>
    cases same
    exact absurd rfl (h rfl).2.2
  · rfl

theorem reading_setOp? (c : Char) (cs : List Char) :
    Reading Prod.mk Never cs (setOp? (c :: cs)) fun t => setOp? (c :: (cs ++ t.text)) := by
  cases cs with
  | nil =>
    rw [setOp?_single]
    refine .fails fun t => setOp?_eq_none ?_ _
    rintro rfl
    decide
  | cons d cs =>
    refine .mono ?_ (List.suffix_cons d cs)
    by_cases op : c = d ∧ (c = '&' ∨ c = '-' ∨ c = '~')
    · obtain ⟨rfl, rfl | rfl | rfl⟩ := op
      · exact .on List.suffix_rfl fun _ => rfl
      · exact .on List.suffix_rfl fun _ => rfl
      · exact .on List.suffix_rfl fun _ => rfl
    · have other : c = d → c ≠ '&' ∧ c ≠ '-' ∧ c ≠ '~' := by
        simpa only [not_and, not_or] using op
      simp only [List.cons_append, setOp?_eq_none other]
      exact .none

/-! ### Items -/

@[simp] theorem openItems_nil (verbose : Bool) (n : Nat) (items : List CharClass) :
    openItems verbose n items [] = none := by
  cases n <;> rfl

theorem openItems_closer {verbose : Bool} {n : Nat} (items : List CharClass) (t : Closer) (h : 0 < n) :
    openItems verbose n items t.text = some (items, t.text) := by
  cases n with
  | zero => cases h
  | succ n => simp [Closer.text, openItems]

theorem reading_openItems (verbose : Bool) {n : Nat} {m : Closer → Nat} (items : List CharClass)
    {cs : List Char} (enough : Enough n m cs) :
    Reading Prod.mk Reached cs (openItems verbose n items cs) fun t =>
      openItems verbose (m t) items (cs ++ t.text) := by
  induction n generalizing m items cs with
  | zero => cases enough.alone
  | succ n ih =>
    obtain ⟨m, rfl, onward⟩ := enough.exists_next
    cases cs with
    | nil =>
      refine .cut fun t => ?_
      rw [List.nil_append, openItems_closer items t (Nat.succ_pos _)]
      exact .some List.suffix_rfl
    | cons c cs =>
      simp only [List.cons_append, openItems]
      have sub := skipBlanks_suffix verbose cs
      rcases skipBlanks_append verbose cs with h | ⟨h₀, h⟩
      · simp only [h]
        split
        · refine (ih _ (onward _ ?_)).mono (sub.trans (List.suffix_cons c cs))
          exact Nat.lt_succ_of_le sub.length_le
        · split
          · refine .mono ?_ (sub.trans (List.suffix_cons c cs))
            cases skipBlanks verbose cs with
            | nil => exact .cut fun t => .some List.suffix_rfl
            | cons d cs => exact .on List.suffix_rfl fun _ => rfl
          · exact .on List.suffix_rfl fun _ => rfl
      · simp only [h₀, h, openItems_nil]
        split
        · exact .none
        · split
          · exact .none
          · exact .on List.suffix_rfl fun _ => rfl

theorem reading_openClass (verbose : Bool) (cs : List Char) :
    Reading Prod.mk Reached cs (openClass verbose cs) fun t =>
      openClass verbose (cs ++ t.text) := by
  unfold openClass
  have body (negated : Bool) (cs : List Char) :
      Reading Prod.mk Reached cs
        ((openItems verbose (cs.length + 1) [] cs).map fun p => (⟨negated, none, p.1, 0⟩, p.2))
        fun t => (openItems verbose ((cs ++ t.text).length + 1) [] (cs ++ t.text)).map
          fun p => ((⟨negated, none, p.1, 0⟩ : Level), p.2) := by
    have items := reading_openItems verbose [] (Enough.self cs)
    exact items.image (⟨negated, none, ·, 0⟩) (fun _ _ => rfl) fun _ _ _ => id
  rcases skipBlanks_append verbose cs with h | ⟨h₀, h⟩
  · simp only [h]
    refine .mono ?_ (skipBlanks_suffix verbose cs)
    cases skipBlanks verbose cs with
    | nil => exact body false []
    | cons c cs =>
      by_cases caret : c = '^'
      · subst caret
        refine .mono ?_ (List.suffix_cons _ cs)
        simp only [List.cons_append]
        rcases skipBlanks_append verbose cs with h | ⟨h₀, h⟩
        · simp only [h]
          exact (body true _).mono (skipBlanks_suffix verbose cs)
        · simp only [h₀, h]
          exact .none
      · simp only [List.cons_append, List.cons.injEq, caret, false_and, imp_false,
          not_false_eq_true, implies_true]
        exact body false (c :: cs)
  · simp only [h₀, h]
    exact .none

theorem reading_classItem [Dialect] (f : Flags) (c : Char) (cs : List Char) :
    Reading Prod.mk Used cs (classItem f (c :: cs)) fun t => classItem f (c :: (cs ++ t.text)) := by
  by_cases slash : c = '\\'
  · subst slash
    refine .bind (reading_escape f.verbose cs) (fun e r _ => ?_) fun t e r lost => ?_
    · cases e with
      | literal c _ => exact .givenMap _ fun _ => .on List.suffix_rfl fun _ => rfl
      | look l => exact .none
      | perl letter => exact .givenMap _ fun _ => .on List.suffix_rfl fun _ => rfl
      | property negated cls => exact .givenMap _ fun _ => .on List.suffix_rfl fun _ => rfl
    · rcases lost with used | ⟨⟨l, rfl⟩, -⟩
      · cases e with
        | literal c _ => exact .map (fun i => ⟨i, r, rfl, used⟩) _
        | look l => exact .none
        | perl letter => exact .map (fun a => ⟨Item.cls a, r, rfl, used⟩) _
        | property negated cls => exact .map (fun a => ⟨Item.cls a, r, rfl, used⟩) _
      · exact .none
  · simp only [classItem]
    exact .givenMap _ fun i => .on List.suffix_rfl fun _ => rfl

theorem classItem_closer [Dialect] (f : Flags) (t : Closer) :
    Loses Prod.mk (Used t) (classItem f t.text) := by
  refine .map (fun i => ?_) (classLiteral? f ')')
  exact ⟨i, t.after, rfl, List.suffix_rfl⟩

/-- The range from one item to another, if both are characters. -/
def range? (first : Item) (p : Item × List Char) : Option (CharClass × List Char) :=
  match first, p.1 with
  | .literal a, .literal b => if a ≤ b then some (.range a b, p.2) else none
  | _, _ => none

theorem range?_eq (first last : Item) :
    (∀ r, range? first (last, r) = none) ∨ ∃ a, ∀ r, range? first (last, r) = some (a, r) := by
  match first, last with
  | .literal a, .literal b =>
    by_cases h : a ≤ b
    · exact .inr ⟨.range a b, fun r => if_pos h⟩
    · exact .inl fun r => if_neg h
  | .literal _, .cls _ | .cls _, _ => exact .inl fun _ => rfl

theorem reading_range? (first last : Item) (cs : List Char) :
    Reading Prod.mk Never cs (range? first (last, cs)) fun t =>
      range? first (last, cs ++ t.text) := by
  rcases range?_eq first last with h | ⟨a, h⟩
  · simp only [h]
    exact .none
  · simp only [h]
    exact .on List.suffix_rfl fun _ => rfl

theorem loses_range? {t : Closer} {first last : Item} {r : List Char} (h : Used t last r) :
    Loses Prod.mk (Reached t) (range? first (last, r)) := by
  rcases range?_eq first last with eq | ⟨a, eq⟩
  · exact eq r ▸ .none
  · exact eq r ▸ .some (h.trans (List.suffix_cons _ _))

/-- What a hyphen behind an item leads to: a range, or the item alone. -/
def hyphened? [Dialect] (f : Flags) (first : Item) (cs : List Char) : Option (CharClass × List Char) :=
  match skipBlanks f.verbose cs with
  | [] => none
  | ']' :: _ | '-' :: _ => some (first.toClass, '-' :: cs)
  | upper => classItem f upper >>= range? first

theorem reading_hyphened? [Dialect] (f : Flags) (first : Item) (cs : List Char) :
    Reading Prod.mk Reached ('-' :: cs) (hyphened? f first cs) fun t =>
      hyphened? f first (cs ++ t.text) := by
  unfold hyphened?
  rcases skipBlanks_append f.verbose cs with h | ⟨h₀, h⟩
  · have sub := (skipBlanks_suffix f.verbose cs).trans (List.suffix_cons '-' cs)
    simp only [h]
    generalize skipBlanks f.verbose cs = upper at sub
    cases upper with
    | nil =>
      exact .cut fun t => .bind (classItem_closer f t) fun _ _ used => loses_range? used
    | cons e upper =>
      by_cases stop : e = ']' ∨ e = '-'
      · rcases stop with rfl | rfl
        · exact .on List.suffix_rfl fun _ => rfl
        · exact .on List.suffix_rfl fun _ => rfl
      · rw [not_or] at stop
        simp only [List.cons_append, List.cons.injEq, stop, false_and, imp_false,
          not_false_eq_true, implies_true]
        refine .mono (.bind (reading_classItem f e upper) (fun last rest _ => ?_) ?_)
          ((List.suffix_cons e upper).trans sub)
        · exact (reading_range? first last rest).weaken Never.elim
        · exact fun t last rest used => loses_range? used
  · simp only [h₀, h]
    exact .none

theorem reading_classRange [Dialect] (f : Flags) (c : Char) (cs : List Char) :
    Reading Prod.mk Reached cs (classRange f (c :: cs)) fun t =>
      classRange f (c :: (cs ++ t.text)) := by
  refine .bind (reading_classItem f c cs) (fun first r _ => ?_) fun t first r used => ?_
  · dsimp only
    rcases skipBlanks_append f.verbose r with h | ⟨h₀, h⟩
    · simp only [h]
      refine .mono ?_ (skipBlanks_suffix f.verbose r)
      cases skipBlanks f.verbose r with
      | nil => exact .cut fun t => .some List.suffix_rfl
      | cons d r =>
        by_cases hyphen : d = '-'
        · subst hyphen
          exact reading_hyphened? f first r
        · simp only [List.cons_append, List.cons.injEq, hyphen, false_and, imp_false,
            not_false_eq_true, implies_true]
          exact .on List.suffix_rfl fun _ => rfl
    · simp only [h₀, h]
      exact .none
  · rcases Closer.suffix_after used with rfl | rfl
    · simp only [skipBlanks_nil]
      exact .none
    · simp only [skipBlanks_anchor]
      exact .some (used.trans (List.suffix_cons _ _))

/-! ### Classes -/

section Classes

variable [Dialect] (f : Flags) (level : Level) (outer : List Level)

@[simp] theorem classRest_nil (n : Nat) : classRest f n level outer [] = none := by
  cases n <;> simp [classRest]

theorem classRest_anchor (n : Nat) : classRest f n level outer ['$'] = none := by
  cases n with
  | zero => rfl
  | succ n => simp [classRest, setOp?_single, classRange, classItem, classLiteral?]

/-- What is still open is not closed by a parenthesis. -/
theorem classRest_reached (n : Nat) {t : Closer} {r : List Char} (h : r <:+ t.text) :
    classRest f n level outer r = none := by
  rcases List.suffix_cons_iff.mp h with rfl | used
  · cases n with
    | zero => rfl
    | succ n =>
      have op : setOp? (')' :: t.after) = none := by cases t <;> rfl
      have item : classRange f (')' :: t.after) = none ∨
          classRange f (')' :: t.after) = some (.single ')', ['$']) := by
        cases t <;> simp [Closer.after, classRange, classItem, classLiteral?, Item.toClass]
      rcases item with item | item
      · simp [classRest, op, item]
      · simp [classRest, op, item, classRest_anchor]
  · rcases Closer.suffix_after used with rfl | rfl
    · exact classRest_nil f level outer n
    · exact classRest_anchor f level outer n

/-- A class, its depth and what follows it. -/
def classed (a : CharClass × Nat) (r : List Char) : CharClass × Nat × List Char := (a.1, a.2, r)

/-- Before the rest of a class a parenthesis may be read, but then the class has no end. -/
theorem reading_bind_classRest {α : Type} {n : Nat} {m : Closer → Nat} {cs : List Char}
    {x : Option (α × List Char)} {y : Closer → Option (α × List Char)} (next : α → Level)
    (h : Reading Prod.mk Reached cs x y)
    (onward : ∀ a r, r <:+ cs → Reading classed Never r (classRest f n (next a) outer r) fun t =>
      classRest f (m t) (next a) outer (r ++ t.text)) :
    Reading classed Never cs (x >>= fun p => classRest f n (next p.1) outer p.2) fun t =>
      y t >>= fun p => classRest f (m t) (next p.1) outer p.2 := by
  refine h.bindWith onward (fun a => ?_) fun t a r reached => ?_
  · simp only [classRest_nil]
    exact .none
  · simp only [classRest_reached f _ _ _ reached]
    exact .none

theorem reading_classRest {n : Nat} {m : Closer → Nat} {cs : List Char} (enough : Enough n m cs) :
    Reading classed Never cs (classRest f n level outer cs) fun t =>
      classRest f (m t) level outer (cs ++ t.text) := by
  induction n generalizing m level outer cs with
  | zero => cases enough.alone
  | succ n ih =>
    obtain ⟨m, rfl, next⟩ := enough.exists_next
    have reached : ∀ t : Closer, classRest f (m t + 1) level outer t.text = none := fun t =>
      classRest_reached f level outer _ List.suffix_rfl
    simp only [classRest, skipBlanks_closer] at reached ⊢
    rcases skipBlanks_append f.verbose cs with h | ⟨h₀, h⟩
    · have sub := skipBlanks_suffix f.verbose cs
      simp only [h]
      generalize skipBlanks f.verbose cs = rest at sub
      cases rest with
      | nil => exact .fails reached
      | cons c cs' =>
        refine .mono ?_ sub
        refine .mono ?_ (List.suffix_cons c cs')
        have onward (level : Level) (outer : List Level) (r : List Char) (sub' : r <:+ cs') :=
          ih level outer (next r (Nat.lt_of_le_of_lt sub'.length_le sub.length_le))
        -- Another class, the end of this one, an operation on what was read or one more item.
        by_cases opens : c = '['
        · subst opens
          simp only [List.cons_append]
          rcases (reading_namedClass? cs').resolve with
            ⟨⟨negated, cls⟩, r, sub, hx, hy⟩ | ⟨⟨negated, cls⟩, hx, hy⟩ | ⟨hx, hy⟩
          · simp only [hx, hy, named]
            split
            · exact .none
            · exact (onward _ _ r sub).mono sub
          · simp only [hx, hy, named, classRest_nil, ite_self]
            exact .none
          · simp only [hx, hy]
            exact reading_bind_classRest f _ id (reading_openClass f.verbose cs') fun inner =>
              onward inner (level :: outer)
        · by_cases closes : c = ']'
          · subst closes
            simp only [List.cons_append]
            refine .given _ fun cls => ?_
            cases outer with
            | nil => exact .on (a := cls) List.suffix_rfl fun _ => rfl
            | cons parent outer => exact onward _ outer cs' List.suffix_rfl
          · simp only [List.cons_append, List.cons.injEq, opens, closes, false_and, imp_false,
              not_false_eq_true, implies_true]
            rcases (reading_setOp? c cs').resolve with
              ⟨op, r, sub, hx, hy⟩ | ⟨op, hx, hy⟩ | ⟨hx, hy⟩
            · simp only [hx, hy]
              exact (onward _ outer r sub).mono sub
            · simp only [hx, hy, classRest_nil]
              exact .none
            · simp only [hx, hy]
              exact reading_bind_classRest f outer (level.push · 0) (reading_classRange f c cs')
                fun cls => onward (level.push cls 0) outer
    · simp only [h₀, h]
      exact .none

theorem reading_bracketClass (cs : List Char) :
    Reading classed Never cs (bracketClass f cs) fun t => bracketClass f (cs ++ t.text) := by
  refine .bindWith (reading_openClass f.verbose cs) (fun level r _ => ?_) ?_ ?_
  · refine reading_classRest f level [] ⟨?_, fun t => ?_⟩
    · omega
    · omega
  · intro level
    simp only [classRest_nil]
    exact .none
  · intro t level r reached
    simp only [classRest_reached f _ _ _ reached]
    exact .none

end Classes

end Telemetry.Pattern.Parser
