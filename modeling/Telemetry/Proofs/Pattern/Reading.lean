import Mathlib.Data.List.Infix
import Telemetry.Pattern.Parser

/-!
How the parts of a pattern are read when a closing parenthesis stands behind the text. Either nothing
changes and the parenthesis is left over, or the text ends in a comment, which goes on over it, or the
part had no end and now takes the parenthesis for its own.
-/

namespace Telemetry.Pattern.Parser

/-- What may stand behind a text to close it: a parenthesis, with or without an anchor after it. -/
inductive Closer
  | bare
  | anchored

def Closer.after : Closer → List Char
  | .bare => []
  | .anchored => ['$']

def Closer.text (t : Closer) : List Char := ')' :: t.after

theorem Closer.suffix_after {t : Closer} {r : List Char} (h : r <:+ t.after) : r = [] ∨ r = ['$'] := by
  cases t with
  | bare => exact .inl (List.eq_nil_of_suffix_nil h)
  | anchored =>
    rcases List.suffix_cons_iff.mp h with all | rest
    · exact .inr all
    · exact .inl (List.eq_nil_of_suffix_nil rest)

theorem Closer.exists_succ {k m : Closer → Nat} (h : ∀ t, k t < m t) :
    ∃ m' : Closer → Nat, m = fun t => m' t + 1 :=
  ⟨fun t => m t - 1, funext fun t => (Nat.succ_pred_eq_of_pos (Nat.zero_lt_of_lt (h t))).symm⟩

/-- There are enough steps for a text, and for the text with a closer. -/
structure Enough (n : Nat) (m : Closer → Nat) (cs : List Char) : Prop where
  alone : cs.length < n
  closed : ∀ t : Closer, (cs ++ t.text).length < m t

namespace Enough

variable {n : Nat} {m : Closer → Nat} {cs r : List Char}

theorem self (cs : List Char) : Enough (cs.length + 1) (fun t => (cs ++ t.text).length + 1) cs :=
  ⟨Nat.lt_succ_self _, fun _ => Nat.lt_succ_self _⟩

theorem mono (h : Enough n m cs) (le : r.length ≤ cs.length) : Enough n m r where
  alone := Nat.lt_of_le_of_lt le h.alone
  closed t := by
    have := h.closed t
    rw [List.length_append] at this ⊢
    omega

/-- After one step there are enough for any shorter text. -/
theorem exists_next (h : Enough (n + 1) m cs) :
    ∃ m' : Closer → Nat, m = (fun t => m' t + 1) ∧ ∀ r, r.length < cs.length → Enough n m' r := by
  obtain ⟨m, rfl⟩ := Closer.exists_succ h.closed
  refine ⟨m, rfl, fun r less => ⟨?_, fun t => ?_⟩⟩
  · have := h.alone
    omega
  · have := h.closed t
    rw [List.length_append] at this ⊢
    omega

end Enough

/-- All that is known of what could be read with a closer only. -/
def Loses {α γ : Type} (mk : α → List Char → γ) (Lost : α → List Char → Prop) (x : Option γ) :
    Prop := ∀ c, x = some c → ∃ a r, c = mk a r ∧ Lost a r

/-- The outcome of reading a part of `cs` without and with a closer. -/
inductive Reading {α γ : Type} (mk : α → List Char → γ) (Lost : Closer → α → List Char → Prop)
    (cs : List Char) : Option γ → (Closer → Option γ) → Prop
  | on {a : α} {r : List Char} {y : Closer → Option γ} (sub : r <:+ cs)
      (h : ∀ t, y t = some (mk a (r ++ t.text))) : Reading mk Lost cs (some (mk a r)) y
  | comment {a : α} {y : Closer → Option γ} (h : ∀ t, y t = some (mk a [])) :
      Reading mk Lost cs (some (mk a [])) y
  | cut {y : Closer → Option γ} (h : ∀ t, Loses mk (Lost t) (y t)) : Reading mk Lost cs none y

/-- Nothing can be read with a closer only. -/
def Never {α : Type} (_ : Closer) (_ : α) (_ : List Char) : Prop := False

theorem Never.elim {α : Type} {P : Closer → α → List Char → Prop} (t : Closer) (a : α) (r : List Char)
    (h : Never t a r) : P t a r := False.elim h

/-- The parenthesis was read as a part of something. -/
def Used {α : Type} (t : Closer) (_ : α) (r : List Char) : Prop := r <:+ t.after

/-- Nothing is left before the parenthesis. -/
def Reached {α : Type} (t : Closer) (_ : α) (r : List Char) : Prop := r <:+ t.text

section Rules

variable {α β γ δ : Type} {mk : α → List Char → γ} {mk' : β → List Char → δ}
  {L M : Closer → α → List Char → Prop} {L' : Closer → β → List Char → Prop}
  {K : α → List Char → Prop} {K' : β → List Char → Prop} {cs cs' : List Char} {x : Option γ}
  {y : Closer → Option γ} {a : α} {r : List Char}

theorem Loses.none : Loses mk K none := fun _ h => nomatch h

theorem Loses.some (h : K a r) : Loses mk K (some (mk a r)) := by
  rintro c ⟨⟩
  exact ⟨a, r, rfl, h⟩

theorem Loses.map {ε : Type} {f : ε → γ} (h : ∀ e, ∃ a r, f e = mk a r ∧ K a r) (z : Option ε) :
    Loses mk K (z.map f) := by
  intro c hc
  obtain ⟨e, -, rfl⟩ := Option.map_eq_some_iff.mp hc
  exact h e

theorem Loses.bind {g : γ → Option δ} (h : Loses mk K x)
    (next : ∀ a r, K a r → Loses mk' K' (g (mk a r))) : Loses mk' K' (x >>= g) := by
  intro d hd
  obtain ⟨c, hc, hg⟩ := Option.bind_eq_some_iff.mp hd
  obtain ⟨a, r, rfl, lost⟩ := h c hc
  exact next a r lost d hg

namespace Reading

theorem fails (h : ∀ t, y t = none) : Reading mk L cs none y := .cut fun t => h t ▸ .none

theorem none : Reading mk L cs none fun _ => none := fails fun _ => rfl

theorem mono (h : Reading mk L cs' x y) (sub : cs' <:+ cs) : Reading mk L cs x y := by
  cases h with
  | on inner h => exact .on (inner.trans sub) h
  | comment h => exact .comment h
  | cut h => exact .cut h

theorem weaken (h : Reading mk L cs x y) (weak : ∀ t a r, L t a r → M t a r) : Reading mk M cs x y := by
  cases h with
  | on sub h => exact .on sub h
  | comment h => exact .comment h
  | cut h =>
    refine .cut fun t c hc => ?_
    obtain ⟨a, r, rfl, lost⟩ := h t c hc
    exact ⟨a, r, rfl, weak t a r lost⟩

/-- Once a comment has taken the closer, nothing is left to read. -/
theorem taken (h : Reading mk L [] x y) : Reading mk L cs x fun _ => x := by
  cases h with
  | on sub h =>
    cases List.eq_nil_of_suffix_nil sub
    exact .comment fun _ => rfl
  | comment h => exact .comment fun _ => rfl
  | cut h => exact none

/-- One part after another, where how the second one is read may depend on the closer. -/
theorem bindWith {g : γ → Option δ} {g' : Closer → γ → Option δ} (h : Reading mk L cs x y)
    (next : ∀ a r, r <:+ cs → Reading mk' L' r (g (mk a r)) fun t => g' t (mk a (r ++ t.text)))
    (ended : ∀ a, Reading mk' L' [] (g (mk a [])) fun t => g' t (mk a []))
    (lost : ∀ t a r, L t a r → Loses mk' (L' t) (g' t (mk a r))) :
    Reading mk' L' cs (x >>= g) fun t => y t >>= g' t := by
  cases h with
  | @on a r _ sub h =>
    simp only [h, Option.bind_eq_bind, Option.bind_some]
    exact (next a r sub).mono sub
  | @comment a _ h =>
    simp only [h, Option.bind_eq_bind, Option.bind_some]
    exact (ended a).mono List.nil_suffix
  | cut h => exact .cut fun t => (h t).bind (lost t)

theorem bind {g : γ → Option δ} (h : Reading mk L cs x y)
    (next : ∀ a r, r <:+ cs → Reading mk' L' r (g (mk a r)) fun t => g (mk a (r ++ t.text)))
    (lost : ∀ t a r, L t a r → Loses mk' (L' t) (g (mk a r))) :
    Reading mk' L' cs (x >>= g) fun t => y t >>= g :=
  h.bindWith next (fun a => (next a [] List.nil_suffix).taken) lost

theorem given {ε : Type} (z : Option ε) {g : ε → Option γ} {g' : ε → Closer → Option γ}
    (h : ∀ e, Reading mk L cs (g e) (g' e)) : Reading mk L cs (z >>= g) fun t => z >>= (g' · t) := by
  cases z with
  | none => exact none
  | some e => exact h e

theorem givenMap {ε : Type} (z : Option ε) {g : ε → γ} {g' : ε → Closer → γ}
    (h : ∀ e, Reading mk L cs (some (g e)) fun t => some (g' e t)) :
    Reading mk L cs (z.map g) fun t => z.map (g' · t) := by
  cases z with
  | none => exact none
  | some e => exact h e

theorem image {f : γ → δ} (g : α → β) (hf : ∀ a r, f (mk a r) = mk' (g a) r)
    (lost : ∀ t a r, L t a r → L' t (g a) r) (h : Reading mk L cs x y) :
    Reading mk' L' cs (x.map f) fun t => (y t).map f := by
  cases h with
  | on sub h =>
    simp only [h, Option.map_some, hf]
    exact .on sub fun _ => rfl
  | comment h =>
    simp only [h, Option.map_some, hf]
    exact .comment fun _ => rfl
  | cut h =>
    refine .cut fun t d hd => ?_
    obtain ⟨c, hc, rfl⟩ := Option.map_eq_some_iff.mp hd
    obtain ⟨a, r, rfl, lost'⟩ := h t c hc
    exact ⟨g a, r, hf a r, lost t a r lost'⟩

theorem outcome (h : Reading mk L cs x y) :
    (∃ a r, r <:+ cs ∧ x = some (mk a r) ∧ ∀ t, y t = some (mk a (r ++ t.text))) ∨
      (∃ a, x = some (mk a []) ∧ ∀ t, y t = some (mk a [])) ∨
      (x = .none ∧ ∀ t, Loses mk (L t) (y t)) := by
  cases h with
  | @on a r _ sub h => exact .inl ⟨a, r, sub, rfl, h⟩
  | @comment a _ h => exact .inr (.inl ⟨a, rfl, h⟩)
  | cut h => exact .inr (.inr ⟨rfl, h⟩)

theorem resolve (h : Reading mk Never cs x y) :
    (∃ a r, r <:+ cs ∧ x = some (mk a r) ∧ ∀ t, y t = some (mk a (r ++ t.text))) ∨
      (∃ a, x = some (mk a []) ∧ ∀ t, y t = some (mk a [])) ∨ (x = .none ∧ ∀ t, y t = .none) := by
  refine h.outcome.imp_right (Or.imp_right fun ⟨hx, lost⟩ => ⟨hx, fun t => ?_⟩)
  refine Option.eq_none_iff_forall_ne_some.mpr fun c hc => ?_
  obtain ⟨_, _, _, never⟩ := lost t c hc
  exact never

theorem total {c : γ} {d : Closer → γ} (h : Reading mk Never cs (some c) fun t => some (d t)) :
    (∃ a r, r <:+ cs ∧ c = mk a r ∧ ∀ t, d t = mk a (r ++ t.text)) ∨
      ∃ a, c = mk a [] ∧ ∀ t, d t = mk a [] := by
  rcases h.resolve with ⟨a, r, sub, hx, hy⟩ | ⟨a, hx, hy⟩ | ⟨hx, -⟩
  · exact .inl ⟨a, r, sub, Option.some.inj hx, fun t => Option.some.inj (hy t)⟩
  · exact .inr ⟨a, Option.some.inj hx, fun t => Option.some.inj (hy t)⟩
  · cases hx

end Reading

end Rules

/-! ### Blanks -/

theorem skipBlanks_go_suffix (comment : Bool) (cs : List Char) :
    skipBlanks.go comment cs <:+ cs := by
  induction cs generalizing comment with
  | nil => simp [skipBlanks.go]
  | cons c cs ih =>
    rw [skipBlanks.go]
    split
    · exact (ih _).trans (List.suffix_cons c cs)
    · split
      · exact (ih _).trans (List.suffix_cons c cs)
      · split
        · exact (ih _).trans (List.suffix_cons c cs)
        · exact List.suffix_rfl

theorem skipBlanks_suffix (verbose : Bool) (cs : List Char) : skipBlanks verbose cs <:+ cs := by
  cases verbose with
  | false => exact List.suffix_rfl
  | true => exact skipBlanks_go_suffix false cs

@[simp] theorem skipBlanks_nil (verbose : Bool) : skipBlanks verbose [] = [] :=
  List.eq_nil_of_suffix_nil (skipBlanks_suffix verbose [])

theorem skipBlanks_go_append (comment : Bool) (cs : List Char) :
    (∀ t : Closer, skipBlanks.go comment (cs ++ t.text) = skipBlanks.go comment cs ++ t.text) ∨
      (skipBlanks.go comment cs = [] ∧ ∀ t : Closer, skipBlanks.go comment (cs ++ t.text) = []) := by
  induction cs generalizing comment with
  | nil =>
    cases comment with
    | false => exact .inl fun t => by cases t <;> decide
    | true => exact .inr ⟨rfl, fun t => by cases t <;> decide⟩
  | cons c cs ih =>
    simp only [List.cons_append, skipBlanks.go]
    split
    · exact ih _
    · split
      · exact ih _
      · split
        · exact ih _
        · exact .inl fun _ => rfl

/-- A closer is no blank, but an open comment goes on over it. -/
theorem skipBlanks_append (verbose : Bool) (cs : List Char) :
    (∀ t : Closer, skipBlanks verbose (cs ++ t.text) = skipBlanks verbose cs ++ t.text) ∨
      (skipBlanks verbose cs = [] ∧ ∀ t : Closer, skipBlanks verbose (cs ++ t.text) = []) := by
  cases verbose with
  | false => exact .inl fun _ => rfl
  | true => exact skipBlanks_go_append false cs

theorem skipBlanks_cons {c : Char} (blank : Text.isBlank c = false) (comment : c ≠ '#')
    (verbose : Bool) (cs : List Char) : skipBlanks verbose (c :: cs) = c :: cs := by
  cases verbose with
  | false => rfl
  | true => simp [skipBlanks, skipBlanks.go, blank, comment]

@[simp] theorem skipBlanks_paren (verbose : Bool) (cs : List Char) :
    skipBlanks verbose (')' :: cs) = ')' :: cs :=
  skipBlanks_cons (by decide) (by decide) verbose cs

@[simp] theorem skipBlanks_anchor (verbose : Bool) (cs : List Char) :
    skipBlanks verbose ('$' :: cs) = '$' :: cs :=
  skipBlanks_cons (by decide) (by decide) verbose cs

@[simp] theorem skipBlanks_closer (verbose : Bool) (t : Closer) :
    skipBlanks verbose t.text = t.text := skipBlanks_paren verbose t.after

theorem Reading.skipped {α γ : Type} {mk : α → List Char → γ} {L : Closer → α → List Char → Prop}
    {f : List Char → Option γ} (h : ∀ cs, Reading mk L cs (f cs) fun t => f (cs ++ t.text))
    (verbose : Bool) (cs : List Char) :
    Reading mk L cs (f (skipBlanks verbose cs)) fun t => f (skipBlanks verbose (cs ++ t.text)) := by
  rcases skipBlanks_append verbose cs with on | ⟨none, taken⟩
  · simp only [on]
    exact (h _).mono (skipBlanks_suffix verbose cs)
  · simp only [none, taken]
    exact (h []).taken

/-! ### Escapes -/

theorem reading_fixedHex (verbose : Bool) (n : Nat) (seen cs : List Char) :
    Reading Prod.mk Never cs (fixedHex verbose n seen cs) fun t =>
      fixedHex verbose n seen (cs ++ t.text) := by
  induction n generalizing seen cs with
  | zero => exact .on List.suffix_rfl fun _ => rfl
  | succ n ih =>
    cases cs with
    | nil => exact .fails fun _ => rfl
    | cons c cs =>
      simp only [List.cons_append, fixedHex]
      split
      · rcases skipBlanks_append verbose cs with h | ⟨h₀, h⟩
        · simp only [h]
          exact (ih _ _).mono ((skipBlanks_suffix verbose cs).trans (List.suffix_cons c cs))
        · simp only [h₀, h]
          exact (ih _ []).taken
      · exact .none

@[simp] theorem braced_nil (verbose : Bool) (n : Nat) (seen : List Char) :
    braced verbose n seen [] = none := by
  cases n <;> rfl

theorem braced_closer (verbose : Bool) (n : Nat) (seen : List Char) (t : Closer) :
    braced verbose n seen t.text = none := by
  rcases n with _ | _ | _ | n <;> cases verbose <;> cases t <;> rfl

theorem reading_braced (verbose : Bool) {n : Nat} {m : Closer → Nat} (seen : List Char)
    {cs : List Char} (enough : Enough n m cs) :
    Reading Prod.mk Never cs (braced verbose n seen cs) fun t =>
      braced verbose (m t) seen (cs ++ t.text) := by
  induction n generalizing m seen cs with
  | zero => cases enough.alone
  | succ n ih =>
    obtain ⟨m, rfl, onward⟩ := enough.exists_next
    cases cs with
    | nil => exact .fails fun t => braced_closer verbose _ seen t
    | cons c cs =>
      simp only [List.cons_append, braced]
      split
      · exact .on (List.suffix_cons c cs) fun _ => rfl
      · rcases skipBlanks_append verbose cs with h | ⟨h₀, h⟩
        · have sub := skipBlanks_suffix verbose cs
          simp only [h]
          refine (ih _ (onward _ ?_)).mono (sub.trans (List.suffix_cons c cs))
          exact Nat.lt_succ_of_le sub.length_le
        · simp only [h₀, h, braced_nil]
          exact .none

theorem reading_braced_skipBlanks (verbose : Bool) (cs : List Char) :
    Reading Prod.mk Never cs (braced verbose (cs.length + 1) [] (skipBlanks verbose cs)) fun t =>
      braced verbose ((cs ++ t.text).length + 1) [] (skipBlanks verbose (cs ++ t.text)) := by
  rcases skipBlanks_append verbose cs with h | ⟨h₀, h⟩
  · have sub := skipBlanks_suffix verbose cs
    simp only [h]
    exact (reading_braced verbose [] ((Enough.self cs).mono sub.length_le)).mono sub
  · simp only [h₀, h, braced_nil]
    exact .none

theorem reading_skipBlanks {α : Type} (verbose : Bool) (a : α) (cs : List Char) :
    Reading Prod.mk Never cs (some (a, skipBlanks verbose cs)) fun t =>
      some (a, skipBlanks verbose (cs ++ t.text)) := by
  rcases skipBlanks_append verbose cs with h | ⟨h₀, h⟩
  · simp only [h]
    exact .on (skipBlanks_suffix verbose cs) fun _ => rfl
  · simp only [h₀, h]
    exact .comment fun _ => rfl

theorem reading_hexEscape (verbose : Bool) (digits : Nat) (cs : List Char) :
    Reading Prod.mk Never cs (hexEscape verbose digits cs) fun t =>
      hexEscape verbose digits (cs ++ t.text) := by
  unfold hexEscape
  rcases skipBlanks_append verbose cs with h | ⟨h₀, h⟩
  · simp only [h]
    refine .mono ?_ (skipBlanks_suffix verbose cs)
    cases skipBlanks verbose cs with
    | nil => cases digits <;> exact .fails fun _ => rfl
    | cons c cs =>
      by_cases brace : c = '\x7b'
      · subst brace
        refine .mono ?_ (List.suffix_cons _ cs)
        refine .bind (reading_braced_skipBlanks verbose cs) (fun ds r _ => ?_) Never.elim
        dsimp only
        split
        · exact .given _ fun c => reading_skipBlanks verbose _ r
        · exact .none
      · simp only [List.cons_append, List.cons.injEq, brace, false_and, imp_false,
          not_false_eq_true, implies_true]
        refine .bind (reading_fixedHex verbose digits [] (c :: cs)) (fun ds r _ => ?_) Never.elim
        exact .given _ fun c => .on List.suffix_rfl fun _ => rfl
  · simp only [h₀, h]
    cases digits <;> exact .none

theorem reading_propertyEscape [Dialect] (verbose negated : Bool) (cs : List Char) :
    Reading Prod.mk Used cs (propertyEscape verbose negated cs) fun t =>
      propertyEscape verbose negated (cs ++ t.text) := by
  unfold propertyEscape
  rcases skipBlanks_append verbose cs with h | ⟨h₀, h⟩
  · simp only [h]
    refine .mono ?_ (skipBlanks_suffix verbose cs)
    generalize skipBlanks verbose cs = cs
    split
    · refine .cut ?_
      intro t
      change Loses _ _ ((propertyClass? negated [')']).map (·, skipBlanks verbose t.after))
      refine .map (fun e => ?_) _
      exact ⟨e, _, rfl, skipBlanks_suffix verbose t.after⟩
    · exact .none
    · next r =>
      refine .mono ?_ (List.suffix_cons _ r)
      refine .bind (reading_braced_skipBlanks verbose r) (fun name r _ => ?_) Never.elim
      exact .givenMap _ fun e => .on List.suffix_rfl fun _ => rfl
    · next c r slash brace =>
      simp only [List.cons_append]
      refine .mono ?_ (List.suffix_cons c r)
      exact .givenMap _ fun e => (reading_skipBlanks verbose e r).weaken Never.elim
  · simp only [h₀, h]
    exact .none

/-! ### Runs of characters -/

/-- The characters that satisfy `p`, with blanks between them. -/
def scan (p : Char → Bool) (verbose : Bool) : Nat → List Char → List Char → List Char × List Char
  | 0, seen, cs => (seen.reverse, cs)
  | n + 1, seen, c :: cs =>
    if p c then scan p verbose n (c :: seen) (skipBlanks verbose cs) else (seen.reverse, c :: cs)
  | _ + 1, seen, [] => (seen.reverse, [])

section Scan

variable {p : Char → Bool} (hp : p ')' = false) (verbose : Bool)

@[simp] theorem scan_nil (p : Char → Bool) (n : Nat) (seen : List Char) :
    scan p verbose n seen [] = (seen.reverse, []) := by
  cases n <;> rfl

include hp

theorem scan_closer (n : Nat) (seen : List Char) (t : Closer) :
    scan p verbose n seen t.text = (seen.reverse, t.text) := by
  cases n with
  | zero => rfl
  | succ n => simp [Closer.text, scan, hp]

theorem reading_scan {n : Nat} {m : Closer → Nat} (seen cs : List Char)
    (hn : cs.length ≤ n) (hm : ∀ t : Closer, (cs ++ t.text).length ≤ m t) :
    Reading Prod.mk Never cs (some (scan p verbose n seen cs)) fun t =>
      some (scan p verbose (m t) seen (cs ++ t.text)) := by
  induction n generalizing m seen cs with
  | zero =>
    cases List.eq_nil_of_length_eq_zero (Nat.le_zero.mp hn)
    simp only [List.nil_append, scan_closer hp]
    exact .on List.suffix_rfl fun _ => rfl
  | succ n ih =>
    cases cs with
    | nil =>
      simp only [List.nil_append, scan_closer hp]
      exact .on List.suffix_rfl fun _ => rfl
    | cons c cs =>
      obtain ⟨m, rfl⟩ := Closer.exists_succ hm
      simp only [List.cons_append, List.length_cons, Nat.succ_le_succ_iff] at hn hm
      simp only [List.cons_append, scan]
      split
      · rcases skipBlanks_append verbose cs with h | ⟨h₀, h⟩
        · have sub := skipBlanks_suffix verbose cs
          simp only [h]
          refine (ih _ _ (sub.length_le.trans hn) fun t => ?_).mono
            (sub.trans (List.suffix_cons c cs))
          rw [← h]
          exact (skipBlanks_suffix verbose _).length_le.trans (hm t)
        · simp only [h₀, h, scan_nil]
          exact .comment fun _ => rfl
      · exact .on List.suffix_rfl fun _ => rfl

end Scan

/-! ### Word boundaries -/

theorem boundaryName_eq_scan (verbose : Bool) (n : Nat) (seen cs : List Char) :
    boundaryName verbose n seen cs = scan isBoundaryName verbose n seen cs := by
  induction n generalizing seen cs with
  | zero => rfl
  | succ n ih =>
    cases cs with
    | nil => rfl
    | cons c cs => simp only [boundaryName, scan, ih]

/-- A word boundary is not told from the bounds of a repetition before the first character in its
braces, but these are no bounds either. -/
def Broken (verbose : Bool) (t : Closer) (e : Escape) (r : List Char) : Prop :=
  Used t e r ∨ (∃ l, e = .look l) ∧ ∃ cs, r = '\x7b' :: cs ∧ bounds? verbose cs = none

theorem bounds?_of_closer {verbose : Bool} {cs : List Char} {t : Closer}
    (h : skipBlanks verbose cs = t.text) : bounds? verbose cs = none := by
  rw [bounds?, h]
  cases verbose <;> cases t <;> rfl

/-- The word boundary that a name in braces asks for. -/
def boundaryEnd? (p : List Char × List Char) : Option (Escape × List Char) :=
  match p with
  | (name, '\x7d' :: r) =>
    match String.ofList name with
    | "start" => some (.look .wordStart, r)
    | "end" => some (.look .wordEnd, r)
    | "start-half" => some (.look .wordStartHalf, r)
    | "end-half" => some (.look .wordEndHalf, r)
    | _ => none
  | _ => none

theorem reading_boundaryEnd? (name cs : List Char) :
    Reading Prod.mk Never cs (boundaryEnd? (name, cs)) fun t => boundaryEnd? (name, cs ++ t.text) := by
  cases cs with
  | nil => exact .fails fun _ => rfl
  | cons c cs =>
    refine .mono ?_ (List.suffix_cons c cs)
    by_cases close : c = '\x7d'
    · subst close
      simp only [List.cons_append, boundaryEnd?]
      split
      · exact .on List.suffix_rfl fun _ => rfl
      · exact .on List.suffix_rfl fun _ => rfl
      · exact .on List.suffix_rfl fun _ => rfl
      · exact .on List.suffix_rfl fun _ => rfl
      · exact .none
    · simp only [boundaryEnd?, List.cons_append, Prod.mk.injEq, List.cons.injEq, close, false_and,
        and_false, imp_false, not_false_eq_true, implies_true]
      exact .none

theorem reading_boundaryEscape (verbose : Bool) (cs : List Char) :
    Reading Prod.mk (Broken verbose) cs (boundaryEscape verbose cs) fun t =>
      boundaryEscape verbose (cs ++ t.text) := by
  unfold boundaryEscape
  cases cs with
  | nil => exact .on List.suffix_rfl fun t => by cases t <;> rfl
  | cons c cs =>
    by_cases brace : c = '\x7b'
    · subst brace
      simp only [List.cons_append]
      rcases skipBlanks_append verbose cs with h | ⟨h₀, h⟩
      · have sub := skipBlanks_suffix verbose cs
        have before := h
        simp only [h]
        generalize skipBlanks verbose cs = inner at sub before
        cases inner with
        | nil => exact .cut fun t => .some (.inr ⟨⟨_, rfl⟩, _, rfl, bounds?_of_closer (before t)⟩)
        | cons d inner =>
          simp only [List.cons_append]
          split
          · exact .on List.suffix_rfl fun _ => rfl
          · simp only [boundaryName_eq_scan]
            have name := reading_scan (p := isBoundaryName) rfl verbose [] (d :: inner)
              (Nat.le_refl _) fun t => Nat.le_refl _
            have named := name.bind (fun word r _ => reading_boundaryEnd? word r) Never.elim
            exact (named.weaken Never.elim).mono (sub.trans (List.suffix_cons _ cs))
      · simp only [h₀, h]
        exact .none
    · simp only [List.cons_append, List.cons.injEq, brace, false_and, imp_false,
        not_false_eq_true, implies_true]
      exact .on List.suffix_rfl fun _ => rfl

theorem reading_escape [Dialect] (verbose : Bool) (cs : List Char) :
    Reading Prod.mk (Broken verbose) cs (escape verbose cs) fun t =>
      escape verbose (cs ++ t.text) := by
  cases cs with
  | nil => exact .cut fun t => .some (.inl List.suffix_rfl)
  | cons c cs =>
    refine .mono ?_ (List.suffix_cons c cs)
    simp only [List.cons_append, escape]
    split
    · exact .on List.suffix_rfl fun _ => rfl
    · split
      · exact (reading_hexEscape verbose 2 cs).weaken Never.elim
      · exact (reading_hexEscape verbose 4 cs).weaken Never.elim
      · exact (reading_hexEscape verbose 8 cs).weaken Never.elim
      · exact (reading_propertyEscape verbose false cs).weaken fun _ _ _ => .inl
      · exact (reading_propertyEscape verbose true cs).weaken fun _ _ _ => .inl
      case h_20 => exact reading_boundaryEscape verbose cs
      case h_24 => exact .none
      -- All other letters are read alone.
      all_goals exact .on List.suffix_rfl fun _ => rfl

end Telemetry.Pattern.Parser
