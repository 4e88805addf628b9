import Mathlib.Algebra.Order.Field.Power
import Mathlib.Data.List.TakeWhile
import Mathlib.Data.Rat.Defs
import Mathlib.Tactic.FieldSimp
import Mathlib.Tactic.Positivity
import Mathlib.Tactic.Ring
import Telemetry.Number.Numeral

/-!
The grammar of decimal numerals. What is read is exactly what the grammar has, and the digits and
the exponent that are read make up the number that is written.
-/

namespace Telemetry

/-! ### Grammar -/

namespace Decimal

inductive Sign
  | absent
  | plus
  | minus

structure Exponent where
  capital : Bool
  sign : Sign
  digits : List (Fin 10)
  nonempty : digits ≠ []

end Decimal

/-- A decimal numeral as it is written. There is a fraction wherever there is a point. -/
structure Decimal where
  sign : Decimal.Sign
  whole : List (Fin 10)
  fraction : Option (List (Fin 10))
  exponent : Option Decimal.Exponent
  nonempty : whole = [] → fraction.getD [] ≠ []

namespace Decimal

def digit (d : Fin 10) : Char := Char.ofNat (0x30 + d)

namespace Sign

def chars : Sign → List Char
  | absent => []
  | plus => ['+']
  | minus => ['-']

def negative : Sign → Bool
  | minus => true
  | _ => false

end Sign

def Exponent.chars (e : Exponent) : List Char :=
  (if e.capital then 'E' else 'e') :: (e.sign.chars ++ e.digits.map digit)

/-- What stands behind the sign. -/
def body (d : Decimal) : List Char :=
  d.whole.map digit ++ (d.fraction.elim [] (fun ds => '.' :: ds.map digit) ++
    d.exponent.elim [] Exponent.chars)

def chars (d : Decimal) : List Char := d.sign.chars ++ d.body

/-! ### Values -/

/-- Digits as one whole number. -/
def number (ds : List (Fin 10)) : ℕ := ds.foldl (fun n d => 10 * n + d.val) 0

def Exponent.value (e : Exponent) : ℤ :=
  if e.sign.negative then -number e.digits else number e.digits

/-- The power of ten. -/
def scale (d : Decimal) : ℤ := d.exponent.elim 0 Exponent.value

/-- The digits behind the point. -/
def places (d : Decimal) : List (Fin 10) := d.fraction.getD []

/-- The number without its sign. -/
def size (d : Decimal) : ℚ :=
  (number d.whole + number d.places / 10 ^ d.places.length) * 10 ^ d.scale

def value (d : Decimal) : ℚ := if d.sign.negative then -d.size else d.size

theorem foldl_digits (ds : List (Fin 10)) (n : ℕ) :
    ds.foldl (fun n d => 10 * n + d.val) n = n * 10 ^ ds.length + number ds := by
  induction ds generalizing n with
  | nil => simp [number]
  | cons d ds ih =>
    rw [number, List.foldl_cons, List.foldl_cons, ih, ih, List.length_cons]
    ring

/-- The digits on both sides of the point as one whole number, and the power of ten behind it. -/
theorem size_eq (d : Decimal) :
    d.size = number (d.whole ++ d.places) * 10 ^ (d.scale - d.places.length) := by
  have apart : number (d.whole ++ d.places) =
      number d.whole * 10 ^ d.places.length + number d.places := by
    rw [number, List.foldl_append]
    exact foldl_digits _ _
  rw [size, apart, zpow_sub₀ (by norm_num), zpow_natCast]
  push_cast
  field_simp

theorem size_nonneg (d : Decimal) : 0 ≤ d.size := by
  rw [size]
  positivity

/-! ### Digits -/

variable {ds : List (Fin 10)} {c : Char} {cs rest : List Char}

theorem isDigit_digit : ∀ d, Numeral.isDigit (digit d) := by decide

theorem toNat_digit : ∀ d, (digit d).toNat - 0x30 = d := by decide

theorem exists_digit (h : Numeral.isDigit c) : ∃ d, digit d = c := by
  simp only [Numeral.isDigit, Bool.and_eq_true, decide_eq_true_eq] at h
  refine ⟨⟨c.toNat - 0x30, by omega⟩, ?_⟩
  rw [digit, Nat.add_sub_cancel' h.1, Char.ofNat_toNat]

theorem exists_digits (h : ∀ c ∈ cs, Numeral.isDigit c) : ∃ ds : List (Fin 10), ds.map digit = cs := by
  induction cs with
  | nil => exact ⟨[], rfl⟩
  | cons c cs ih =>
    obtain ⟨d, rfl⟩ := exists_digit (h c List.mem_cons_self)
    obtain ⟨ds, rfl⟩ := ih fun c hc => h c (List.mem_cons_of_mem _ hc)
    exact ⟨d :: ds, rfl⟩

theorem natOfDigits_map (ds : List (Fin 10)) (n : ℕ) :
    Numeral.natOfDigits (ds.map digit) n = ds.foldl (fun n d => 10 * n + d.val) n := by
  simp only [Numeral.natOfDigits, List.foldl_map, toNat_digit]

/-- No digit comes next. -/
def Ends (cs : List Char) : Prop := ∀ c ∈ cs.head?, ¬Numeral.isDigit c

theorem span_digits (h : Ends rest) :
    (ds.map digit ++ rest).takeWhile Numeral.isDigit = ds.map digit ∧
      (ds.map digit ++ rest).dropWhile Numeral.isDigit = rest := by
  have digits : ∀ c ∈ ds.map digit, Numeral.isDigit c := by
    simp only [List.mem_map, forall_exists_index, and_imp]
    rintro _ d - rfl
    exact isDigit_digit d
  rw [List.takeWhile_append_of_pos digits, List.dropWhile_append_of_pos digits]
  cases rest with
  | nil => simp
  | cons c rest => simp [h c rfl]

theorem exists_span (cs : List Char) : ∃ ds : List (Fin 10),
    cs.takeWhile Numeral.isDigit = ds.map digit ∧
      ds.map digit ++ cs.dropWhile Numeral.isDigit = cs := by
  obtain ⟨ds, written⟩ := @exists_digits (cs.takeWhile Numeral.isDigit) fun _ => List.mem_takeWhile_imp
  exact ⟨ds, written.symm, by rw [written, List.takeWhile_append_dropWhile]⟩

/-! ### Reading -/

theorem digit_ne_sign : ∀ d, digit d ≠ '-' ∧ digit d ≠ '+' := by decide

theorem takeSign_chars (s : Sign) (h : ∀ c ∈ rest.head?, c ≠ '-' ∧ c ≠ '+') :
    Numeral.takeSign (s.chars ++ rest) = (s.negative, rest) := by
  cases s with
  | absent =>
    cases rest with
    | nil => rfl
    | cons c rest =>
      obtain ⟨minus, plus⟩ := h c rfl
      simp only [Sign.chars, Sign.negative, List.nil_append, Numeral.takeSign]
      split <;> simp_all
  | plus => rfl
  | minus => rfl

theorem exists_sign (cs : List Char) :
    ∃ s : Sign, s.chars ++ (Numeral.takeSign cs).2 = cs ∧ s.negative = (Numeral.takeSign cs).1 := by
  unfold Numeral.takeSign
  split
  · exact ⟨.minus, rfl, rfl⟩
  · exact ⟨.plus, rfl, rfl⟩
  · exact ⟨.absent, rfl, rfl⟩

theorem exponent?_chars (e : Exponent) : Numeral.exponent? e.chars = some e.value := by
  obtain ⟨capital, s, ds, nonempty⟩ := e
  have sign : Numeral.takeSign (s.chars ++ ds.map digit) = (s.negative, ds.map digit) := by
    refine takeSign_chars s ?_
    cases ds with
    | nil => exact absurd rfl nonempty
    | cons d ds => simp [digit_ne_sign]
  have number : Numeral.natOfDigits (ds.map digit) 0 = number ds := natOfDigits_map ds 0
  cases capital <;>
    simp [Exponent.chars, Exponent.value, Numeral.exponent?, sign, nonempty, isDigit_digit, number]

theorem exists_exponent {n : ℤ} (h : Numeral.exponent? cs = some n) :
    ∃ e : Option Exponent, e.elim [] Exponent.chars = cs ∧ e.elim 0 Exponent.value = n := by
  cases cs with
  | nil => exact ⟨none, rfl, Option.some.inj h⟩
  | cons c cs =>
    obtain ⟨s, sign, negative⟩ := exists_sign cs
    simp only [Numeral.exponent?, Option.ite_none_right_eq_some, ← negative] at h
    obtain ⟨letter, ⟨nonempty, digits⟩, value⟩ := h
    obtain ⟨ds, written⟩ := exists_digits (List.all_eq_true.mp digits)
    rw [← written] at nonempty sign value
    rw [natOfDigits_map] at value
    refine ⟨some ⟨c = 'E', s, ds, by simpa using nonempty⟩, ?_, Option.some.inj value⟩
    rcases letter with rfl | rfl <;> simp [Exponent.chars, sign]

/-- What is read from a numeral. -/
def numeral (d : Decimal) : Numeral :=
  .finite d.sign.negative (number (d.whole ++ d.places)) (d.scale - d.places.length)

theorem value_of_numeral {negative : Bool} {digits : ℕ} {exponent : ℤ} {d : Decimal}
    (h : d.numeral = .finite negative digits exponent) :
    d.value = if negative then -(digits * 10 ^ exponent : ℚ) else digits * 10 ^ exponent := by
  rw [numeral, Numeral.finite.injEq] at h
  obtain ⟨rfl, rfl, rfl⟩ := h
  rw [value, size_eq]

theorem ends_exponent (e : Option Exponent) : Ends (e.elim [] Exponent.chars) := by
  rcases e with _ | ⟨_ | _, _, _, _⟩ <;> simp [Ends, Exponent.chars, Numeral.isDigit]

theorem point_notMem_digits (ds : List (Fin 10)) : '.' ∉ ds.map digit := by
  have other : ∀ d, digit d ≠ '.' := by decide
  simp [other]

theorem point_notMem_sign (s : Sign) : '.' ∉ s.chars := by
  cases s <;> simp [Sign.chars]

theorem point_notMem_exponent (e : Option Exponent) : '.' ∉ e.elim [] Exponent.chars := by
  rcases e with _ | ⟨_ | _, s, ds, _⟩ <;>
    simp [Exponent.chars, point_notMem_digits, point_notMem_sign]

section Unsigned

variable {negative : Bool} {ws ds : List (Fin 10)} {power : List Char}

theorem natOfDigits_append (ws ds : List (Fin 10)) :
    Numeral.natOfDigits (ds.map digit) (Numeral.natOfDigits (ws.map digit) 0) =
      number (ws ++ ds) := by
  rw [natOfDigits_map, natOfDigits_map, number, List.foldl_append]

theorem unsigned?_whole (ends : Ends power) (noPoint : '.' ∉ power) (nonempty : ws ≠ []) :
    Numeral.unsigned? negative (ws.map digit ++ power) =
      (Numeral.exponent? power).map fun e => .finite negative (number ws) e := by
  obtain ⟨taken, dropped⟩ := @span_digits ws power ends
  have digits : Numeral.natOfDigits [] (Numeral.natOfDigits (ws.map digit) 0) = number ws :=
    natOfDigits_map ws 0
  simp only [Numeral.unsigned?, taken, dropped]
  split
  · simp at noPoint
  · simp [nonempty, digits]

theorem unsigned?_point (ends : Ends power) (nonempty : ws = [] → ds ≠ []) :
    Numeral.unsigned? negative (ws.map digit ++ '.' :: (ds.map digit ++ power)) =
      (Numeral.exponent? power).map fun e =>
        .finite negative (number (ws ++ ds)) (e - ds.length) := by
  obtain ⟨taken, dropped⟩ := @span_digits ws ('.' :: (ds.map digit ++ power))
    (by simp [Ends, Numeral.isDigit])
  obtain ⟨taken', dropped'⟩ := @span_digits ds power ends
  simp only [Numeral.unsigned?, taken, dropped, taken', dropped']
  rw [if_neg (by simpa using nonempty), natOfDigits_append, List.length_map]

end Unsigned

theorem unsigned?_body (d : Decimal) : Numeral.unsigned? d.sign.negative d.body = some d.numeral := by
  obtain ⟨s, whole, fraction, exponent, nonempty⟩ := d
  have last : Numeral.exponent? (exponent.elim [] Exponent.chars) =
      some (exponent.elim 0 Exponent.value) := by
    cases exponent with
    | none => rfl
    | some e => exact exponent?_chars e
  have ends := ends_exponent exponent
  cases fraction with
  | none =>
    refine (unsigned?_whole ends (point_notMem_exponent exponent) (by simpa using nonempty)).trans ?_
    rw [last]
    simp [numeral, places, scale]
  | some ds =>
    refine (unsigned?_point ends (by simpa using nonempty)).trans ?_
    rw [last]
    simp [numeral, places, scale]

theorem exists_body {n : Numeral} (s : Sign) (h : Numeral.unsigned? s.negative cs = some n) :
    ∃ d : Decimal, d.sign = s ∧ d.body = cs ∧ d.numeral = n := by
  obtain ⟨ws, taken, parts⟩ := exists_span cs
  simp only [Numeral.unsigned?, taken] at h
  generalize cs.dropWhile Numeral.isDigit = rest at h parts
  subst parts
  split at h
  · rename_i r
    obtain ⟨ds, taken', parts'⟩ := exists_span r
    simp only [taken', Option.ite_none_left_eq_some, Option.map_eq_some_iff] at h
    obtain ⟨nonempty, _, power, rfl⟩ := h
    obtain ⟨exponent, written, rfl⟩ := exists_exponent power
    refine ⟨⟨s, ws, some ds, exponent, ?_⟩, rfl, ?_, ?_⟩
    · simpa using nonempty
    · simp only [body, Option.elim_some, List.cons_append, written, parts']
    · simp [numeral, places, scale, natOfDigits_append]
  · simp only [Option.ite_none_left_eq_some, Option.map_eq_some_iff] at h
    obtain ⟨nonempty, _, power, rfl⟩ := h
    obtain ⟨exponent, written, rfl⟩ := exists_exponent power
    refine ⟨⟨s, ws, none, exponent, ?_⟩, rfl, ?_, ?_⟩
    · simpa using nonempty
    · simp only [body, Option.elim_none, List.nil_append, written]
    · have digits : Numeral.natOfDigits [] (Numeral.natOfDigits (ws.map digit) 0) = number ws :=
        natOfDigits_map ws 0
      simp [numeral, places, scale, digits]

theorem head_body (d : Decimal) : ∃ c cs, d.body = c :: cs ∧ (Numeral.isDigit c ∨ c = '.') := by
  obtain ⟨s, whole, fraction, exponent, nonempty⟩ := d
  cases whole with
  | cons w ws => exact ⟨digit w, _, rfl, .inl (isDigit_digit w)⟩
  | nil =>
    cases fraction with
    | none => exact absurd rfl (nonempty rfl)
    | some ds => exact ⟨'.', _, rfl, .inr rfl⟩

/-- A numeral is none of the words. -/
theorem word?_body (d : Decimal) (negative : Bool) : Numeral.word? negative d.body = none := by
  obtain ⟨c, cs, body, first⟩ := d.head_body
  have small : c.toNat < 0x3A := by
    obtain digit | rfl := first
    · simp only [Numeral.isDigit, Bool.and_eq_true, decide_eq_true_eq] at digit
      omega
    · decide
  have same : Numeral.lowerAscii c = c := by
    rw [Numeral.lowerAscii, if_neg]
    simp only [Bool.and_eq_true, decide_eq_true_eq]
    omega
  rw [Numeral.word?, body, List.map_cons, same]
  generalize cs.map Numeral.lowerAscii = rest
  have other {w : String} {x : Char} (first : x ∈ w.toList.head?) (hx : 0x3A ≤ x.toNat) :
      String.ofList (c :: rest) ≠ w := by
    rintro rfl
    rw [String.toList_ofList, List.head?_cons, Option.mem_some_iff] at first
    subst first
    omega
  split
  · exact absurd ‹_› (@other "inf" 'i' rfl (by decide))
  · exact absurd ‹_› (@other "infinity" 'i' rfl (by decide))
  · exact absurd ‹_› (@other "nan" 'n' rfl (by decide))
  · rfl

theorem ofChars?_chars (d : Decimal) : Numeral.ofChars? d.chars = some d.numeral := by
  have sign : Numeral.takeSign d.chars = (d.sign.negative, d.body) := by
    refine takeSign_chars _ fun x hx => ?_
    obtain ⟨c, cs, body, first⟩ := d.head_body
    rw [body, List.head?_cons, Option.mem_some_iff] at hx
    subst hx
    constructor <;> rintro rfl <;> simp [Numeral.isDigit] at first
  rw [Numeral.ofChars?, sign]
  simp only [word?_body, Option.none_or, unsigned?_body]

theorem exists_decimal {negative : Bool} {digits : ℕ} {exponent : ℤ}
    (h : Numeral.ofChars? cs = some (.finite negative digits exponent)) :
    ∃ d : Decimal, d.chars = cs ∧ d.numeral = .finite negative digits exponent := by
  obtain ⟨s, sign, negative⟩ := exists_sign cs
  simp only [Numeral.ofChars?, Option.or_eq_some_iff] at h
  obtain word | ⟨-, number⟩ := h
  · simp only [Numeral.word?] at word
    split at word <;> cases word
  · obtain ⟨d, rfl, body, eq⟩ := exists_body s (negative ▸ number)
    exact ⟨d, by rw [chars, body, sign], eq⟩

end Decimal

end Telemetry
