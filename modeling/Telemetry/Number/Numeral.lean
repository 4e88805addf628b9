/-!
Decimal numerals: an optional sign, digits with at most one point among them, and an optional power
of ten. A numeral is read exactly and rounded once, to the nearest double.
-/

namespace Telemetry

/-- What is written: `digits * 10 ^ exponent` with a sign, or one of the values without digits. -/
inductive Numeral
  | finite (negative : Bool) (digits : Nat) (exponent : Int)
  | infinite (negative : Bool)
  | nan
deriving DecidableEq, Repr

namespace Numeral

def isDigit (c : Char) : Bool := 0x30 ≤ c.toNat && c.toNat ≤ 0x39

/-- The digits of `cs` read as one number behind those already read. -/
def natOfDigits (cs : List Char) (seen : Nat) : Nat :=
  cs.foldl (fun n c => 10 * n + (c.toNat - 0x30)) seen

def takeSign : List Char → Bool × List Char
  | '-' :: cs => (true, cs)
  | '+' :: cs => (false, cs)
  | cs => (false, cs)

def lowerAscii (c : Char) : Char :=
  if 0x41 ≤ c.toNat && c.toNat ≤ 0x5A then Char.ofNat (c.toNat + 0x20) else c

/-- The power of ten: nothing at all, or the letter, an optional sign and at least one digit. -/
def exponent? : List Char → Option Int
  | [] => some 0
  | c :: cs =>
    if c = 'e' ∨ c = 'E' then
      let (negative, ds) := takeSign cs
      if ds ≠ [] ∧ ds.all isDigit then
        let n : Int := natOfDigits ds 0
        some (if negative then -n else n)
      else none
    else none

/-- A numeral without its sign. -/
def unsigned? (negative : Bool) (cs : List Char) : Option Numeral :=
  let whole := cs.takeWhile isDigit
  let rest := cs.dropWhile isDigit
  let (fraction, rest) := match rest with
    | '.' :: r => (r.takeWhile isDigit, r.dropWhile isDigit)
    | r => ([], r)
  if whole = [] ∧ fraction = [] then none
  else (exponent? rest).map fun e =>
    .finite negative (natOfDigits fraction (natOfDigits whole 0)) (e - fraction.length)

/-- Infinity and the undefined value are written as words, in any case. -/
def word? (negative : Bool) (cs : List Char) : Option Numeral :=
  match String.ofList (cs.map lowerAscii) with
  | "inf" | "infinity" => some (.infinite negative)
  | "nan" => some .nan
  | _ => none

def ofChars? (cs : List Char) : Option Numeral :=
  let (negative, rest) := takeSign cs
  (word? negative rest).or (unsigned? negative rest)

def parse? (s : String) : Option Numeral := ofChars? s.toList

def infinity : Float := 1.0 / 0.0

/--
The nearest double of `digits * 10 ^ exponent`. Beyond 400 places before or after the point the
result is infinite or zero whatever the digits are.
-/
def magnitude (digits : Nat) (exponent : Int) : Float :=
  if digits = 0 then 0.0
  else
    let places : Int := (Nat.toDigits 10 digits).length + exponent
    if places > 400 then infinity
    else if places < -400 then 0.0
    else if exponent < 0 then Float.ofScientific digits true exponent.natAbs
    else Float.ofScientific digits false exponent.natAbs

def withSign (negative : Bool) (x : Float) : Float := if negative then -x else x

def toFloat : Numeral → Float
  | .finite negative digits exponent => withSign negative (magnitude digits exponent)
  | .infinite negative => withSign negative infinity
  | .nan => 0.0 / 0.0

end Numeral

end Telemetry
