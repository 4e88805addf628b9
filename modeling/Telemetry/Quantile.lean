import Telemetry.Number.Numeral
import Telemetry.Number.Rounding
import Telemetry.Text.Blank

/-!
Quantiles in steps of one thousandth, from 0.001 to 1.
-/

namespace Telemetry

structure Quantile where
  perMille : Nat
  perMille_pos : 0 < perMille
  perMille_le : perMille ≤ 1000
deriving DecidableEq

inductive QuantileError
  | notFloat
  | outOfRange
  | tooPrecise
deriving DecidableEq, Repr

def QuantileError.message : QuantileError → String
  | .notFloat => "not a float value"
  | .outOfRange => "out of range (0, 1]"
  | .tooPrecise => "too many fraction digits, at most 3 is allowed"

namespace Quantile

def ofPerMille? (n : Nat) : Option Quantile :=
  if h : 0 < n ∧ n ≤ 1000 then some ⟨n, h.1, h.2⟩ else none

instance : Ord Quantile := ⟨compareOn Quantile.perMille⟩

def median : Quantile := ⟨500, by decide, by decide⟩

/-- The quantiles that a snapshot shows unless others are asked for. -/
def defaults : List Quantile :=
  [median, ⟨750, by decide, by decide⟩, ⟨950, by decide, by decide⟩, ⟨980, by decide, by decide⟩,
    ⟨990, by decide, by decide⟩, ⟨999, by decide, by decide⟩]

def value (q : Quantile) : Float := q.perMille.toUInt64.toFloat / 1000.0

/-- In percent, with a fraction only where there is one. -/
def label (q : Quantile) : String :=
  let whole := toString (q.perMille / 10)
  if q.perMille % 10 = 0 then whole ++ "%"
  else whole ++ "." ++ toString (q.perMille % 10) ++ "%"

/-- The size of what follows the first point, if there is one. -/
def fractionSize? (cs : List Char) : Option Nat :=
  match cs.dropWhile (· != '.') with
  | [] => none
  | _ :: r => some (String.ofList r).utf8ByteSize

/-- A numeral between blanks, with at most three characters after its point. -/
def parse (s : String) : Except QuantileError Quantile :=
  let cs := Text.trim s.toList
  if (fractionSize? cs).any (3 < ·) then .error .tooPrecise
  else match Numeral.ofChars? cs with
    | none => .error .notFloat
    | some numeral =>
      let x := numeral.toFloat
      if 0.0 < x && x ≤ 1.0 then
        (ofPerMille? (Rounding.nearest (x * 1000.0))).elim (.error .outOfRange) .ok
      else .error .outOfRange

end Quantile

end Telemetry
