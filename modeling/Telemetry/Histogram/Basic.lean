import Telemetry.Histogram.Resolution
import Telemetry.Number.Rounding
import Telemetry.Quantile
import Telemetry.Table

/-!
Histograms of 64 bit values: how often each slot of values was recorded, and the statistics that
follow from that. A slot counts up to a limit; the number of all records has none.
-/

namespace Telemetry

structure Histogram where
  resolution : Resolution
  /-- The largest count of a slot. -/
  limit : Nat
  /-- By the least value of the slot. -/
  slots : Table Nat Nat
  count : Nat
  least? : Option Nat
  greatest : Nat

namespace Histogram

open Rounding

/-- Without a record. -/
def empty (r : Resolution) (limit : Nat) : Histogram := ⟨r, limit, .empty, 0, none, 0⟩

/-- The least recorded value other than zero. -/
def lesser (v : Nat) : Option Nat → Option Nat
  | none => if v = 0 then none else some v
  | some m => if v = 0 then some m else some (min m v)

def record (h : Histogram) (v : Nat) : Histogram :=
  let slot := h.resolution.lowest v
  { h with
    slots := h.slots.insert slot (min ((h.slots.find? slot).getD 0 + 1) h.limit)
    count := h.count + 1
    least? := lesser v h.least?
    greatest := max h.greatest v }

@[simp] theorem count_record (h : Histogram) (v : Nat) : (h.record v).count = h.count + 1 := rfl

/-- The largest of 64 bits is not rounded to its slot. -/
def min (h : Histogram) : Nat :=
  if h.slots.contains 0 then 0
  else match h.least? with
    | none => UInt64.size - 1
    | some v => if v = UInt64.size - 1 then v else h.resolution.lowest v

def max (h : Histogram) : Nat :=
  if h.greatest = UInt64.size - 1 then h.greatest else h.resolution.highest h.greatest

def mean (h : Histogram) : Float :=
  if h.count = 0 then 0.0
  else h.slots.entries.foldl (fun total (slot, n) =>
    total + double (h.resolution.middle slot) * double n / double h.count) 0.0

def stddev (h : Histogram) : Float :=
  if h.count = 0 then 0.0
  else
    let mean := h.mean
    let squares := h.slots.entries.foldl (fun total (slot, n) =>
      let d := double (h.resolution.middle slot) - mean
      total + d * d * double n) 0.0
    (squares / double h.count).sqrt

/-- The first slot up to which at least `target` values are counted, `before` of them earlier. -/
def slotReaching? (target : Nat) (before : Nat) : List (Nat × Nat) → Option Nat
  | [] => none
  | (slot, n) :: rest =>
    if target ≤ before + n then some slot else slotReaching? target (before + n) rest

/--
The greatest value of the slot that the share `q` of all records reaches. It is 0 if no slot does,
because their counts stopped at the limit.
-/
def valueAt (h : Histogram) (q : Quantile) : Nat :=
  let target := Nat.max 1 (ceiling (q.value * double h.count))
  match slotReaching? target 0 h.slots.entries with
  | none => 0
  | some slot => h.resolution.highest slot

end Histogram

/-- The statistics of a histogram at one moment. -/
structure Summary where
  count : Nat
  min : Nat
  max : Nat
  mean : Float
  stddev : Float
  quantiles : List (Quantile × Nat)

namespace Summary

/-- All zero. -/
def empty (qs : List Quantile) : Summary := ⟨0, 0, 0, 0.0, 0.0, qs.map fun q => (q, 0)⟩

def quantile? (s : Summary) (q : Quantile) : Option Nat :=
  (s.quantiles.find? (·.1 == q)).map (·.2)

end Summary

def Histogram.summary (h : Histogram) (qs : List Quantile) : Summary :=
  if h.count = 0 then .empty qs
  else ⟨h.count, h.min, h.max, h.mean, h.stddev, qs.map fun q => (q, h.valueAt q)⟩

end Telemetry
