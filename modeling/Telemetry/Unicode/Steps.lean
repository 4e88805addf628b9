/-!
Functions of the code point that are constant on long runs, kept as the start of each run. They are
written as lines of words: a start in base 16, then the value from there on.
-/

namespace Telemetry.Unicode

def words (line : String) : List String := line.splitOn " " |>.filter (· ≠ "")

def hexDigitNat (c : Char) : Nat :=
  if c.toNat < 0x3A then c.toNat - 0x30 else c.toNat - 0x37

def hexNat (s : String) : Nat := s.toList.foldl (fun n c => 16 * n + hexDigitNat c) 0

/-- The starts are in ascending order. -/
structure Steps (α : Type) where
  runs : Array (Nat × α)

namespace Steps

variable {α : Type}

def pairs (value : String → α) : List String → List (Nat × α)
  | start :: v :: rest => (hexNat start, value v) :: pairs value rest
  | _ => []

def ofLines (value : String → α) (lines : List String) : Steps α :=
  ⟨(pairs value (lines.flatMap words)).toArray⟩

/-- The value of the last of the runs `lo ..< hi` that starts at or before `n`, else `found`. -/
def search (runs : Array (Nat × α)) (n lo hi : Nat) (found : Option α) : Option α :=
  if lo < hi then
    let mid := (lo + hi) / 2
    match runs[mid]? with
    | none => found
    | some (start, v) =>
      if start ≤ n then search runs n (mid + 1) hi (some v) else search runs n lo mid found
  else found
termination_by hi - lo
decreasing_by all_goals omega

def valueAt (t : Steps α) (n : Nat) : Option α := search t.runs n 0 t.runs.size none

end Steps

end Telemetry.Unicode
