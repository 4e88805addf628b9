import Telemetry.Histogram.Basic

/-!
A histogram and the values that wait to be taken into it.
-/

namespace Telemetry

/-- The histogram may be of any kind. -/
structure Intake (η : Type := Histogram) where
  histogram : η
  /-- The latest value comes last. -/
  waiting : Array Nat

/-- How far the waiting values are taken into a histogram, which may refuse some of them. -/
structure Drain (η ε : Type) where
  histogram : η
  /-- Why a value was refused, the last one that was. -/
  fault? : Option ε
  received : Nat

namespace Drain

variable {η ε : Type}

/-- A value that is refused is received too. -/
def take (record : η → Nat → η × Option ε) (d : Drain η ε) (v : Nat) : Drain η ε :=
  let (h, fault?) := record d.histogram v
  ⟨h, fault?.or d.fault?, d.received + 1⟩

@[simp] theorem received_take (record : η → Nat → η × Option ε) (d : Drain η ε) (v : Nat) :
    (d.take record v).received = d.received + 1 := rfl

end Drain

namespace Intake

variable {η ε : Type}

def ofHistogram (h : η) : Intake η := ⟨h, #[]⟩

def push (i : Intake η) (v : Nat) : Intake η := { i with waiting := i.waiting.push v }

/-- Takes the waiting values into the histogram, in the order in which they came. -/
def drain (record : η → Nat → η × Option ε) (i : Intake η) : Drain η ε :=
  i.waiting.foldl (Drain.take record) ⟨i.histogram, none, 0⟩

/-- Takes the waiting values into a histogram that refuses none. -/
def merge (i : Intake) : Intake := ⟨i.waiting.foldl Histogram.record i.histogram, #[]⟩

@[simp] theorem received_drain (record : η → Nat → η × Option ε) (i : Intake η) :
    (i.drain record).received = i.waiting.size := by
  have each (vs : List Nat) (d : Drain η ε) :
      (vs.foldl (Drain.take record) d).received = d.received + vs.length := by
    induction vs generalizing d with
    | nil => rfl
    | cons v rest ih =>
      rw [List.foldl_cons, ih, Drain.received_take, List.length_cons]
      omega
  rw [drain, ← Array.foldl_toList, each, Array.length_toList, Nat.zero_add]

@[simp] theorem size_push (i : Intake η) (v : Nat) :
    (i.push v).waiting.size = i.waiting.size + 1 := by
  simp [push]

@[simp] theorem waiting_merge (i : Intake) : i.merge.waiting = #[] := rfl

end Intake

end Telemetry
