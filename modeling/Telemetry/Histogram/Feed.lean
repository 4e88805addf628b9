import Telemetry.Histogram.Intake

/-!
A histogram with recorders. A recorded value waits, and is counted as pending, until a refresh takes
it into the histogram. Either side may be dropped before the other. All recorders of a histogram are
alike, so only their number is kept.
-/

namespace Telemetry

structure Feed (η : Type := Histogram) where
  /-- None once the histogram is dropped. -/
  intake : Option (Intake η)
  pending : Nat
  recorders : Nat

namespace Feed

variable {η ε : Type}

def start (h : η) : Feed η := ⟨some (.ofHistogram h), 0, 1⟩

def ofHistogram (h : Histogram) : Feed := start h

/-- Whether there is no histogram that could take a value. -/
def isClosed (f : Feed η) : Bool := f.intake.isNone

/-- Counts a value as pending. -/
def raise (f : Feed η) : Feed η := { f with pending := f.pending + 1 }

/-- Values are not pending any more. -/
def lower (f : Feed η) (n : Nat) : Feed η := { f with pending := f.pending - n }

/-- Hands a value over, if there is a histogram for it. -/
def send (f : Feed η) (v : Nat) : Option (Feed η) :=
  f.intake.map fun i => { f with intake := some (i.push v) }

/-- A value is counted before it is handed over, so that no value is ever taken that is not counted.
Without a histogram this fails, and the value is not counted in the end. -/
def record (f : Feed η) (v : Nat) : Feed η × Bool :=
  match f.raise.send v with
  | some f => (f, true)
  | none => (f.raise.lower 1, false)

/-- Adds a recorder. -/
def cloneRecorder (f : Feed η) : Feed η := { f with recorders := f.recorders + 1 }

def dropRecorder (f : Feed η) : Feed η := { f with recorders := f.recorders - 1 }

def dropRecorders (f : Feed η) : Feed η := { f with recorders := 0 }

/-- Drops the histogram. What waits is lost, and stays pending. -/
def drop (f : Feed η) : Feed η := { f with intake := none }

/-- Takes all waiting values into the histogram, also if it refuses some of them, and tells why it
refused the last of these. -/
def refreshBy (record : η → Nat → η × Option ε) (f : Feed η) : Feed η × Option ε :=
  match f.intake with
  | none => (f, none)
  | some i =>
    let d := i.drain record
    ({ f with intake := some (.ofHistogram d.histogram) }.lower d.received, d.fault?)

/-- Takes all waiting values into a histogram that refuses none. -/
def refresh (f : Feed) : Feed := (f.refreshBy fun h v => (h.record v, (none : Option Empty))).1

end Feed

end Telemetry
