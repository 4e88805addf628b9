import Telemetry.Histogram.Intake

/-!
Distributions of 64 bit values. Updates only queue a value; the queue is taken into the histogram
when the distribution is read, or earlier once it is long.
-/

namespace Telemetry

structure Sampler where
  intake : Intake

namespace Sampler

def empty : Sampler := ⟨.ofHistogram (.empty .standard (UInt64.size - 1))⟩

/-- The length at which a queue is taken in by the update that reaches it. -/
def backlogLimit : Nat := 4096

def pending (s : Sampler) : Nat := s.intake.waiting.size

def drain (s : Sampler) : Sampler := ⟨s.intake.merge⟩

def update (s : Sampler) (v : UInt64) : Sampler :=
  let s : Sampler := ⟨s.intake.push v.toNat⟩
  if backlogLimit ≤ s.pending then s.drain else s

/-- The statistics of a distribution that has been drained. -/
def summary (s : Sampler) : Summary := s.intake.histogram.summary Quantile.defaults

end Sampler

end Telemetry
