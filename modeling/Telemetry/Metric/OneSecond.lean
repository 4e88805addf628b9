/-!
The number of events in the last second that has fully passed. Two buckets are kept, one for the
latest second with an event and one for the latest before it. Both are packed into one word, so that
they always change together.
-/

namespace Telemetry

namespace OneSecond

structure Bucket where
  second : UInt32
  count : UInt32
deriving DecidableEq

namespace Bucket

def zero : Bucket := ⟨0, 0⟩

/-- The second in the higher half of a word, the count in the lower one. -/
def pack (b : Bucket) : BitVec 64 := b.second.toBitVec ++ b.count.toBitVec

def unpack (w : BitVec 64) : Bucket := ⟨⟨w.extractLsb' 32 32⟩, ⟨w.extractLsb' 0 32⟩⟩

@[simp] theorem unpack_pack (b : Bucket) : unpack b.pack = b := by
  rw [unpack, pack, BitVec.extractLsb'_append_eq_left, BitVec.extractLsb'_append_eq_right]

end Bucket

/-- A count of any size, cut off at the largest that 32 bits hold. -/
def clamp (n : Nat) : UInt32 := UInt32.ofNat (min n (UInt32.size - 1))

end OneSecond

open OneSecond

structure OneSecondCounter where
  state : BitVec 128
deriving DecidableEq

namespace OneSecondCounter

def zero : OneSecondCounter := ⟨0⟩

def ofBuckets (previous current : Bucket) : OneSecondCounter := ⟨previous.pack ++ current.pack⟩

def previous (c : OneSecondCounter) : Bucket := .unpack (c.state.extractLsb' 64 64)

def current (c : OneSecondCounter) : Bucket := .unpack (c.state.extractLsb' 0 64)

@[simp] theorem previous_zero : zero.previous = .zero := rfl

@[simp] theorem current_zero : zero.current = .zero := rfl

@[simp] theorem previous_ofBuckets (previous current : Bucket) :
    (ofBuckets previous current).previous = previous := by
  rw [OneSecondCounter.previous, ofBuckets, BitVec.extractLsb'_append_eq_left, Bucket.unpack_pack]

@[simp] theorem current_ofBuckets (previous current : Bucket) :
    (ofBuckets previous current).current = current := by
  rw [OneSecondCounter.current, ofBuckets, BitVec.extractLsb'_append_eq_right, Bucket.unpack_pack]

/--
Counts `n` events in the second `now`. Events of a second before the current bucket's are counted
in the current bucket. Of the second only the low 32 bits are kept.
-/
def mark (c : OneSecondCounter) (now n : UInt64) : OneSecondCounter :=
  let second := now.toUInt32
  let count := clamp n.toNat
  if c.current.second < second then ofBuckets c.current ⟨second, count⟩
  else ofBuckets c.previous
    ⟨c.current.second, clamp (c.current.count.toNat + count.toNat)⟩

/-- The events of the second before `now`. -/
def rate (c : OneSecondCounter) (now : UInt64) : UInt32 :=
  let second := now.toUInt32
  if second = 0 then 0
  else if c.current.second = second - 1 then c.current.count
  else if c.current.second = second ∧ c.previous.second = second - 1 then c.previous.count
  else 0

end OneSecondCounter

end Telemetry
