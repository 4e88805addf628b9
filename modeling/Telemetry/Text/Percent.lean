import Telemetry.Text.Utf8

/-!
Percent triplets: a text of printable ASCII for every text. Blanks, controls, the dot, the percent
sign and all that is not ASCII are written as the triplets of their UTF-8 bytes.
-/

namespace Telemetry.Text.Percent

def hexDigitUpper (n : Nat) : Char :=
  Char.ofNat (if n < 10 then 0x30 + n else 0x37 + n)

/-- The value of a hexadecimal digit of either case. -/
def hexValue? (c : Char) : Option Nat :=
  let n := c.toNat
  if 0x30 ≤ n ∧ n ≤ 0x39 then some (n - 0x30)
  else if 0x41 ≤ n ∧ n ≤ 0x46 then some (n - 0x37)
  else if 0x61 ≤ n ∧ n ≤ 0x66 then some (n - 0x57)
  else none

/-- Written as itself: the visible ASCII characters other than the dot and the percent sign. -/
def isLiteral (c : Char) : Bool :=
  0x21 ≤ c.toNat && c.toNat ≤ 0x7E && c != '.' && c != '%'

def triplet (b : UInt8) : List Char :=
  ['%', hexDigitUpper (b.toNat / 16), hexDigitUpper (b.toNat % 16)]

def encodeChar (c : Char) : List Char :=
  if isLiteral c then [c] else (String.utf8EncodeChar c).flatMap triplet

def encode (cs : List Char) : List Char :=
  cs.flatMap encodeChar

/-- A percent sign before two hexadecimal digits begins a triplet; any other stands for itself. -/
def decodeBytes : List Char → List UInt8
  | [] => []
  | '%' :: h :: l :: r =>
    match hexValue? h, hexValue? l with
    | some x, some y => UInt8.ofNat (x * 16 + y) :: decodeBytes r
    | _, _ => 0x25 :: decodeBytes (h :: l :: r)
  | c :: r => String.utf8EncodeChar c ++ decodeBytes r

def decode (cs : List Char) : List Char :=
  Utf8.decodeLossy (decodeBytes cs)

theorem isLiteral_hexDigitUpper {n : Nat} (h : n < 16) : isLiteral (hexDigitUpper n) := by
  have : ∀ n : Fin 16, isLiteral (hexDigitUpper n) := by decide
  exact this ⟨n, h⟩

theorem isLiteral_or_of_mem_encode {cs : List Char} {c : Char} (h : c ∈ encode cs) :
    isLiteral c ∨ c = '%' := by
  obtain ⟨x, -, hx⟩ := List.mem_flatMap.mp h
  unfold encodeChar at hx
  split at hx
  · next hl => exact .inl ((List.mem_singleton.mp hx) ▸ hl)
  · obtain ⟨b, -, hb⟩ := List.mem_flatMap.mp hx
    have small : b.toNat < 256 := b.toNat_lt
    simp only [triplet, List.mem_cons, List.not_mem_nil, or_false] at hb
    rcases hb with rfl | rfl | rfl
    · exact .inr rfl
    · exact .inl (isLiteral_hexDigitUpper (by omega))
    · exact .inl (isLiteral_hexDigitUpper (by omega))

end Telemetry.Text.Percent
