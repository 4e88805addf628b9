import Telemetry.Text.Utf8

/-!
The bytes of a text read back as the text: a character's bytes are never taken for another one's,
and none of them is replaced.
-/

namespace Telemetry.Text.Utf8

variable {a b c d : UInt8}

theorem decodeLossy_one (ha : a < 0x80) (rest : List UInt8) :
    decodeLossy (a :: rest) = Char.ofNat a.toNat :: decodeLossy rest := by
  rw [decodeLossy.eq_def]
  simp [ha]

theorem decodeLossy_two (ha : ¬a < 0x80) (hb : mayFollow a b) (two : a < 0xE0)
    (rest : List UInt8) : decodeLossy (a :: b :: rest) = char2 a b :: decodeLossy rest := by
  rw [decodeLossy.eq_def]
  simp [ha, hb, two]

theorem decodeLossy_three (ha : ¬a < 0xE0) (hb : mayFollow a b) (hc : isContinuation c)
    (three : a < 0xF0) (rest : List UInt8) :
    decodeLossy (a :: b :: c :: rest) = char3 a b c :: decodeLossy rest := by
  have one : ¬a < 0x80 := fun h => ha (UInt8.lt_trans h (by decide))
  rw [decodeLossy.eq_def]
  simp [one, ha, hb, hc, three]

theorem decodeLossy_four (ha : ¬a < 0xF0) (hb : mayFollow a b) (hc : isContinuation c)
    (hd : isContinuation d) (rest : List UInt8) :
    decodeLossy (a :: b :: c :: d :: rest) = char4 a b c d :: decodeLossy rest := by
  have one : ¬a < 0x80 := fun h => ha (UInt8.lt_trans h (by decide))
  have two : ¬a < 0xE0 := fun h => ha (UInt8.lt_trans h (by decide))
  rw [decodeLossy.eq_def]
  simp [one, two, ha, hb, hc, hd]

theorem isContinuation_iff : isContinuation a ↔ 0x80 ≤ a.toNat ∧ a.toNat ≤ 0xBF := by
  simp [isContinuation, UInt8.le_iff_toNat_le]

theorem mayFollow_iff : mayFollow a b ↔
    0xC2 ≤ a.toNat ∧ a.toNat ≤ 0xF4 ∧ 0x80 ≤ b.toNat ∧ b.toNat ≤ 0xBF ∧
      (a.toNat = 0xE0 → 0xA0 ≤ b.toNat) ∧ (a.toNat = 0xED → b.toNat ≤ 0x9F) ∧
      (a.toNat = 0xF0 → 0x90 ≤ b.toNat) ∧ (a.toNat = 0xF4 → b.toNat ≤ 0x8F) := by
  unfold mayFollow isContinuation
  simp only [UInt8.lt_iff_toNat_lt, UInt8.le_iff_toNat_le, ← UInt8.toNat_inj]
  grind

theorem decodeLossy_utf8EncodeChar_append (c : Char) (rest : List UInt8) :
    decodeLossy (String.utf8EncodeChar c ++ rest) = c :: decodeLossy rest := by
  -- The surrogates are no characters, so the second byte after ED and F4 is low enough.
  have valid : c.val.toNat < 0xD800 ∨ 0xDFFF < c.val.toNat ∧ c.val.toNat < 0x110000 := c.valid
  have same {n : Nat} (h : n = c.val.toNat) : Char.ofNat n = c := h ▸ Char.ofNat_toNat c
  rw [String.utf8EncodeChar]
  generalize c.val.toNat = v at valid same
  split
  · rw [List.singleton_append, decodeLossy_one, same]
    · simp; omega
    · simp [UInt8.lt_iff_toNat_lt]; omega
  split
  · rw [List.cons_append, List.singleton_append, decodeLossy_two, char2, same]
    · simp [payload]; omega
    · simp [UInt8.lt_iff_toNat_lt]; omega
    · simp [mayFollow_iff]; omega
    · simp [UInt8.lt_iff_toNat_lt]; omega
  split
  · rw [List.cons_append, List.cons_append, List.singleton_append, decodeLossy_three, char3, same]
    · simp [payload]; omega
    · simp [UInt8.lt_iff_toNat_lt]; omega
    · simp [mayFollow_iff]; omega
    · simp [isContinuation_iff]; omega
    · simp [UInt8.lt_iff_toNat_lt]; omega
  · rw [List.cons_append, List.cons_append, List.cons_append, List.singleton_append,
      decodeLossy_four, char4, same]
    · simp [payload]; omega
    · simp [UInt8.lt_iff_toNat_lt]; omega
    · simp [mayFollow_iff]; omega
    · simp [isContinuation_iff]; omega
    · simp [isContinuation_iff]; omega

theorem decodeLossy_encode (cs : List Char) : decodeLossy (encode cs) = cs := by
  induction cs with
  | nil => rfl
  | cons c cs ih => rw [encode, List.flatMap_cons, decodeLossy_utf8EncodeChar_append, ← encode, ih]

end Telemetry.Text.Utf8
