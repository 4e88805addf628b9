import Telemetry.Name.Node
import Telemetry.Proofs.Text.Utf8

/-!
Escaping keeps texts apart: the bytes of a text can be read back from its triplets, and the node of
the empty text is no other text's. So the text itself can be read back from its node.
-/

namespace Telemetry

namespace Text

namespace Percent

theorem hexValue?_hexDigitUpper {n : Nat} (h : n < 16) :
    hexValue? (hexDigitUpper n) = some n := by
  have : ∀ n : Fin 16, hexValue? (hexDigitUpper n) = some n.val := by decide
  exact this ⟨n, h⟩

theorem decodeBytes_cons_of_ne {c : Char} (h : c ≠ '%') (rest : List Char) :
    decodeBytes (c :: rest) = String.utf8EncodeChar c ++ decodeBytes rest := by
  rw [decodeBytes]
  intro _ _ _ hc
  exact absurd hc h

theorem decodeBytes_triplet_append (b : UInt8) (rest : List Char) :
    decodeBytes (triplet b ++ rest) = b :: decodeBytes rest := by
  have hb : b.toNat < 256 := b.toNat_lt
  have value : UInt8.ofNat (b.toNat / 16 * 16 + b.toNat % 16) = b := by
    rw [Nat.div_add_mod', UInt8.ofNat_toNat]
  simp only [triplet, List.cons_append, List.nil_append, decodeBytes,
    hexValue?_hexDigitUpper (show b.toNat / 16 < 16 by omega),
    hexValue?_hexDigitUpper (show b.toNat % 16 < 16 by omega), value]

theorem decodeBytes_triplets_append (bs : List UInt8) (rest : List Char) :
    decodeBytes (bs.flatMap triplet ++ rest) = bs ++ decodeBytes rest := by
  induction bs with
  | nil => rfl
  | cons b bs ih =>
    rw [List.flatMap_cons, List.append_assoc, decodeBytes_triplet_append, ih, List.cons_append]

theorem ne_percent_of_isLiteral {c : Char} (h : isLiteral c) : c ≠ '%' := by
  rintro rfl
  exact absurd h (by decide)

theorem decodeBytes_encodeChar_append (c : Char) (rest : List Char) :
    decodeBytes (encodeChar c ++ rest) = String.utf8EncodeChar c ++ decodeBytes rest := by
  unfold encodeChar
  split
  · next h => exact decodeBytes_cons_of_ne (ne_percent_of_isLiteral h) rest
  · exact decodeBytes_triplets_append _ rest

/-- The bytes of a text can be read back from its encoding. -/
theorem decodeBytes_encode (cs : List Char) : decodeBytes (encode cs) = Utf8.encode cs := by
  induction cs with
  | nil => rfl
  | cons c cs ih =>
    rw [encode, List.flatMap_cons, decodeBytes_encodeChar_append, ← encode, ih, Utf8.encode,
      Utf8.encode, List.flatMap_cons]

@[simp] theorem decode_encode (cs : List Char) : decode (encode cs) = cs := by
  rw [decode, decodeBytes_encode, Utf8.decodeLossy_encode]

theorem encode_injective {cs ds : List Char} (h : encode cs = encode ds) : cs = ds := by
  simpa using congrArg decode h

/-- A percent sign alone is the encoding of no text. -/
theorem encode_ne_percent (cs : List Char) : encode cs ≠ ['%'] := by
  intro h
  cases cs with
  | nil => simp [encode] at h
  | cons c cs =>
    rw [encode, List.flatMap_cons, encodeChar] at h
    split at h
    · next hl => exact ne_percent_of_isLiteral hl (List.cons.inj h).1
    · cases hb : String.utf8EncodeChar c with
      | nil => exact String.utf8EncodeChar_ne_nil hb
      | cons b bs => simp [hb, triplet] at h

end Percent

end Text

namespace Node

theorem chars_escapeChars_ne_percent {c : Char} {cs : List Char} :
    (escapeChars (c :: cs)).chars ≠ ['%'] :=
  Text.Percent.encode_ne_percent (c :: cs)

theorem escapeChars_injective {cs ds : List Char} (h : escapeChars cs = escapeChars ds) :
    cs = ds := by
  have hc := congrArg chars h
  cases cs with
  | nil =>
    cases ds with
    | nil => rfl
    | cons d ds => exact absurd hc.symm chars_escapeChars_ne_percent
  | cons c cs =>
    cases ds with
    | nil => exact absurd hc chars_escapeChars_ne_percent
    | cons d ds => exact Text.Percent.encode_injective hc

theorem escape_injective {s t : String} (h : escape s = escape t) : s = t :=
  String.toList_inj.mp (escapeChars_injective h)

theorem parse_text (n : Node) : parse n.text = .ok n := by
  have sound : fault? n.chars = none := fault?_eq_none_iff.mpr n.isNodeChar_of_mem
  rw [parse, text, String.toList_ofList, ofChars, dif_neg n.chars_ne_nil]
  split
  · next e he => rw [sound] at he; cases he
  · rfl

@[simp] theorem unescapeChars_escapeChars (cs : List Char) :
    (escapeChars cs).unescapeChars = cs := by
  cases cs with
  | nil => rfl
  | cons c cs =>
    rw [unescapeChars, if_neg chars_escapeChars_ne_percent]
    exact Text.Percent.decode_encode (c :: cs)

@[simp] theorem unescape_escape (s : String) : (escape s).unescape = s := by
  rw [unescape, escape, unescapeChars_escapeChars, String.ofList_toList]

theorem visible_of_mem_escapeChars {cs : List Char} {c : Char} (h : c ∈ (escapeChars cs).chars) :
    0x21 ≤ c.toNat ∧ c.toNat ≤ 0x7E ∧ c ≠ '.' := by
  have written : Text.Percent.isLiteral c ∨ c = '%' := by
    cases cs with
    | nil => exact .inr (List.mem_singleton.mp h)
    | cons d cs => exact Text.Percent.isLiteral_or_of_mem_encode h
  rcases written with hl | rfl
  · simp only [Text.Percent.isLiteral, Bool.and_eq_true, decide_eq_true_eq, bne_iff_ne] at hl
    exact ⟨hl.1.1.1, hl.1.1.2, hl.1.2⟩
  · decide

theorem text_escape_eq_percent_iff (s : String) : (escape s).text = "%" ↔ s = "" := by
  constructor
  · intro h
    have single : (escape s).chars = ['%'] := by simpa [text] using congrArg String.toList h
    cases hs : s.toList with
    | nil => exact String.toList_inj.mp hs
    | cons c cs =>
      rw [escape, hs] at single
      exact absurd single chars_escapeChars_ne_percent
  · rintro rfl
    rfl

/-- The node of a text is visible ASCII without a dot, reads as a node and gives the text back. -/
theorem escape_faithful (s : String) :
    (escape s).chars ≠ [] ∧ (∀ c ∈ (escape s).chars, 0x21 ≤ c.toNat ∧ c.toNat ≤ 0x7E ∧ c ≠ '.') ∧
      parse (escape s).text = .ok (escape s) ∧ (escape s).unescape = s ∧
      (∀ t, escape t = escape s ↔ t = s) ∧ ((escape s).text = "%" ↔ s = "") := by
  refine ⟨(escape s).chars_ne_nil, fun _ => visible_of_mem_escapeChars, parse_text _, ?_,
    fun t => ⟨escape_injective, fun h => h ▸ rfl⟩, text_escape_eq_percent_iff s⟩
  rw [unescape, escape, unescapeChars_escapeChars, String.ofList_toList]

end Node

end Telemetry
