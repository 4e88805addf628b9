import Telemetry.Text.Blank
import Telemetry.Text.Percent

/-!
The nodes of a metric name. A node is never empty and holds no dot, blank or control character.
It comes from a text that already obeys these rules, or from any text at all, escaped.
-/

namespace Telemetry

/-- Why a text is no node or no name. -/
inductive NameError
  | emptyText
  | emptyNode (position : Nat)
  | separatorInNode
  | invalidChar (c : Char)
deriving DecidableEq, Repr

def NameError.message : NameError → String
  | .emptyText => "empty string"
  | .emptyNode i => "empty node at position " ++ toString i
  | .separatorInNode => "separator char '.' is not allowed in a single node"
  | .invalidChar c => "invalid char " ++ Text.quoteBlank c

def isNodeChar (c : Char) : Bool :=
  c != '.' && !Text.isControl c && !Text.isBlank c

structure Node where
  chars : List Char
  chars_ne_nil : chars ≠ []
  isNodeChar_of_mem : ∀ c ∈ chars, isNodeChar c
deriving DecidableEq

namespace Node

def text (n : Node) : String := String.ofList n.chars

def byteSize (n : Node) : Nat := n.text.utf8ByteSize

/-- Nodes are ordered as their texts, by code point. -/
instance : Ord Node := ⟨compareOn Node.chars⟩

instance : Std.TransOrd Node := inferInstanceAs (Std.TransCmp (compareOn Node.chars))

theorem eq_of_chars_eq {a b : Node} (h : a.chars = b.chars) : a = b := by
  cases a; cases b; cases h; rfl

instance : Std.LawfulEqOrd Node where
  compare_self := @Std.ReflCmp.compare_self _ (compareOn Node.chars) _
  eq_of_compare h := eq_of_chars_eq (Std.LawfulEqOrd.eq_of_compare h)

/-- The first character that may not stand in a node, as a fault. -/
def fault? : List Char → Option NameError
  | [] => none
  | c :: cs =>
    if c = '.' then some .separatorInNode
    else if Text.isControl c || Text.isBlank c then some (.invalidChar c)
    else fault? cs

theorem fault?_eq_none_iff {cs : List Char} : fault? cs = none ↔ ∀ c ∈ cs, isNodeChar c := by
  induction cs with
  | nil => simp [fault?]
  | cons c cs ih =>
    rw [List.forall_mem_cons, ← ih]
    by_cases hd : c = '.' <;> cases hc : Text.isControl c <;> cases hb : Text.isBlank c <;>
      simp [fault?, isNodeChar, hd, hc, hb]

def ofChars (cs : List Char) : Except NameError Node :=
  if h : cs = [] then .error .emptyText
  else match hf : fault? cs with
    | some e => .error e
    | none => .ok ⟨cs, h, fault?_eq_none_iff.mp hf⟩

def parse (s : String) : Except NameError Node := ofChars s.toList

theorem isNodeChar_of_isLiteral {c : Char} (h : Text.Percent.isLiteral c) : isNodeChar c := by
  simp only [Text.Percent.isLiteral, Bool.and_eq_true, decide_eq_true_eq, bne_iff_ne] at h
  obtain ⟨⟨⟨lo, hi⟩, dot⟩, -⟩ := h
  simp [isNodeChar, Text.isControl, Text.isBlank, dot]
  omega

theorem isNodeChar_of_mem_encode {cs : List Char} {c : Char}
    (h : c ∈ Text.Percent.encode cs) : isNodeChar c := by
  rcases Text.Percent.isLiteral_or_of_mem_encode h with hl | rfl
  · exact isNodeChar_of_isLiteral hl
  · decide

theorem encodeChar_ne_nil (c : Char) : Text.Percent.encodeChar c ≠ [] := by
  unfold Text.Percent.encodeChar
  split
  · simp
  · cases h : String.utf8EncodeChar c with
    | nil => exact absurd h String.utf8EncodeChar_ne_nil
    | cons b bs => simp [Text.Percent.triplet]

/--
The node of any text. The empty text becomes a single percent sign, which no other text does
because a percent sign is itself escaped.
-/
def escapeChars : List Char → Node
  | [] => ⟨['%'], by simp, fun _ h => by rw [List.mem_singleton.mp h]; decide⟩
  | c :: cs =>
    ⟨Text.Percent.encode (c :: cs), by simp [Text.Percent.encode, encodeChar_ne_nil],
      fun _ => isNodeChar_of_mem_encode⟩

def escape (s : String) : Node := escapeChars s.toList

def unescapeChars (n : Node) : List Char :=
  if n.chars = ['%'] then [] else Text.Percent.decode n.chars

/-- The text that was escaped. -/
def unescape (n : Node) : String := String.ofList n.unescapeChars

end Node

end Telemetry
