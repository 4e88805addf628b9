import Telemetry.Text.Blank

/-!
Classes of characters as a pattern describes them, and which characters they hold. What is known of
the characters beyond ASCII is left to the dialect.
-/

namespace Telemetry.Pattern

/-- What a dialect of patterns knows of the characters. -/
class Dialect where
  /-- The characters with a property, which is given by its name, or by its name and a value. -/
  property? : String → Option String → Option (Char → Bool)
  isDigit : Char → Bool
  isWord : Char → Bool
  isLetter : Char → Bool
  isNumber : Char → Bool
  /-- A character and all that differ from it by case only. -/
  variants : Char → List Char

inductive SetOp
  | intersection
  | difference
  | symmetricDifference
deriving DecidableEq, Repr

def SetOp.holds : SetOp → Bool → Bool → Bool
  | .intersection, a, b => a && b
  | .difference, a, b => a && !b
  | .symmetricDifference, a, b => a != b

inductive CharClass
  | nothing
  | range (first last : Char)
  | property (name : String) (value : Option String)
  | digit
  | word
  | blank
  | union (a b : CharClass)
  | combine (op : SetOp) (a b : CharClass)
  | complement (a : CharClass)
  | folded (a : CharClass)
  | foldedAscii (a : CharClass)
deriving DecidableEq, Repr

namespace CharClass

def single (c : Char) : CharClass := .range c c

def ofRanges : List (Char × Char) → CharClass
  | [] => .nothing
  | [(a, b)] => .range a b
  | (a, b) :: rest => .union (.range a b) (ofRanges rest)

/-- Every character there is. -/
def any : CharClass := .complement .nothing

def negatedIf (negated : Bool) (a : CharClass) : CharClass :=
  if negated then .complement a else a

/-- The ASCII letter of the other case, if `c` is an ASCII letter. -/
def swapCaseAscii (c : Char) : Char :=
  let n := c.toNat
  if 0x41 ≤ n ∧ n ≤ 0x5A then Char.ofNat (n + 0x20)
  else if 0x61 ≤ n ∧ n ≤ 0x7A then Char.ofNat (n - 0x20)
  else c

variable [Dialect]

def contains : CharClass → Char → Bool
  | .nothing, _ => false
  | .range a b, c => a.toNat ≤ c.toNat && c.toNat ≤ b.toNat
  | .property name value, c => (Dialect.property? name value).any (· c)
  | .digit, c => Dialect.isDigit c
  | .word, c => Dialect.isWord c
  | .blank, c => Text.isBlank c
  | .union a b, c => a.contains c || b.contains c
  | .combine op a b, c => op.holds (a.contains c) (b.contains c)
  | .complement a, c => !a.contains c
  | .folded a, c => (Dialect.variants c).any a.contains
  | .foldedAscii a, c => a.contains c || a.contains (swapCaseAscii c)

def asciiDigit : CharClass := .range '0' '9'

def asciiBlank : CharClass := ofRanges [('\t', '\r'), (' ', ' ')]

def asciiWord : CharClass := ofRanges [('0', '9'), ('A', 'Z'), ('_', '_'), ('a', 'z')]

/-- The ASCII classes that are written by name within a class. -/
def asciiNamed? : String → Option CharClass
  | "alnum" => some (ofRanges [('0', '9'), ('A', 'Z'), ('a', 'z')])
  | "alpha" => some (ofRanges [('A', 'Z'), ('a', 'z')])
  | "ascii" => some (.range '\x00' '\x7f')
  | "blank" => some (ofRanges [('\t', '\t'), (' ', ' ')])
  | "cntrl" => some (ofRanges [('\x00', '\x1f'), ('\x7f', '\x7f')])
  | "digit" => some asciiDigit
  | "graph" => some (.range '!' '~')
  | "lower" => some (.range 'a' 'z')
  | "print" => some (.range ' ' '~')
  | "punct" => some (ofRanges [('!', '/'), (':', '@'), ('[', '\x60'), ('\x7b', '~')])
  | "space" => some asciiBlank
  | "upper" => some (.range 'A' 'Z')
  | "word" => some asciiWord
  | "xdigit" => some (ofRanges [('0', '9'), ('A', 'F'), ('a', 'f')])
  | _ => none

/-- Whether all characters of the class are ASCII, for classes made of ASCII characters. -/
def isAscii (a : CharClass) : Bool := !a.contains '\u0080'

end CharClass

end Telemetry.Pattern
