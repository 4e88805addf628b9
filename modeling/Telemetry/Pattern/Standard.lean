import Telemetry.Pattern.Engine
import Telemetry.Unicode.Folding
import Telemetry.Unicode.Named

/-!
The engine that is used where no other is named. Its dialect knows the properties that are kept in
tables. Counted repetitions are written out, so a short text may describe a very large pattern, and
one that is too large or nests too deep is refused.
-/

namespace Telemetry.Pattern

@[reducible] def Dialect.standard : Dialect where
  property? name value := (Unicode.property? name value).map Unicode.CharSet.contains
  isDigit := Unicode.CharSet.digit.contains
  isWord := Unicode.CharSet.word.contains
  isLetter := Unicode.Property.isAlphabetic
  isNumber := (Unicode.CharSet.ofCategories Unicode.Category.numbers).contains
  variants := Unicode.Folding.orbit

/-- About how many runs of characters a class consists of. -/
def CharClass.spread : CharClass → Nat
  | .nothing => 0
  | .range _ _ => 1
  | .property name value => (Unicode.property? name value).elim 0 Unicode.CharSet.spread
  | .digit => Unicode.CharSet.digit.spread
  | .word => Unicode.CharSet.word.spread
  | .blank => Unicode.CharSet.blank.spread
  | .union a b => a.spread + b.spread
  | .combine _ a b => max a.spread b.spread
  | .complement a => a.spread + 1
  | .folded a => 2 * a.spread
  | .foldedAscii a => 2 * a.spread

/-- The size of one automaton state, in bytes. -/
def stateSize : Nat := 32

def CharClass.weight : CharClass → Nat
  | .range a b =>
    if a = b then stateSize * a.utf8Size
    else if b.toNat < 0x80 then 2 * stateSize
    else 8 * stateSize
  | cls => 2 * stateSize + 40 * cls.spread

/-- Whether only the empty text can match. -/
def isWidthless : Pattern → Bool
  | .empty | .look _ => true
  | .char _ => false
  | .group p => p.isWidthless
  | .seq p q | .alt p q => p.isWidthless && q.isWidthless
  | .repeated p _ most => p.isWidthless || most == some 0

/-- The room for `n` copies, of which all but the first `least` may be left out. -/
def copiesWeight (weight least : Nat) : Option Nat → Nat
  | none => max least 1 * weight + 2 * stateSize
  | some n => n * weight + (n - least) * (stateSize + 8) + stateSize

/-- The room for a pattern. More than one copy of a pattern without width is never written out. -/
def weight : Pattern → Nat
  | .empty | .look _ => stateSize
  | .char cls => cls.weight
  | .group p => p.weight
  | .seq p q => p.weight + q.weight
  | .alt p q => p.weight + q.weight + stateSize + 8
  | .repeated p least most =>
    if p.isWidthless then copiesWeight p.weight (min least 1) (some (min (most.getD 1) 1))
    else copiesWeight p.weight least most

def weightLimit : Nat := 10 * 1024 * 1024

def nestLimit : Nat := 250

/-- Neither too deep nor too large. -/
def Part.Fits (p : Part) : Prop := p.depth ≤ nestLimit ∧ p.pattern.weight ≤ weightLimit

instance (p : Part) : Decidable p.Fits := inferInstanceAs (Decidable (_ ∧ _))

instance Engine.standard : Engine where
  toDialect := .standard
  Compiled := Pattern
  compile? source :=
    let _ := Dialect.standard
    (read? source.toList).bind fun p => if p.Fits then some p.pattern else none
  finds :=
    let _ := Dialect.standard
    matchesWithin

end Telemetry.Pattern
