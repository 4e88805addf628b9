import Telemetry.Pattern.CharClass

/-!
Patterns of text, and what they match. A pattern is matched on sets of positions: `ends` takes the
positions where a match may begin to those where it may end.
-/

namespace Telemetry

inductive Look
  | textStart
  | textEnd
  | lineStart
  | lineEnd
  | lineStartCrlf
  | lineEndCrlf
  | wordBoundary (ascii : Bool)
  | notWordBoundary (ascii : Bool)
  | wordStart (ascii : Bool)
  | wordEnd (ascii : Bool)
  | wordStartHalf (ascii : Bool)
  | wordEndHalf (ascii : Bool)
deriving DecidableEq, Repr

inductive Pattern
  | empty
  | char (cls : Pattern.CharClass)
  | look (l : Look)
  | group (p : Pattern)
  | seq (p q : Pattern)
  | alt (p q : Pattern)
  | repeated (p : Pattern) (least : Nat) (most : Option Nat)
deriving DecidableEq, Repr

namespace Look

variable [Pattern.Dialect]

def isWord (ascii : Bool) (c : Option Char) : Bool :=
  c.any (if ascii then Pattern.CharClass.asciiWord else Pattern.CharClass.word).contains

/-- Whether the condition holds between the characters `before` and `after`, if there are any. -/
def holdsBetween (before after : Option Char) : Look → Bool
  | .textStart => before.isNone
  | .textEnd => after.isNone
  | .lineStart => before.isNone || before == some '\n'
  | .lineEnd => after.isNone || after == some '\n'
  | .lineStartCrlf =>
    before.isNone || before == some '\n' || (before == some '\r' && after != some '\n')
  | .lineEndCrlf =>
    after.isNone || after == some '\r' || (after == some '\n' && before != some '\r')
  | .wordBoundary a => isWord a before != isWord a after
  | .notWordBoundary a => isWord a before == isWord a after
  | .wordStart a => !isWord a before && isWord a after
  | .wordEnd a => isWord a before && !isWord a after
  | .wordStartHalf a => !isWord a before
  | .wordEndHalf a => !isWord a after

def holdsAt (text : Array Char) (l : Look) (i : Nat) : Bool :=
  l.holdsBetween (if i = 0 then none else text[i - 1]?) text[i]?

end Look

namespace Pattern

/-- Sets of positions are lists in ascending order. -/
def insert (x : Nat) : List Nat → List Nat
  | [] => [x]
  | y :: ys => if x < y then x :: y :: ys else if x = y then y :: ys else y :: insert x ys

def union (xs ys : List Nat) : List Nat := xs.foldr insert ys

def minus (xs ys : List Nat) : List Nat := xs.filter fun x => !ys.contains x

/-- Exactly `n` steps; a set that a step leaves alone is the same after all further steps. -/
def times (step : List Nat → List Nat) : Nat → List Nat → List Nat
  | 0, s => s
  | n + 1, s => let t := step s; if t = s then s else times step n t

/-- What at most `n` steps from `frontier` reach, with all that is `reached` already. -/
def within (step : List Nat → List Nat) : Nat → List Nat → List Nat → List Nat
  | 0, _, reached => reached
  | n + 1, frontier, reached =>
    let fresh := minus (step frontier) reached
    if fresh = [] then reached else within step n fresh (union fresh reached)

variable [Dialect]

/-- Where the matches of a pattern that begin at one of the given positions end. -/
def ends (text : Array Char) : Pattern → List Nat → List Nat
  | .empty, s => s
  | .char cls, s => s.filterMap fun i => if text[i]?.any cls.contains then some (i + 1) else none
  | .look l, s => s.filter (l.holdsAt text)
  | .group p, s => ends text p s
  | .seq p q, s => ends text q (ends text p s)
  | .alt p q, s => union (ends text p s) (ends text q s)
  | .repeated p least most, s =>
    let start := times (ends text p) least s
    within (ends text p) (most.elim (text.size + 1) (· - least)) start start

/-- Whether some part of the text matches. -/
def matchesWithin (p : Pattern) (text : String) : Bool :=
  let cs := text.toList.toArray
  ends cs p (List.range (cs.size + 1)) != []

end Pattern

end Telemetry
