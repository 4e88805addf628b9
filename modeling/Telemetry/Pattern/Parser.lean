import Telemetry.Pattern.Basic

/-!
The written form of patterns. A pattern is read from left to right by a machine that keeps the
groups and classes still open.
-/

namespace Telemetry.Pattern

structure Flags where
  ignoreCase : Bool
  multiLine : Bool
  dotAll : Bool
  swapGreed : Bool
  unicode : Bool
  crlf : Bool
  verbose : Bool
deriving DecidableEq, Repr

namespace Flags

def default : Flags := ⟨false, false, false, false, true, false, false⟩

/-- Sets the flag of a letter. -/
def set? (f : Flags) (letter : Char) (on : Bool) : Option Flags :=
  match letter with
  | 'i' => some { f with ignoreCase := on }
  | 'm' => some { f with multiLine := on }
  | 's' => some { f with dotAll := on }
  | 'U' => some { f with swapGreed := on }
  | 'u' => some { f with unicode := on }
  | 'R' => some { f with crlf := on }
  | 'x' => some { f with verbose := on }
  | _ => none

def fold (f : Flags) (cls : CharClass) : CharClass :=
  if f.ignoreCase then (if f.unicode then .folded cls else .foldedAscii cls) else cls

end Flags

/-- A pattern, and how deep its syntax nests. -/
structure Part where
  pattern : Pattern
  depth : Nat
  /-- Whether a repetition may follow. -/
  repeatable : Bool

variable [Dialect]

namespace Parser

/-- In verbose mode blanks and comments between the parts of a pattern do not count. -/
def skipBlanks (verbose : Bool) : List Char → List Char :=
  if verbose then go false else id
where
  go (comment : Bool) : List Char → List Char
    | [] => []
    | c :: cs =>
      if comment then go (c != '\n') cs
      else if Text.isBlank c then go false cs
      else if c = '#' then go true cs
      else c :: cs

def isHex (c : Char) : Bool :=
  ('0' ≤ c && c ≤ '9') || ('a' ≤ c && c ≤ 'f') || ('A' ≤ c && c ≤ 'F')

def hexValue (c : Char) : Nat :=
  if c ≤ '9' then c.toNat - 0x30 else if c ≤ 'F' then c.toNat - 0x37 else c.toNat - 0x57

/-- The character of a code point that is one. -/
def scalar? (n : Nat) : Option Char :=
  if n.isValidChar then some (Char.ofNat n) else none

def hexChar? (digits : List Char) : Option Char :=
  if digits = [] then none
  else scalar? (digits.foldl (fun n c => 16 * n + hexValue c) 0)

/-- What a backslash and the characters after it stand for. -/
inductive Escape
  | literal (c : Char) (byte : Bool)
  | look (l : Bool → Look)
  | perl (letter : Char)
  | property (negated : Bool) (cls : CharClass)

/-- `count` hexadecimal digits. -/
def fixedHex (verbose : Bool) : Nat → List Char → List Char → Option (List Char × List Char)
  | 0, seen, cs => some (seen.reverse, cs)
  | n + 1, seen, c :: cs =>
    if isHex c then fixedHex verbose n (c :: seen) (skipBlanks verbose cs) else none
  | _ + 1, _, [] => none

/-- The characters up to a closing brace, which is dropped. -/
def braced (verbose : Bool) : Nat → List Char → List Char → Option (List Char × List Char)
  | 0, _, _ => none
  | _ + 1, _, [] => none
  | n + 1, seen, c :: cs =>
    if c = '\x7d' then some (seen.reverse, cs)
    else braced verbose n (c :: seen) (skipBlanks verbose cs)

def hexEscape (verbose : Bool) (digits : Nat) (cs : List Char) :
    Option (Escape × List Char) :=
  match skipBlanks verbose cs with
  | '\x7b' :: r => do
    let (ds, r) ← braced verbose (r.length + 1) [] (skipBlanks verbose r)
    if ds.all isHex then
      let c ← hexChar? ds
      some (.literal c false, skipBlanks verbose r)
    else none
  | r => do
    let (ds, r) ← fixedHex verbose digits [] r
    let c ← hexChar? ds
    some (.literal c (digits = 2), r)

/-- The text before and after the first place where `sep` stands. -/
def splitAt? (sep : List Char) : List Char → Option (List Char × List Char)
  | [] => none
  | c :: cs =>
    if sep.isPrefixOf (c :: cs) then some ([], (c :: cs).drop sep.length)
    else (splitAt? sep cs).map fun (a, b) => (c :: a, b)

def propertyClass? (negated : Bool) (name : List Char) : Option Escape :=
  let known (negated : Bool) (name : List Char) (value : Option (List Char)) : Option Escape :=
    let name := String.ofList name
    let value := value.map String.ofList
    if (Dialect.property? name value).isSome then some (.property negated (.property name value))
    else none
  match splitAt? ['!', '='] name with
  | some (name, value) => known (!negated) name (some value)
  | none => match (splitAt? [':'] name).or (splitAt? ['='] name) with
    | some (name, value) => known negated name (some value)
    | none => known negated name none

def propertyEscape (verbose negated : Bool) (cs : List Char) : Option (Escape × List Char) :=
  match skipBlanks verbose cs with
  | [] | '\\' :: _ => none
  | '\x7b' :: r => do
    let (name, r) ← braced verbose (r.length + 1) [] (skipBlanks verbose r)
    (propertyClass? negated name).map (·, r)
  | c :: r => (propertyClass? negated [c]).map (·, skipBlanks verbose r)

def isBoundaryName (c : Char) : Bool :=
  ('A' ≤ c && c ≤ 'Z') || ('a' ≤ c && c ≤ 'z') || c = '-'

def boundaryName (verbose : Bool) : Nat → List Char → List Char → List Char × List Char
  | 0, seen, cs => (seen.reverse, cs)
  | n + 1, seen, c :: cs =>
    if isBoundaryName c then boundaryName verbose n (c :: seen) (skipBlanks verbose cs)
    else (seen.reverse, c :: cs)
  | _ + 1, seen, [] => (seen.reverse, [])

/-- A word boundary, of the kind that a name in braces after it asks for. -/
def boundaryEscape (verbose : Bool) (cs : List Char) : Option (Escape × List Char) :=
  match cs with
  | '\x7b' :: r =>
    match skipBlanks verbose r with
    | [] => none
    | c :: r =>
      if !isBoundaryName c then some (.look .wordBoundary, cs)
      else match boundaryName verbose (r.length + 1) [] (c :: r) with
        | (name, '\x7d' :: r) =>
          match String.ofList name with
          | "start" => some (.look .wordStart, r)
          | "end" => some (.look .wordEnd, r)
          | "start-half" => some (.look .wordStartHalf, r)
          | "end-half" => some (.look .wordEndHalf, r)
          | _ => none
        | _ => none
  | _ => some (.look .wordBoundary, cs)

def isAsciiAlphanumeric (c : Char) : Bool :=
  ('0' ≤ c && c ≤ '9') || ('A' ≤ c && c ≤ 'Z') || ('a' ≤ c && c ≤ 'z')

/-- All ASCII characters but letters, digits and angles stand for themselves after a backslash. -/
def isEscapable (c : Char) : Bool :=
  c.toNat < 0x80 && !isAsciiAlphanumeric c && c != '<' && c != '>'

/-- Reads what follows a backslash. -/
def escape (verbose : Bool) : List Char → Option (Escape × List Char)
  | [] => none
  | c :: cs =>
    if isEscapable c then some (.literal c false, cs)
    else match c with
      | 'x' => hexEscape verbose 2 cs
      | 'u' => hexEscape verbose 4 cs
      | 'U' => hexEscape verbose 8 cs
      | 'p' => propertyEscape verbose false cs
      | 'P' => propertyEscape verbose true cs
      | 'd' | 's' | 'w' | 'D' | 'S' | 'W' => some (.perl c, cs)
      | 'a' => some (.literal '\x07' false, cs)
      | 'f' => some (.literal '\x0c' false, cs)
      | 't' => some (.literal '\t' false, cs)
      | 'n' => some (.literal '\n' false, cs)
      | 'r' => some (.literal '\r' false, cs)
      | 'v' => some (.literal '\x0b' false, cs)
      | 'A' => some (.look fun _ => .textStart, cs)
      | 'z' => some (.look fun _ => .textEnd, cs)
      | 'b' => boundaryEscape verbose cs
      | 'B' => some (.look .notWordBoundary, cs)
      | '<' => some (.look .wordStart, cs)
      | '>' => some (.look .wordEnd, cs)
      | _ => none

/-- The class of a letter such as d, or of its capital, which stands for all other characters. -/
def perlClass? (f : Flags) (letter : Char) : Option CharClass :=
  let pick (full ascii : CharClass) := if f.unicode then full else ascii
  match letter with
  | 'd' => some (pick .digit .asciiDigit)
  | 's' => some (pick .blank .asciiBlank)
  | 'w' => some (pick .word .asciiWord)
  | 'D' => if f.unicode then some (.complement .digit) else none
  | 'S' => if f.unicode then some (.complement .blank) else none
  | 'W' => if f.unicode then some (.complement .word) else none
  | _ => none

/-- Properties need the Unicode mode. -/
def propertyIn? (f : Flags) (negated : Bool) (cls : CharClass) : Option CharClass :=
  if f.unicode then some (.negatedIf negated (f.fold cls)) else none

/-! Classes in brackets -/

/-- A class still open: whether it is negated, what stands before its last set operation, and the
items after it with their depth. -/
structure Level where
  negated : Bool
  before : Option (SetOp × CharClass × Nat)
  items : List CharClass
  depth : Nat

def Level.union : List CharClass → CharClass
  | [] => .nothing
  | [a] => a
  | a :: rest => .union a (Level.union rest)

/-- The items read so far as one class; two or more make a union. -/
def Level.operand (l : Level) : CharClass × Nat :=
  (Level.union l.items, if 2 ≤ l.items.length then l.depth + 1 else l.depth)

/-- All that was read so far as one class. -/
def Level.whole (f : Flags) (l : Level) : CharClass × Nat :=
  let (right, depth) := l.operand
  match l.before with
  | none => (right, depth)
  | some (op, left, leftDepth) =>
    (.combine op (f.fold left) (f.fold right), max leftDepth depth + 1)

def Level.push (l : Level) (cls : CharClass) (depth : Nat) : Level :=
  { l with items := l.items ++ [cls], depth := max l.depth depth }

/-- Without the Unicode mode a class must keep to ASCII. -/
def Level.close? (f : Flags) (l : Level) : Option (CharClass × Nat) :=
  let (cls, depth) := l.whole f
  let cls := CharClass.negatedIf l.negated (f.fold cls)
  if f.unicode || cls.isAscii then some (cls, depth + 1) else none

/-- Literal hyphens at the start of a class, and a closing bracket if there are none. -/
def openItems (verbose : Bool) : Nat → List CharClass → List Char →
    Option (List CharClass × List Char)
  | 0, _, _ => none
  | _ + 1, _, [] => none
  | n + 1, items, c :: cs =>
    let rest := skipBlanks verbose cs
    if c = '-' then openItems verbose n (items ++ [.single '-']) rest
    else if c = ']' ∧ items = [] then
      if rest = [] then none else some ([.single ']'], rest)
    else some (items, c :: cs)

/-- Reads what follows an opening bracket up to the first item. -/
def openClass (verbose : Bool) (cs : List Char) : Option (Level × List Char) :=
  let (negated, cs) := match skipBlanks verbose cs with
    | '^' :: r => (true, skipBlanks verbose r)
    | r => (false, r)
  (openItems verbose (cs.length + 1) [] cs).map fun (items, r) => (⟨negated, none, items, 0⟩, r)

/-- The name of an ASCII class between colons, as it follows an opening bracket, and whether the
class is negated. -/
def namedClass? (cs : List Char) : Option (Bool × CharClass × List Char) :=
  match cs with
  | ':' :: r => do
    let (negated, r) := match r with
      | '^' :: r => (true, r)
      | _ => (false, r)
    let (name, r) ← splitAt? [':'] r
    match r with
    | ']' :: r => (CharClass.asciiNamed? (String.ofList name)).map (negated, ·, r)
    | _ => none
  | _ => none

/-- One item of a class: a character that may begin a range, or a class of its own. -/
inductive Item
  | literal (c : Char)
  | cls (a : CharClass)

/-- Without the Unicode mode only ASCII characters may be named. -/
def classLiteral? (f : Flags) (c : Char) : Option Item :=
  if f.unicode || c.toNat < 0x80 then some (.literal c) else none

def classItem (f : Flags) : List Char → Option (Item × List Char)
  | [] => none
  | '\\' :: cs => do
    match ← escape f.verbose cs with
    | (.literal c _, r) => (classLiteral? f c).map (·, r)
    | (.look _, _) => none
    | (.perl letter, r) => (perlClass? f letter).map (.cls ·, r)
    | (.property negated cls, r) => (propertyIn? f negated cls).map (.cls ·, r)
  | c :: cs => (classLiteral? f c).map (·, cs)

def Item.toClass : Item → CharClass
  | .literal c => .single c
  | .cls a => a

/-- An item, or the range from one character to another. -/
def classRange (f : Flags) (cs : List Char) : Option (CharClass × List Char) := do
  let (first, r) ← classItem f cs
  let r := skipBlanks f.verbose r
  match r with
  | [] => none
  | '-' :: r' =>
    match skipBlanks f.verbose r' with
    | [] => none
    | ']' :: _ | '-' :: _ => some (first.toClass, r)
    | r'' =>
      let (last, rest) ← classItem f r''
      match first, last with
      | .literal a, .literal b => if a ≤ b then some (.range a b, rest) else none
      | _, _ => none
  | _ => some (first.toClass, r)

def setOp? : List Char → Option (SetOp × List Char)
  | '&' :: '&' :: r => some (.intersection, r)
  | '-' :: '-' :: r => some (.difference, r)
  | '~' :: '~' :: r => some (.symmetricDifference, r)
  | _ => none

/-- Reads the rest of the innermost class `level` and of all the classes it stands in. -/
def classRest (f : Flags) : Nat → Level → List Level → List Char →
    Option (CharClass × Nat × List Char)
  | 0, _, _, _ => none
  | n + 1, level, outer, cs =>
    match skipBlanks f.verbose cs with
    | [] => none
    | '[' :: r =>
      match namedClass? r with
      | some (negated, cls, r) =>
        if negated && !f.unicode then none
        else classRest f n (level.push (.negatedIf negated (f.fold cls)) 0) outer r
      | none => do
        let (inner, r) ← openClass f.verbose r
        classRest f n inner (level :: outer) r
    | ']' :: r => do
      let (cls, depth) ← level.close? f
      match outer with
      | [] => some (cls, depth, r)
      | parent :: outer => classRest f n (parent.push cls depth) outer r
    | cs =>
      match setOp? cs with
      | some (op, r) =>
        let (left, depth) := level.whole f
        classRest f n ⟨level.negated, some (op, left, depth), [], 0⟩ outer r
      | none => do
        let (cls, r) ← classRange f cs
        classRest f n (level.push cls 0) outer r

/-- Reads what follows the opening bracket of a class. -/
def bracketClass (f : Flags) (cs : List Char) : Option (CharClass × Nat × List Char) := do
  let (level, r) ← openClass f.verbose cs
  classRest f (2 * r.length + 1) level [] r

/-! Groups -/

/-- The alternatives of a group that were read so far, the latest first. -/
structure Branches where
  finished : List Part
  items : List Part

def Branches.empty : Branches := ⟨[], []⟩

def Part.empty : Part := ⟨.empty, 0, false⟩

def sequence : List Pattern → Pattern
  | [] => .empty
  | [p] => p
  | p :: ps => .seq p (sequence ps)

def alternatives : List Pattern → Pattern
  | [] => .empty
  | [p] => p
  | p :: ps => .alt p (alternatives ps)

/-- Two or more parts in a row, or side by side, nest one level deeper than each of them. -/
def joinDepth (parts : List Part) : Nat :=
  let deepest := (parts.map Part.depth).foldl max 0
  if 2 ≤ parts.length then deepest + 1 else deepest

def Branches.branch (b : Branches) : Part :=
  ⟨sequence (b.items.reverse.map Part.pattern), joinDepth b.items, true⟩

def Branches.whole (b : Branches) : Part :=
  let parts := b.branch :: b.finished
  ⟨alternatives (parts.reverse.map Part.pattern), joinDepth parts, true⟩

def Branches.push (b : Branches) (p : Part) : Branches := { b with items := p :: b.items }

structure State where
  flags : Flags
  level : Branches
  /-- The groups around the current one, with the flags to go back to. -/
  outer : List (Flags × Branches)
  names : List (List Char)

def State.start : State := ⟨.default, .empty, [], []⟩

def State.push (s : State) (p : Pattern) (depth : Nat) : State :=
  { s with level := s.level.push ⟨p, depth, true⟩ }

/-- Opens a group in which the flags are `f`. -/
def State.enter (s : State) (f : Flags) : State :=
  ⟨f, .empty, (s.flags, s.level) :: s.outer, s.names⟩

/-- Closes the innermost group. -/
def State.leave? (s : State) : Option State :=
  match s.outer with
  | [] => none
  | (f, level) :: outer =>
    let inner := s.level.whole
    some ⟨f, level.push ⟨.group inner.pattern, inner.depth + 1, true⟩, outer, s.names⟩

/-- Letters of flags up to a colon or a closing parenthesis, each at most once and with at most one
hyphen, which may not be the last. The flags must be given in `seen` order, latest first. -/
def flagLetters : List Char → List Char → Option (List Char × List Char)
  | _, [] => none
  | seen, c :: cs =>
    if c = ':' ∨ c = ')' then
      if seen.head? = some '-' then none else some (seen.reverse, c :: cs)
    else if seen.contains c then none
    else if c = '-' ∨ (Flags.default.set? c true).isSome then flagLetters (c :: seen) cs
    else none

/-- Sets the flags before the hyphen and clears those behind it. -/
def applyFlags (f : Flags) (letters : List Char) : Flags :=
  let go := fun (state : Flags × Bool) (c : Char) =>
    if c = '-' then (state.1, false) else ((state.1.set? c state.2).getD state.1, state.2)
  (letters.foldl go (f, true)).1

def isNameStart (c : Char) : Bool := c = '_' || Dialect.isLetter c

def isNameRest (c : Char) : Bool :=
  c = '_' || c = '.' || c = '[' || c = ']' || Dialect.isLetter c || Dialect.isNumber c

/-- The name of a group up to a closing angle, which is dropped. -/
def groupName? (cs : List Char) : Option (List Char × List Char) := do
  let (name, r) ← splitAt? ['>'] cs
  match name with
  | [] => none
  | c :: rest => if isNameStart c && rest.all isNameRest then some (name, r) else none

def startsLookaround (cs : List Char) : Bool :=
  [['?', '='], ['?', '!'], ['?', '<', '='], ['?', '<', '!']].any (·.isPrefixOf cs)

/-- Reads what follows an opening parenthesis: the start of a group, or flags for what follows. -/
def openGroup (s : State) (cs : List Char) : Option (State × List Char) :=
  let cs := skipBlanks s.flags.verbose cs
  let named (r : List Char) : Option (State × List Char) := do
    let (name, r) ← groupName? r
    if s.names.contains name then none
    else some ({ s.enter s.flags with names := name :: s.names }, r)
  if startsLookaround cs then none
  else match cs with
    | '?' :: 'P' :: '<' :: r => named r
    | '?' :: '<' :: r => named r
    | '?' :: r => do
      match ← flagLetters [] r with
      | (letters, ':' :: r) => some (s.enter (applyFlags s.flags letters), r)
      | (letters, _ :: r) =>
        if letters = [] then none
        else
          let flags := applyFlags s.flags letters
          some ({ s with flags := flags, level := s.level.push Part.empty }, r)
      | (_, []) => none
    | r => some (s.enter s.flags, r)

/-! Repetitions -/

/-- Replaces the last part by its repetition. -/
def State.repeatLast? (s : State) (least : Nat) (most : Option Nat) : Option State :=
  match s.level.items with
  | p :: items =>
    if p.repeatable then
      let r : Part := ⟨.repeated p.pattern least most, p.depth + 1, true⟩
      some { s with level := ⟨s.level.finished, r :: items⟩ }
    else none
  | [] => none

def dropQuestion : List Char → List Char
  | '?' :: cs => cs
  | cs => cs

/-- Digits, with blanks before and after them, read as a number below 2 ^ 32. -/
def decimal? (verbose : Bool) (cs : List Char) : Option (Nat × List Char) :=
  let cs := cs.dropWhile Text.isBlank
  let (digits, r) := go (cs.length + 1) [] cs
  let n := digits.foldl (fun n c => 10 * n + (c.toNat - 0x30)) 0
  if digits = [] ∨ UInt32.size ≤ n then none
  else some (n, skipAll (r.length + 1) r)
where
  go : Nat → List Char → List Char → List Char × List Char
    | 0, seen, cs => (seen.reverse, cs)
    | n + 1, seen, c :: cs =>
      if '0' ≤ c ∧ c ≤ '9' then go n (c :: seen) (skipBlanks verbose cs)
      else (seen.reverse, c :: cs)
    | _ + 1, seen, [] => (seen.reverse, [])
  skipAll : Nat → List Char → List Char
    | 0, cs => cs
    | n + 1, c :: cs => if Text.isBlank c then skipAll n (skipBlanks verbose cs) else c :: cs
    | _ + 1, [] => []

/-- Reads what follows an opening brace: the bounds of a repetition. -/
def bounds? (verbose : Bool) (cs : List Char) : Option (Nat × Option Nat × List Char) := do
  let (least, r) ← decimal? verbose (skipBlanks verbose cs)
  let (most, r) ← match r with
    | ',' :: r =>
      match skipBlanks verbose r with
      | [] => none
      | '\x7d' :: r => some (none, '\x7d' :: r)
      | r => (decimal? verbose r).map fun (n, r) => (some n, r)
    | r => some (some least, r)
  match r with
  | '\x7d' :: r =>
    if most.all (least ≤ ·) then some (least, most, dropQuestion (skipBlanks verbose r)) else none
  | _ => none

/-! The machine -/

def literalClass (f : Flags) (c : Char) : CharClass := f.fold (.single c)

def dotClass (f : Flags) : CharClass :=
  if f.dotAll then .any
  else if f.crlf then .complement (.union (.single '\r') (.single '\n'))
  else .complement (.single '\n')

def caretLook (f : Flags) : Look :=
  if f.multiLine then (if f.crlf then .lineStartCrlf else .lineStart) else .textStart

def dollarLook (f : Flags) : Look :=
  if f.multiLine then (if f.crlf then .lineEndCrlf else .lineEnd) else .textEnd

/-- A byte beyond ASCII is no character. -/
def pushEscape? (s : State) : Escape → Option State
  | .literal c byte =>
    if byte && !s.flags.unicode && 0x80 ≤ c.toNat then none
    else some (s.push (.char (literalClass s.flags c)) 0)
  | .look l => some (s.push (.look (l !s.flags.unicode)) 0)
  | .perl letter => (perlClass? s.flags letter).map fun cls => s.push (.char cls) 0
  | .property negated cls =>
    (propertyIn? s.flags negated cls).map fun cls => s.push (.char cls) 0

/-- Reads one part of a pattern, which begins with `c`. -/
def step (s : State) (c : Char) (cs : List Char) : Option (State × List Char) :=
  match c with
  | '(' => openGroup s cs
  | ')' => s.leave?.map (·, cs)
  | '|' => some ({ s with level := ⟨s.level.branch :: s.level.finished, []⟩ }, cs)
  | '[' => do
    let (cls, depth, r) ← bracketClass s.flags cs
    some (s.push (.char cls) depth, r)
  | '?' => (s.repeatLast? 0 (some 1)).map (·, dropQuestion cs)
  | '*' => (s.repeatLast? 0 none).map (·, dropQuestion cs)
  | '+' => (s.repeatLast? 1 none).map (·, dropQuestion cs)
  | '\x7b' => do
    let (least, most, r) ← bounds? s.flags.verbose cs
    (s.repeatLast? least most).map (·, r)
  | '\\' => do
    let (e, r) ← escape s.flags.verbose cs
    (pushEscape? s e).map (·, r)
  | '.' => if s.flags.unicode then some (s.push (.char (dotClass s.flags)) 0, cs) else none
  | '^' => some (s.push (.look (caretLook s.flags)) 0, cs)
  | '$' => some (s.push (.look (dollarLook s.flags)) 0, cs)
  | c => some (s.push (.char (literalClass s.flags c)) 0, cs)

def run : Nat → State → List Char → Option State
  | 0, _, _ => none
  | n + 1, s, cs =>
    match skipBlanks s.flags.verbose cs with
    | [] => some s
    | c :: cs => do
      let (s, r) ← step s c cs
      run n s r

end Parser

/-- The part that a text describes, if it is well formed. -/
def read? (cs : List Char) : Option Part := do
  let s ← Parser.run (cs.length + 1) .start cs
  if s.outer = [] then some s.level.whole else none

end Telemetry.Pattern
