import Telemetry.Yaml.Scalar
import Telemetry.Yaml.Token.Layout

/-!
Scalars: plain, between quotes, and in blocks of lines.
-/

namespace Telemetry.Yaml

/-- What line breaks between two parts of a scalar become: one a space, more the further ones. -/
structure Folding where
  text : List Char
  blanks : List Char
  broken : Bool
  further : List Char

namespace Folding

/-- The text is kept in reverse. -/
def start : Folding := ⟨[], [], false, []⟩

def lineBreak (f : Folding) : Folding :=
  if f.broken then { f with further := '\n' :: f.further }
  else { f with blanks := [], broken := true }

def join (f : Folding) : Folding :=
  if f.broken then
    ⟨(if f.further = [] then ' ' :: f.text else f.further ++ f.text), [], false, []⟩
  else ⟨f.further ++ f.blanks ++ f.text, [], false, []⟩

def push (f : Folding) (c : Char) : Folding := { f with text := c :: f.text }

def toString (f : Folding) : String := String.ofList f.text.reverse

end Folding

/-! Plain scalars -/

/-- Whether a plain scalar may go on with `c` before `next`. -/
def isPlain (flow : Bool) (c : Char) (next : Option Char) : Bool :=
  if c = ':' then !(isSpaceOrEnd next || (flow && next.any isFlow))
  else !(flow && isFlow c)

/-- The characters up to a blank or to where a plain scalar ends. -/
def plainWord (flow : Bool) : Nat → Folding → Cursor → Folding × Cursor
  | 0, f, c => (f, c)
  | n + 1, f, c =>
    match c.peek with
    | none => (f, c)
    | some x =>
      if isBlank x || isBreak x || !isPlain flow x (c.peekAt 1) then (f, c)
      else plainWord flow n (f.push x) c.skipChar

/-- The blanks and line breaks after a word. No tab may indent the text that follows. -/
def plainGap (indent : Int) : Nat → Folding → Cursor → Option (Folding × Cursor)
  | 0, f, c => some (f, c)
  | n + 1, f, c =>
    match c.peek with
    | none => some (f, c)
    | some x =>
      if isBlank x then
        if !c.atLineStart then plainGap indent n { f with blanks := x :: f.blanks } c.skipBlank
        else if (c.column : Int) < indent ∧ x = '\t' then do
          let k ← c.skipToEndOfLine false
          if isBreakOrEnd k.cursor.peek then plainGap indent n f k.cursor else none
        else plainGap indent n f c.skipBlank
      else if isBreak x then plainGap indent n f.lineBreak c.skipBreak
      else some (f, c)

def plainLines (flow : Bool) (indent : Int) : Nat → Folding → Cursor → Option (Folding × Cursor)
  | 0, _, _ => none
  | n + 1, f, c =>
    if (c.atLineStart && c.isDocumentMarker) || c.peek == some '#' then some (f, c)
    else if flow && c.peek == some '-' && (c.peekAt 1).any isFlow then none
    else
      let (g, d) := plainWord flow (c.rest.length + 1) f.join c
      let (f, c) := if d.index = c.index then (f, c) else (g, d)
      match c.peek with
      | none => some (f, c)
      | some x =>
        if isBlank x || isBreak x then do
          let (f, c) ← plainGap indent (c.rest.length + 1) f c
          if !flow && (c.column : Int) < indent then some (f, c)
          else plainLines flow indent n f c
        else some (f, c)

def Scanner.plainScalar (s : Scanner) : Option Scanner := do
  let s := s.saveKey.disallowKey.unrollOnes
  let indent := s.indent + 1
  let flow := decide (s.flowLevel > 0)
  if flow && s.column < indent then none
  else
    let (f, c) ← plainLines flow indent (s.cursor.rest.length + 1) .start s.cursor
    if f.text = [] then none
    else
      let scanned := { s with cursor := c }
      let scanned := if c.atLineStart then scanned.allowKey else scanned
      some (scanned.push (.scalar true f.toString) s.cursor.column)

/-! Scalars between quotes -/

/-- The characters that a single letter stands for after a backslash. -/
def escaped? : Char → Option Char
  | '0' => some '\x00'
  | 'a' => some '\x07'
  | 'b' => some '\x08'
  | 't' | '\t' => some '\t'
  | 'n' => some '\n'
  | 'v' => some '\x0b'
  | 'f' => some '\x0c'
  | 'r' => some '\r'
  | 'e' => some '\x1b'
  | ' ' => some ' '
  | '"' => some '"'
  | '/' => some '/'
  | '\\' => some '\\'
  | 'N' => some '\u0085'
  | '_' => some '\u00a0'
  | 'L' => some '\u2028'
  | 'P' => some '\u2029'
  | _ => none

/-- How many hexadecimal digits follow a letter after a backslash. -/
def escapeDigits? : Char → Option Nat
  | 'x' => some 2
  | 'u' => some 4
  | 'U' => some 8
  | _ => none

/-- The character that a backslash and what follows it stand for. -/
def escapeSequence (c : Cursor) : Option (Char × Cursor) := do
  let letter ← c.peekAt 1
  match escapeDigits? letter with
  | none => (escaped? letter).map (·, c.skipChars 2)
  | some n =>
    let c := c.skipChars 2
    let digits := c.rest.take n
    if digits.length < n then none
    else
      let code ← natOfBase? 16 digits
      if code.isValidChar then some (Char.ofNat code, c.skipChars n) else none

/-- The characters up to a blank, a line break or the closing quote. A backslash before a line break
joins the lines; the flag tells whether one did. -/
def quotedWord (single : Bool) : Nat → List Char → Cursor → Option (List Char × Cursor × Bool)
  | 0, text, c => some (text, c, false)
  | n + 1, text, c =>
    match c.peek with
    | none => some (text, c, false)
    | some x =>
      if isBlank x || isBreak x then some (text, c, false)
      else if single then
        if x = '\'' then
          if c.peekAt 1 = some '\'' then quotedWord single n ('\'' :: text) (c.skipChars 2)
          else some (text, c, false)
        else quotedWord single n (x :: text) c.skipChar
      else if x = '"' then some (text, c, false)
      else if x = '\\' then
        if (c.peekAt 1).any isBreak then some (text, c.skipChar.skipBreak, true)
        else do
          let (y, c) ← escapeSequence c
          quotedWord single n (y :: text) c
      else quotedWord single n (x :: text) c.skipChar

/-- The blanks and line breaks after a word. `joined` tells whether the lines are joined already. -/
def quotedGap (indent : Int) : Nat → Bool → Folding → Cursor → Option (Bool × Folding × Cursor)
  | 0, joined, f, c => some (joined, f, c)
  | n + 1, joined, f, c =>
    match c.peek with
    | none => some (joined, f, c)
    | some x =>
      if isBlank x then
        if joined || f.broken then
          if x = '\t' ∧ (c.column : Int) < indent then none
          else quotedGap indent n joined f c.skipBlank
        else quotedGap indent n joined { f with blanks := x :: f.blanks } c.skipBlank
      else if isBreak x then
        let f := if joined then { f with further := '\n' :: f.further } else f.lineBreak
        quotedGap indent n joined f c.skipBreak
      else some (joined, f, c)

def quotedLines (single : Bool) (indent : Int) : Nat → Folding → Cursor →
    Option (String × Cursor)
  | 0, _, _ => none
  | n + 1, f, c =>
    if c.column = 0 ∧ c.isDocumentMarker then none
    else if c.peek = none then none
    else if (c.column : Int) < indent then none
    else do
      let (text, c, joined) ← quotedWord single (c.rest.length + 1) f.text c
      let f := { f with text := text }
      if c.peek = some (if single then '\'' else '"') then some (f.toString, c.skipChar)
      else
        let (_, f, c) ← quotedGap indent (c.rest.length + 1) joined f c
        quotedLines single indent n f.join c

/-- Whether the text may go on like this after a closing quote. -/
def Scanner.mayFollowQuote (s : Scanner) (startLine : Nat) : Bool :=
  match s.cursor.peek with
  | none => true
  | some c =>
    isBreak c ||
    if s.flowLevel > 0 then c = ',' || c = '\x7d' || c = ']' || c = ':'
    else c = ':' && startLine = s.cursor.line

def Scanner.quotedScalar (s : Scanner) (single : Bool) : Option Scanner := do
  let s := s.saveKey.disallowKey
  let first := s.cursor
  let (text, c) ←
    quotedLines single s.indent (first.rest.length + 1) .start first.skipChar
  let s ← { s with cursor := c }.skipToEndOfLine false
  if s.mayFollowQuote first.line then
    let s ← s.skipToNextToken
    some ({ s with adjacentValueAt := s.cursor.index }.push (.scalar false text) first.column)
  else none

/-! Block scalars -/

inductive Chomping
  | strip
  | clip
  | keep
deriving DecidableEq, Repr

/-- The marks behind the indicator of a block scalar: what happens to the line breaks at its end,
and its indentation, 0 if none is given. -/
def blockHeader (c : Cursor) : Option (Chomping × Nat × Cursor) :=
  let chomping? : Option Char → Option Chomping
    | some '+' => some .keep
    | some '-' => some .strip
    | _ => none
  let digit? (c : Cursor) : Option Nat :=
    c.peek.bind fun x => if '0' ≤ x ∧ x ≤ '9' then some (x.toNat - 0x30) else none
  match chomping? c.peek with
  | some k =>
    let c := c.skipChar
    match digit? c with
    | some 0 => none
    | some n => some (k, n, c.skipChar)
    | none => some (k, 0, c)
  | none =>
    match digit? c with
    | some 0 => none
    | some n =>
      let c := c.skipChar
      match chomping? c.peek with
      | some k => some (k, n, c.skipChar)
      | none => some (.clip, n, c)
    | none => some (.clip, 0, c)

def skipSpaces (limit : Option Nat) : Nat → Cursor → Cursor
  | 0, c => c
  | n + 1, c =>
    if c.peek = some ' ' ∧ limit.all (c.column < ·) then skipSpaces limit n c.skipBlank else c

/-- Skips the indentation and the lines that have nothing else. Gives the number of these lines and
the deepest indentation. -/
def skipIndent (limit : Option Nat) : Nat → Nat → Nat → Cursor → Nat × Nat × Cursor
  | 0, breaks, deepest, c => (breaks, deepest, c)
  | n + 1, breaks, deepest, c =>
    let c := skipSpaces limit (c.rest.length + 1) c
    let deepest := max deepest c.column
    if c.peek.any isBreak then skipIndent limit n (breaks + 1) deepest c.skipBreak
    else (breaks, deepest, c)

def breaks (n : Nat) : List Char := List.replicate n '\n'

/-- The lines of a block scalar. `leading` tells whether a line break comes before the next line,
`more` how many empty lines follow it, and `blank` whether the line before firsts with a blank. -/
structure Block where
  text : List Char
  leading : Bool
  more : Nat
  blank : Bool

def blockLines (literal : Bool) (indent : Nat) : Nat → Block → Cursor → Block × Cursor
  | 0, b, c => (b, c)
  | n + 1, b, c =>
    if c.column ≠ indent ∨ c.peek = none ∨ (indent = 0 ∧ c.isDocumentEnd) then (b, c)
    else
      let blank := c.peek.any isBlank
      let gap :=
        if !literal && b.leading && !b.blank && !blank then
          if b.more = 0 then [' '] else breaks b.more
        else (if b.leading then ['\n'] else []) ++ breaks b.more
      let (line, c) := c.takeWhile (!isBreak ·)
      let text := line.toList.reverse ++ (gap ++ b.text)
      if c.peek = none then (⟨text, false, 0, blank⟩, c)
      else
        let (more, _, c) := skipIndent (some indent) (c.rest.length + 1) 0 0 c.skipBreak
        blockLines literal indent n ⟨text, true, more, blank⟩ c

/-- The column of the lines of a block within a block at `base`, by a given increment. -/
def columnWithin (base : Int) (increment : Nat) : Nat :=
  if 0 ≤ base then (base + increment).toNat else increment

/-- The column of the lines of a block within a block at `base`, by the first of them. -/
def columnFound (base : Int) (deepest : Nat) : Nat :=
  let column := max deepest (base + 1).toNat
  if 0 < base then max column 1 else column

/-- A scalar of lines, as they are if it is `literal`, or else folded. -/
def Scanner.blockScalar (s : Scanner) (literal : Bool) : Option Scanner := do
  let first := s.cursor
  let s := s.saveKey.allowKey.skipChar.unrollOnes
  let (chomping, increment, c) ← blockHeader s.cursor
  let s ← { s with cursor := c }.skipToEndOfLine false
  if !isBreakOrEnd s.cursor.peek then none
  else
    let broken := s.cursor.peek.isSome
    let c := if broken then s.cursor.skipBreak else s.cursor
    if c.peek = some '\t' then none
    else
      let fuel := c.rest.length + 1
      let (more, indent, c) :=
        if increment > 0 then
          let indent := columnWithin s.indent increment
          let (more, _, c) := skipIndent (some indent) fuel 0 0 c
          (more, indent, c)
        else
          let (more, deepest, c) := skipIndent none fuel 0 0 c
          (more, columnFound s.indent deepest, c)
      if c.peek = none then
        let text := match chomping with
          | .strip => []
          | .clip => if c.line = first.line then [] else breaks 1
          | .keep => if c.line = first.line then [] else if more = 0 then breaks 1 else breaks more
        some ({ s with cursor := c }.push (.scalar false (String.ofList text)) first.column)
      else if c.column < indent ∧ (c.column : Int) > s.indent then none
      else
        let (b, d) := blockLines literal indent fuel ⟨[], false, more, false⟩ c
        let ending := if chomping = .strip then []
          else (if b.leading then ['\n'] else []) ++
            (if d.peek = none ∧ d.column ≥ max indent 1 then ['\n'] else [])
        let tail := if chomping = .keep then breaks b.more else []
        let text := String.ofList (b.text.reverse ++ ending ++ tail)
        some ({ s with cursor := d }.push (.scalar false text) c.column)

end Telemetry.Yaml
