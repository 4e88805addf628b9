/-!
A place in a text, with its line, its column, and whether only blanks stand before it on its line.
-/

namespace Telemetry.Yaml

def isBreak (c : Char) : Bool := c = '\n' || c = '\r'

def isBlank (c : Char) : Bool := c = ' ' || c = '\t'

/-- The characters that delimit collections written in brackets. -/
def isFlow (c : Char) : Bool := c = ',' || c = '[' || c = ']' || c = '\x7b' || c = '\x7d'

def isWordChar (c : Char) : Bool :=
  ('0' ≤ c && c ≤ '9') || ('a' ≤ c && c ≤ 'z') || ('A' ≤ c && c ≤ 'Z') || c = '-'

def isHandleChar (c : Char) : Bool := isWordChar c || c = '_'

def isUriChar (c : Char) : Bool := isWordChar c || "#;/?:@&=+$,_.!~*'()[]%".toList.contains c

def isTagChar (c : Char) : Bool := isUriChar c && !isFlow c && c != '!'

def isAnchorChar (c : Char) : Bool :=
  !isBreak c && c != '\ufeff' && !isBlank c && !isFlow c

/-- Whether a line ends before the next character, or the text does. -/
def isBreakOrEnd (c : Option Char) : Bool := c.all isBreak

def isSpaceOrEnd (c : Option Char) : Bool := c.all fun c => isBlank c || isBreak c

structure Cursor where
  rest : List Char
  index : Nat
  line : Nat
  column : Nat
  atLineStart : Bool
deriving Repr

namespace Cursor

def ofChars (cs : List Char) : Cursor := ⟨cs, 0, 0, 0, true⟩

def peek (c : Cursor) : Option Char := c.rest.head?

def peekAt (c : Cursor) (n : Nat) : Option Char := c.rest[n]?

def skipBlank (c : Cursor) : Cursor :=
  { c with rest := c.rest.tail, index := c.index + 1, column := c.column + 1 }

def skipChar (c : Cursor) : Cursor := { c.skipBlank with atLineStart := false }

def skipChars : Nat → Cursor → Cursor
  | 0, c => c
  | n + 1, c => skipChars n c.skipChar

/-- Skips a line break; a carriage return with a line feed is one. -/
def skipBreak (c : Cursor) : Cursor :=
  match c.rest with
  | '\r' :: '\n' :: r => ⟨r, c.index + 2, c.line + 1, 0, true⟩
  | _ => ⟨c.rest.tail, c.index + 1, c.line + 1, 0, true⟩

/-- Skips the characters that satisfy `p`, none of which is a line break, and gives them. -/
def takeWhile (p : Char → Bool) (c : Cursor) : String × Cursor :=
  let taken := c.rest.takeWhile p
  (String.ofList taken, skipChars taken.length c)

def skipToBreak (c : Cursor) : Cursor := (c.takeWhile (!isBreak ·)).2

/-- Three equal marks before a blank, a line break or the end. -/
def isMarker (mark : Char) (c : Cursor) : Bool :=
  c.rest.take 3 == [mark, mark, mark] && isSpaceOrEnd (c.peekAt 3)

def isDocumentStart (c : Cursor) : Bool := c.isMarker '-'

def isDocumentEnd (c : Cursor) : Bool := c.isMarker '.'

def isDocumentMarker (c : Cursor) : Bool := c.isDocumentStart || c.isDocumentEnd

/-- What `skipToEndOfLine` met on its way. -/
structure Skipped where
  cursor : Cursor
  tabs : Bool
  spaces : Bool

/-- Skips spaces, tabs unless they are `barred`, and a comment, which must not stand first. -/
def skipToEndOfLine (barred : Bool) (c : Cursor) : Option Skipped :=
  go (c.rest.length + 1) ⟨c, false, false⟩
where
  go : Nat → Skipped → Option Skipped
    | 0, s => some s
    | n + 1, s =>
      match s.cursor.peek with
      | some ' ' => go n { s with cursor := s.cursor.skipBlank, spaces := true }
      | some '\t' =>
        if barred then some s else go n { s with cursor := s.cursor.skipBlank, tabs := true }
      | some '#' =>
        if s.tabs || s.spaces then go n { s with cursor := s.cursor.skipToBreak } else none
      | _ => some s

end Cursor

end Telemetry.Yaml
