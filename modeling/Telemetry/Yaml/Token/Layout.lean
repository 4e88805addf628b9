import Telemetry.Yaml.Cursor
import Telemetry.Yaml.Token

/-!
The layout of a YAML text: which blocks the indentation holds open, and where a key may stand that
only the colon behind it shows to be one.
-/

namespace Telemetry.Yaml

/-- The indentation to go back to, and whether a block ends there. -/
structure Indent where
  column : Int
  endsBlock : Bool
deriving Repr

/-- A place where a key may have begun. -/
structure PossibleKey where
  possible : Bool
  required : Bool
  /-- The number of tokens before it. -/
  position : Nat
  cursor : Cursor
deriving Repr

structure Scanner where
  cursor : Cursor
  tokens : Array Token
  /-- The column at which the last token began. -/
  lastColumn : Nat
  indent : Int
  indents : List Indent
  keyAllowed : Bool
  /-- One for each flow collection that is open, the innermost first, and one for the block. -/
  keys : List PossibleKey
  flowLevel : Nat
  /-- Where a colon with no blank after it still announces a value. -/
  adjacentValueAt : Nat
  flowMappingStarted : Bool
  /-- For each open flow sequence, whether a mapping without braces is open within it. -/
  implicitMappings : List Bool
deriving Repr

namespace PossibleKey

def absent : PossibleKey := ⟨false, false, 0, .ofChars []⟩

end PossibleKey

namespace Scanner

def start (cs : List Char) : Scanner :=
  ⟨.ofChars cs, #[], 0, -1, [], true, [.absent], 0, 0, false, []⟩

def column (s : Scanner) : Int := s.cursor.column

/-- Adds a token that begins at `column`. -/
def push (s : Scanner) (t : Token) (column : Nat) : Scanner :=
  { s with tokens := s.tokens.push t, lastColumn := column }

def pushHere (s : Scanner) (t : Token) : Scanner := s.push t s.cursor.column

def insertAt (s : Scanner) (position : Nat) (t : Token) : Scanner :=
  { s with tokens := s.tokens.extract 0 position ++ #[t] ++ s.tokens.extract position }

def allowKey (s : Scanner) : Scanner := { s with keyAllowed := true }

def disallowKey (s : Scanner) : Scanner := { s with keyAllowed := false }

def closeBlocks (column : Int) : List Indent → Int → Array Token → Int × List Indent × Array Token
  | [], indent, tokens => (indent, [], tokens)
  | i :: is, indent, tokens =>
    if indent > column then
      closeBlocks column is i.column (if i.endsBlock then tokens.push .blockEnd else tokens)
    else (indent, i :: is, tokens)

/-- Closes the blocks that are indented more than `column`. -/
def unroll (s : Scanner) (column : Int) : Scanner :=
  if s.flowLevel > 0 then s
  else
    let (indent, indents, tokens) := closeBlocks column s.indents s.indent s.tokens
    let last := if tokens.size = s.tokens.size then s.lastColumn else s.cursor.column
    { s with indent := indent, indents := indents, tokens := tokens, lastColumn := last }

/--
Opens a block at `column` unless one is open there, with its token at `position` or at the end.
-/
def roll (s : Scanner) (column : Nat) (position : Option Nat) (t : Token) : Scanner :=
  if s.flowLevel > 0 then s
  else
    let s := match s.indents with
      | i :: is =>
        if s.indent ≤ (column : Int) ∧ !i.endsBlock then
          { s with indent := i.column, indents := is }
        else s
      | [] => s
    if s.indent < (column : Int) then
      let s := { s with indents := ⟨s.indent, true⟩ :: s.indents, indent := column }
      match position with
      | some n => s.insertAt n t
      | none => s.push t column
    else s

/-- Indents by one column without opening a block. -/
def rollOne (s : Scanner) : Scanner :=
  if s.flowLevel = 0 ∧ (s.indents.head?.any (·.endsBlock)) then
    { s with indents := ⟨s.indent, false⟩ :: s.indents, indent := s.indent + 1 }
  else s

def dropOnes : List Indent → Int → Int × List Indent
  | [], indent => (indent, [])
  | i :: is, indent => if i.endsBlock then (indent, i :: is) else dropOnes is i.column

/-- Takes back the columns that open no block. -/
def unrollOnes (s : Scanner) : Scanner :=
  let (indent, indents) := dropOnes s.indents s.indent
  { s with indent := indent, indents := indents }

/-- Notes that the next token may be a key. -/
def saveKey (s : Scanner) : Scanner :=
  if s.keyAllowed then
    let required := s.flowLevel = 0 ∧ s.indent = s.column ∧ s.indents.head?.any (·.endsBlock)
    { s with keys := ⟨true, required, s.tokens.size, s.cursor⟩ :: s.keys.tail }
  else s

/-- Gives up the innermost possible key, unless it has to be one. -/
def removeKey (s : Scanner) : Option Scanner :=
  match s.keys with
  | [] => some s
  | k :: ks =>
    if k.possible && k.required then none
    else some { s with keys := { k with possible := false } :: ks }

/-- In a block a key ends on the line where it begins, and within 1024 characters. -/
def PossibleKey.isStale (k : PossibleKey) (c : Cursor) : Bool :=
  k.possible && (k.cursor.line < c.line || k.cursor.index + 1024 < c.index)

def dropStaleKeys (s : Scanner) : Option Scanner :=
  if s.flowLevel > 0 then some s
  else if s.keys.any fun k => PossibleKey.isStale k s.cursor && k.required then none
  else some { s with keys := s.keys.map fun k =>
    if PossibleKey.isStale k s.cursor then { k with possible := false } else k }

def skipToEndOfLine (s : Scanner) (barred : Bool) : Option Scanner :=
  (s.cursor.skipToEndOfLine barred).map fun k => { s with cursor := k.cursor }

def skipBreak (s : Scanner) : Scanner :=
  let s := { s with cursor := s.cursor.skipBreak }
  if s.flowLevel = 0 then s.allowKey else s

def skipChar (s : Scanner) : Scanner := { s with cursor := s.cursor.skipChar }

/-- Skips blanks, comments and line breaks. A tab must not indent anything within a block. -/
def skipToToken : Nat → Scanner → Option Scanner
  | 0, s => some s
  | n + 1, s =>
    match s.cursor.peek with
    | some '\t' =>
      if !s.indents.isEmpty && s.cursor.atLineStart && s.column < s.indent then do
        let s ← s.skipToEndOfLine false
        if isBreakOrEnd s.cursor.peek then skipToToken n s else none
      else skipToToken n { s with cursor := s.cursor.skipBlank }
    | some ' ' => skipToToken n { s with cursor := s.cursor.skipBlank }
    | some '\n' | some '\r' => skipToToken n s.skipBreak
    | some '#' => skipToToken n { s with cursor := s.cursor.skipToBreak }
    | _ => some s

def skipToNextToken (s : Scanner) : Option Scanner := s.skipToToken (s.cursor.rest.length + 1)

end Scanner

end Telemetry.Yaml
