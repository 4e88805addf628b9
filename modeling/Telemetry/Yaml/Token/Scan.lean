import Telemetry.Yaml.Token.Scalar

/-!
From the text of a YAML stream to its tokens.
-/

namespace Telemetry.Yaml

namespace Scanner

/-! Tags, anchors and directives -/

def hexOctet? (c : Cursor) : Option Nat :=
  match c.rest with
  | '%' :: h :: l :: _ => natOfBase? 16 [h, l]
  | _ => none

/-- Further octets of an escaped character. The octets are put together as they are. -/
def uriTrail : Nat → Nat → Cursor → Option (Char × Cursor)
  | 0, code, c => if code.isValidChar then some (Char.ofNat code, c) else none
  | n + 1, code, c => do
    let b ← hexOctet? c
    if b / 64 = 2 then uriTrail n (code * 256 + b) (c.skipChars 3) else none

def uriEscape (c : Cursor) : Option (Char × Cursor) := do
  let b ← hexOctet? c
  let width ← if b < 0x80 then some 1 else if b / 32 = 6 then some 2
    else if b / 16 = 14 then some 3 else if b / 8 = 30 then some 4 else none
  uriTrail (width - 1) b (c.skipChars 3)

/-- Characters that satisfy `p`, with octets escaped by a percent sign. -/
def uriChars (p : Char → Bool) : Nat → List Char → Cursor → Option (List Char × Cursor)
  | 0, text, c => some (text.reverse, c)
  | n + 1, text, c =>
    match c.peek with
    | none => some (text.reverse, c)
    | some x =>
      if !p x then some (text.reverse, c)
      else if x = '%' then do
        let (y, c) ← uriEscape c
        uriChars p n (y :: text) c
      else uriChars p n (x :: text) c.skipChar

def uriText (p : Char → Bool) (c : Cursor) : Option (String × Cursor) :=
  (uriChars p (c.rest.length + 1) [] c).map fun (text, c) => (String.ofList text, c)

/-- An exclamation mark, word characters, and another mark if there is one. -/
def tagHandle (directive : Bool) (c : Cursor) : Option (String × Cursor) :=
  if c.peek ≠ some '!' then none
  else
    let (word, c) := c.skipChar.takeWhile isHandleChar
    if c.peek = some '!' then some ("!" ++ word ++ "!", c.skipChar)
    else if directive ∧ word ≠ "" then none
    else some ("!" ++ word, c)

/-- The handle and the suffix of a tag. -/
def tagParts (c : Cursor) : Option (String × String × Cursor) :=
  if c.peekAt 1 = some '<' then do
    let (suffix, c) ← uriText isUriChar (c.skipChars 2)
    if c.peek = some '>' then some ("", suffix, c.skipChar) else none
  else do
    let (handle, c) ← tagHandle false c
    if 2 ≤ handle.length ∧ handle.endsWith "!" then
      let (suffix, c) ← uriText isTagChar c
      if suffix = "" then none else some (handle, suffix, c)
    else
      let (rest, c) ← uriText isTagChar c
      let suffix := String.ofList (handle.toList.drop 1) ++ rest
      if suffix = "" then some ("", "!", c) else some ("!", suffix, c)

def tag (s : Scanner) : Option Scanner := do
  let column := s.cursor.column
  let s := s.saveKey.disallowKey
  let (handle, suffix, c) ← tagParts s.cursor
  if isSpaceOrEnd c.peek || (0 < s.flowLevel && c.peek.any isFlow) then
    some ({ s with cursor := c }.push (.tag handle suffix) column)
  else none

def anchor (s : Scanner) (isReference : Bool) : Option Scanner :=
  let column := s.cursor.column
  let s := s.saveKey.disallowKey
  let (name, c) := s.cursor.skipChar.takeWhile isAnchorChar
  if name = "" then none
  else
    let token := if isReference then .reference name else .anchor name
    some ({ s with cursor := c }.push token column)

def skipBlanks (c : Cursor) : Cursor := (c.takeWhile isBlank).2

def versionNumber (c : Cursor) : Option Cursor :=
  let (digits, c) := c.takeWhile Numeral.isDigit
  if digits = "" ∨ 9 < digits.length then none else some c

def versionDirective (c : Cursor) : Option (Token × Cursor) := do
  let c ← versionNumber (skipBlanks c)
  if c.peek = some '.' then (versionNumber c.skipChar).map (.versionDirective, ·) else none

def tagDirective (c : Cursor) : Option (Token × Cursor) := do
  let (handle, c) ← tagHandle true (skipBlanks c)
  let c := skipBlanks c
  let (first, c) ← match c.peek with
    | some '!' => some ("!", c.skipChar)
    | some '%' => (uriEscape c).map fun (x, c) => (String.ofList [x], c)
    | some x => if isTagChar x then some (String.ofList [x], c.skipChar) else none
    | none => none
  let (rest, c) ← uriText isUriChar c
  if isSpaceOrEnd c.peek then some (.tagDirective handle (first ++ rest), c) else none

/-- Directives other than those for versions and tags are skipped. -/
def directive (s : Scanner) : Option Scanner := do
  let column := s.cursor.column
  let s ← (s.unroll (-1)).removeKey
  let s := s.disallowKey
  let (name, c) := s.cursor.skipChar.takeWhile isHandleChar
  if name = "" ∨ !isSpaceOrEnd c.peek then none
  else
    let (token, c) ← match name with
      | "YAML" => versionDirective c
      | "TAG" => tagDirective c
      | _ => some (.tagDirective "" "", c.skipToBreak)
    let s ← { s with cursor := c }.skipToEndOfLine false
    if isBreakOrEnd s.cursor.peek then
      let c := if s.cursor.peek.isSome then s.cursor.skipBreak else s.cursor
      some ({ s with cursor := c }.push token column)
    else none

def documentMarker (s : Scanner) (t : Token) : Option Scanner := do
  let s ← (s.unroll (-1)).removeKey
  some { s.disallowKey.pushHere t with cursor := s.cursor.skipChars 3 }

def documentEnd (s : Scanner) : Option Scanner := do
  let s ← s.documentMarker .documentEnd
  let s ← s.skipToEndOfLine false
  if isBreakOrEnd s.cursor.peek then some s else none

/-! Collections in brackets -/

/-- Collections in brackets nest less than 256 deep. -/
def maxFlowLevel : Nat := 255

def flowStart (s : Scanner) (t : Token) : Option Scanner := do
  let column := s.cursor.column
  let s := s.saveKey.rollOne
  if s.flowLevel = maxFlowLevel then none
  else
    let s := { s with keys := .absent :: s.keys, flowLevel := s.flowLevel + 1 }.allowKey.skipChar
    let s := if t = .flowMappingStart then { s with flowMappingStarted := true }
      else { s with implicitMappings := false :: s.implicitMappings }
    let s ← s.skipToEndOfLine false
    some (s.push t column)

/-- Ends the mapping without braces in the innermost sequence, if one is open there. -/
def endImplicitMapping (s : Scanner) : Scanner :=
  match s.implicitMappings with
  | true :: rest =>
    { s with implicitMappings := false :: rest, flowMappingStarted := false }.pushHere
      .flowMappingEnd
  | _ => s

def flowEnd (s : Scanner) (t : Token) : Option Scanner := do
  let s ← s.removeKey
  let s := if 0 < s.flowLevel then { s with flowLevel := s.flowLevel - 1, keys := s.keys.tail }
    else s
  let s := s.disallowKey
  let s := if t = .flowSequenceEnd then
      let ended := s.endImplicitMapping
      { ended with implicitMappings := ended.implicitMappings.tail }
    else s
  let column := s.cursor.column
  let s ← s.skipChar.skipToEndOfLine false
  let s := if 0 < s.flowLevel then { s with adjacentValueAt := s.cursor.index } else s
  some (s.push t column)

def flowEntry (s : Scanner) : Option Scanner := do
  let s ← s.removeKey
  let s := s.allowKey.endImplicitMapping
  let column := s.cursor.column
  let s ← s.skipChar.skipToEndOfLine false
  some (s.push .flowEntry column)

/-! Blocks -/

def followsProperty (s : Scanner) : Bool :=
  match s.tokens.back? with
  | some (.anchor _) | some (.tag _ _) => true
  | _ => false

def blockEntry (s : Scanner) : Option Scanner := do
  if 0 < s.flowLevel || !s.keyAllowed then none
  else if s.followsProperty ∧ s.cursor.column = 0 ∧ s.lastColumn = 0 ∧ -1 < s.indent then none
  else
    let column := s.cursor.column
    let s := s.skipChar.roll column none .blockSequenceStart
    let skipped ← s.cursor.skipToEndOfLine false
    let s := { s with cursor := skipped.cursor }
    if skipped.tabs && s.cursor.peek == some '-' && isSpaceOrEnd (s.cursor.peekAt 1) then none
    else
      let s ← s.skipToEndOfLine true
      let s := if s.cursor.peek.any fun c => isBreak c || isFlow c then s.rollOne else s
      let s ← s.removeKey
      some (s.allowKey.pushHere .blockEntry)

/-- Skips spaces, line breaks and comments, and tells whether there was a space or a break. -/
def skipSpaces : Nat → Bool → Scanner → Option Scanner
  | 0, _, s => some s
  | n + 1, found, s =>
    match s.cursor.peek with
    | some ' ' => skipSpaces n true { s with cursor := s.cursor.skipBlank }
    | some '\n' | some '\r' => skipSpaces n true s.skipBreak
    | some '#' => skipSpaces n found { s with cursor := s.cursor.skipToBreak }
    | _ => if found then some s else none

def blockOrFlowKey (s : Scanner) : Scanner := if s.flowLevel = 0 then s.allowKey else s.disallowKey

def explicitKey (s : Scanner) : Option Scanner := do
  let column := s.cursor.column
  if s.flowLevel = 0 && !s.keyAllowed then none
  else
    let s := if s.flowLevel = 0 then s.roll column none .blockMappingStart
      else { s with flowMappingStarted := true }
    let s ← s.removeKey
    let s := s.blockOrFlowKey.skipChar
    let s ← skipSpaces (s.cursor.rest.length + 1) false s
    if s.cursor.peek = some '\t' then none else some (s.push .key column)

/-- A colon. If a key may have begun before it on the way, its tokens are put in there. -/
def value (s : Scanner) : Option Scanner := do
  let first := s.cursor
  let key := s.keys.headD .absent
  let implicit := !s.implicitMappings.isEmpty && !s.flowMappingStarted
  let s := if implicit then { s with implicitMappings := true :: s.implicitMappings.tail } else s
  let s := s.skipChar
  let s ← if s.cursor.peek = some '\t' then do
      let skipped ← s.cursor.skipToEndOfLine false
      let next := skipped.cursor.peek
      if !skipped.spaces && (next == some '-' || next.any isHandleChar) then none
      else some { s with cursor := skipped.cursor }
    else some s
  let s ← if key.possible then do
      let s := s.insertAt key.position .key
      let s ← if implicit then
          if key.cursor.line < first.line then none
          else some (s.insertAt key.position .flowMappingStart)
        else some s
      let s := (s.roll key.cursor.column (some key.position) .blockMappingStart).rollOne
      some { s.disallowKey with keys := { key with possible := false } :: s.keys.tail }
    else do
      let s := if implicit then s.push .flowMappingStart first.column else s
      if s.flowLevel = 0 && !s.keyAllowed then none
      else
        let s := if s.flowLevel = 0 then s.roll first.column none .blockMappingStart else s
        some s.rollOne.blockOrFlowKey
  some (s.push .value first.column)

/-! The stream -/

/-- The end of the text. A key that had to be one is an error. -/
def finish (s : Scanner) : Option (Array Token) :=
  if s.keys.any fun k => k.required && k.possible then none
  else some (s.unroll (-1)).tokens

/-- Scans the token that begins with `c`, or gives up. -/
def next (s : Scanner) (c : Char) : Option Scanner :=
  let after := s.cursor.peekAt 1
  let spaced := isSpaceOrEnd after
  let flow := decide (0 < s.flowLevel)
  if s.cursor.column = 0 ∧ c = '%' then s.directive
  else if s.cursor.column = 0 ∧ s.cursor.isDocumentStart then s.documentMarker .documentStart
  else if s.cursor.column = 0 ∧ s.cursor.isDocumentEnd then s.documentEnd
  else if s.column < s.indent then none
  else match c with
    | '[' => s.flowStart .flowSequenceStart
    | '\x7b' => s.flowStart .flowMappingStart
    | ']' => s.flowEnd .flowSequenceEnd
    | '\x7d' => s.flowEnd .flowMappingEnd
    | ',' => s.flowEntry
    | '*' => s.anchor true
    | '&' => s.anchor false
    | '!' => s.tag
    | '\'' => s.quotedScalar true
    | '"' => s.quotedScalar false
    | '%' | '@' | '\x60' => none
    | c =>
      if c = '-' && spaced then s.blockEntry
      else if c = '?' && spaced then s.explicitKey
      else if c = ':' && (spaced || (flow &&
          (after.any isFlow || s.cursor.index = s.adjacentValueAt))) then s.value
      else if c = '|' && !flow then s.blockScalar true
      else if c = '>' && !flow then s.blockScalar false
      else s.plainScalar

def run : Nat → Scanner → Option (Array Token)
  | 0, _ => none
  | n + 1, s => do
    let s ← s.skipToNextToken
    let s ← s.dropStaleKeys
    let s := s.unroll s.column
    match s.cursor.peek with
    | none => s.finish
    | some c =>
      let s ← s.next c
      run n s

end Scanner

/-- The tokens of a text, up to its first NUL if it has one. -/
def Token.scan (text : String) : Option (List Token) :=
  let cs := text.toList.takeWhile (· != '\x00')
  (Scanner.run (cs.length + 2) (.start cs)).map Array.toList

end Telemetry.Yaml
