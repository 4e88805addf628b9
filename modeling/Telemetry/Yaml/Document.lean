import Telemetry.Yaml.Token.Scan

/-!
The documents of a YAML stream: their tokens put together to values. A reference stands for a copy of
the node that has its anchor.
-/

namespace Telemetry.Yaml

structure Reader where
  tokens : List Token
  /-- What the handles of tags stand for. -/
  handles : List (String × String)
  /-- The nodes that have an anchor, the latest first, by number. -/
  anchors : List (String × Nat)
  nodes : List (Nat × Yaml)
  fresh : Nat

namespace Reader

def start (tokens : List Token) : Reader := ⟨tokens, [], [], [], 1⟩

def peek (r : Reader) : Option Token := r.tokens.head?

def skip (r : Reader) : Reader := { r with tokens := r.tokens.tail }

/-- What the handle of a tag stands for. One between two marks has to be declared. -/
def resolve (r : Reader) (handle suffix : String) : Option Tag :=
  let declared (h : String) := (r.handles.find? (·.1 == h)).map (·.2)
  if handle = "!!" then some ⟨(declared "!!").getD coreHandle, suffix⟩
  else if handle = "" ∧ suffix = "!" then some ⟨(declared "").getD "", suffix⟩
  else match declared handle with
    | some h => some ⟨h, suffix⟩
    | none =>
      if 2 ≤ handle.length ∧ handle.startsWith "!" ∧ handle.endsWith "!" then none
      else some ⟨handle, suffix⟩

/-- An anchor, a tag, or both in either order. The anchor of a node is its number, 0 if it has none. -/
structure Properties where
  anchor : Nat
  tag : Option Tag

def register (r : Reader) (name : String) : Nat × Reader :=
  (r.fresh, { r with anchors := (name, r.fresh) :: r.anchors, fresh := r.fresh + 1 })

def properties (r : Reader) : Option (Properties × Reader) :=
  match r.peek with
  | some (.anchor name) =>
    let (id, r) := r.skip.register name
    match r.peek with
    | some (.tag handle suffix) => (r.resolve handle suffix).map (⟨id, some ·⟩, r.skip)
    | _ => some (⟨id, none⟩, r)
  | some (.tag handle suffix) => do
    let tag ← r.resolve handle suffix
    let r := r.skip
    match r.peek with
    | some (.anchor name) =>
      let (id, r) := r.skip.register name
      some (⟨id, some tag⟩, r)
    | _ => some (⟨0, some tag⟩, r)
  | _ => some (⟨0, none⟩, r)

/-- Keeps a node for the aliases of its anchor. -/
def keep (r : Reader) (anchor : Nat) (node : Yaml) : Yaml × Reader :=
  (node, if anchor = 0 then r else { r with nodes := (anchor, node) :: r.nodes })

def aliased? (r : Reader) (name : String) : Option Yaml :=
  (r.anchors.find? (·.1 == name)).map fun e =>
    ((r.nodes.find? (·.1 == e.2)).map (·.2)).getD .bad

/-- The entries of a map from its keys and values in turn. A bad key leaves its place to the next
node. No key may come twice. -/
def entriesOf : List (Yaml × Yaml) → List Yaml → Option (List (Yaml × Yaml))
  | seen, k :: v :: rest =>
    if k == .bad then entriesOf seen (v :: rest)
    else if hasKey seen k then none
    else entriesOf (seen ++ [(k, v)]) rest
  | seen, _ => some seen
termination_by _ nodes => nodes.length

def mapOf (nodes : List Yaml) : Option Yaml := (entriesOf [] nodes).map .map

def endsBlockItem : Option Token → Bool
  | some .key | some .value | some .blockEnd => true
  | _ => false

mutual

/-- Reads a node. `block` tells whether it may be a block, `bare` whether it may be a sequence that
is not indented. -/
def node (fuel : Nat) (block bare : Bool) (r : Reader) : Option (Yaml × Reader) :=
  match fuel with
  | 0 => none
  | n + 1 =>
    match r.peek with
    | some (.reference name) => (r.aliased? name).map (·, r.skip)
    | _ => do
      let (p, r) ← r.properties
      match r.peek with
      | some .blockEntry =>
        if bare then
          let (items, r) ← bareItems n [] r
          some (r.keep p.anchor (.list items))
        else emptyNode p r
      | some (.scalar plain text) => some (r.skip.keep p.anchor (ofScalar plain p.tag text))
      | some .flowSequenceStart =>
        let (items, r) ← flowItems n true [] r.skip
        some (r.keep p.anchor (.list items))
      | some .flowMappingStart =>
        let (nodes, r) ← flowEntries n true [] r.skip
        let m ← mapOf nodes
        some (r.keep p.anchor m)
      | some .blockSequenceStart =>
        if block then
          let (items, r) ← blockItems n [] r.skip
          some (r.keep p.anchor (.list items))
        else emptyNode p r
      | some .blockMappingStart =>
        if block then
          let (nodes, r) ← blockEntries n [] r.skip
          let m ← mapOf nodes
          some (r.keep p.anchor m)
        else emptyNode p r
      | _ => emptyNode p r

/-- A node of which there is nothing but its properties. -/
def emptyNode (p : Properties) (r : Reader) : Option (Yaml × Reader) :=
  if p.tag.isSome || p.anchor ≠ 0 then some (r.keep p.anchor (ofScalar true p.tag "")) else none

/-- The items of a sequence that is indented. -/
def blockItems (fuel : Nat) (items : List Yaml) (r : Reader) : Option (List Yaml × Reader) :=
  match fuel with
  | 0 => none
  | n + 1 =>
    match r.peek with
    | some .blockEnd => some (items, r.skip)
    | some .blockEntry =>
      let r := r.skip
      match r.peek with
      | some .blockEntry | some .blockEnd => blockItems n (items ++ [.null]) r
      | _ => do
        let (item, r) ← node n true false r
        blockItems n (items ++ [item]) r
    | _ => none

/-- The items of a sequence that is not indented. -/
def bareItems (fuel : Nat) (items : List Yaml) (r : Reader) : Option (List Yaml × Reader) :=
  match fuel with
  | 0 => none
  | n + 1 =>
    match r.peek with
    | some .blockEntry =>
      let r := r.skip
      match r.peek with
      | some .blockEntry | some .key | some .value | some .blockEnd =>
        bareItems n (items ++ [.null]) r
      | _ => do
        let (item, r) ← node n true false r
        bareItems n (items ++ [item]) r
    | _ => some (items, r)

/-- The keys and values of a block in turn. -/
def blockEntries (fuel : Nat) (nodes : List Yaml) (r : Reader) : Option (List Yaml × Reader) :=
  match fuel with
  | 0 => none
  | n + 1 =>
    match r.peek with
    | some .key =>
      let r := r.skip
      if endsBlockItem r.peek then blockValue n (nodes ++ [.null]) r
      else do
        let (k, r) ← node n true true r
        blockValue n (nodes ++ [k]) r
    | some .value => blockValue n (nodes ++ [.null]) r
    | some .blockEnd => some (nodes, r.skip)
    | _ => none

def blockValue (fuel : Nat) (nodes : List Yaml) (r : Reader) : Option (List Yaml × Reader) :=
  match fuel with
  | 0 => none
  | n + 1 =>
    match r.peek with
    | some .value =>
      let r := r.skip
      if endsBlockItem r.peek then blockEntries n (nodes ++ [.null]) r
      else do
        let (v, r) ← node n true true r
        blockEntries n (nodes ++ [v]) r
    | _ => blockEntries n (nodes ++ [.null]) r

/-- The keys and values between braces in turn. -/
def flowEntries (fuel : Nat) (first : Bool) (nodes : List Yaml) (r : Reader) :
    Option (List Yaml × Reader) :=
  match fuel with
  | 0 => none
  | n + 1 =>
    match r.peek with
    | some .flowMappingEnd => some (nodes, r.skip)
    | some t => do
      let r ← if first then some r else if t = .flowEntry then some r.skip else none
      match r.peek with
      | some .key =>
        let r := r.skip
        match r.peek with
        | some .value | some .flowEntry | some .flowMappingEnd =>
          flowValue n (nodes ++ [.null]) r
        | _ => do
          let (k, r) ← node n false false r
          flowValue n (nodes ++ [k]) r
      | some .value => flowValue n (nodes ++ [.null]) r
      | some .flowMappingEnd => some (nodes, r.skip)
      | _ => do
        let (k, r) ← node n false false r
        flowEntries n false (nodes ++ [k, .null]) r
    | none => none

def flowValue (fuel : Nat) (nodes : List Yaml) (r : Reader) : Option (List Yaml × Reader) :=
  match fuel with
  | 0 => none
  | n + 1 =>
    match r.peek with
    | some .value =>
      let r := r.skip
      match r.peek with
      | some .flowEntry | some .flowMappingEnd => flowEntries n false (nodes ++ [.null]) r
      | _ => do
        let (v, r) ← node n false false r
        flowEntries n false (nodes ++ [v]) r
    | _ => flowEntries n false (nodes ++ [.null]) r

/-- The items between brackets. A key with its value is a map of its own. -/
def flowItems (fuel : Nat) (first : Bool) (items : List Yaml) (r : Reader) :
    Option (List Yaml × Reader) :=
  match fuel with
  | 0 => none
  | n + 1 =>
    match r.peek with
    | some .flowSequenceEnd => some (items, r.skip)
    | some t => do
      let r ← if first then some r else if t = .flowEntry then some r.skip else none
      match r.peek with
      | some .flowSequenceEnd => some (items, r.skip)
      | some .key => do
        let (nodes, r) ← flowPair n r.skip
        let m ← mapOf nodes
        flowItems n false (items ++ [m]) r
      | _ => do
        let (item, r) ← node n false false r
        flowItems n false (items ++ [item]) r
    | none => none

/-- The key and the value of a map without braces. -/
def flowPair (fuel : Nat) (r : Reader) : Option (List Yaml × Reader) :=
  match fuel with
  | 0 => none
  | n + 1 => do
    let (k, r) ← match r.peek with
      | some .value | some .flowEntry | some .flowSequenceEnd => some (.null, r.skip)
      | _ => node n false false r
    match r.peek with
    | some .value =>
      let r := r.skip
      match r.peek with
      | some .flowEntry | some .flowSequenceEnd => some ([k, .null], r)
      | _ => do
        let (v, r) ← node n false false r
        some ([k, v], r)
    | _ => some ([k, .null], r)

end

/-- Directives before a document. Each one of tags takes the place of those before it. -/
def directives : Nat → Bool → Reader → Option Reader
  | 0, _, r => some r
  | n + 1, versioned, r =>
    match r.peek with
    | some .versionDirective =>
      if versioned then none else directives n true { r.skip with handles := [] }
    | some (.tagDirective handle text) =>
      directives n versioned { r.skip with handles := [(handle, text)] }
    | _ => some r

def dropDocumentEnds : List Token → List Token
  | .documentEnd :: ts => dropDocumentEnds ts
  | ts => ts

def isDocumentBoundary : Option Token → Bool
  | none | some .versionDirective | some (.tagDirective _ _) | some .documentStart
  | some .documentEnd => true
  | _ => false

/-- Reads what follows the start of a document, and its end if it is marked. -/
def content (fuel : Nat) (explicit : Bool) (r : Reader) : Option (Yaml × Bool × Reader) := do
  let r := { r with anchors := [] }
  let (doc, r) ←
    if explicit ∧ isDocumentBoundary r.peek then some (.null, r) else node fuel true false r
  match r.peek with
  | some .documentEnd => some (doc, true, { r.skip with handles := [] })
  | some .versionDirective | some (.tagDirective _ _) => none
  | _ => some (doc, false, { r with handles := [] })

/-- The documents of a stream. The first, and one after a marked end, needs no mark to begin. -/
def documents (fuel : Nat) : Nat → Bool → Reader → Option (List Yaml)
  | 0, _, _ => none
  | n + 1, implicit, r => do
    let r := { r with tokens := dropDocumentEnds r.tokens }
    match r.peek with
    | none => some []
    | some t =>
      let marked := isDocumentBoundary (some t)
      let (doc, ended, r) ←
        if implicit && !marked then content fuel false r
        else do
          let r ← directives (r.tokens.length + 1) false r
          if r.peek = some .documentStart then content fuel true r.skip else none
      let rest ← documents fuel n ended r
      some (doc :: rest)

end Reader

/-- The documents of a text, if all of it is well formed. -/
def documents? (text : String) : Option (List Yaml) := do
  let tokens ← Token.scan text
  Reader.documents (4 * tokens.length + 4) (tokens.length + 1) true (.start tokens)

/-- The first document of a text, null if it has none. -/
def load? (text : String) : Option Yaml := (documents? text).map (·.headD .null)

end Telemetry.Yaml
