import Telemetry.Name.Node

/-!
Metric names: sequences of nodes, written with a dot between two nodes. The empty name stands above
all others and has no written form that reads back.
-/

namespace Telemetry

structure MetricName where
  nodes : List Node
deriving DecidableEq

/-- The parts of a text between its dots; one more than it has dots. -/
def segments : List Char → List (List Char)
  | [] => [[]]
  | c :: cs =>
    if c = '.' then [] :: segments cs
    else match segments cs with
      | [] => [[c]]
      | s :: rest => (c :: s) :: rest

namespace MetricName

def empty : MetricName := ⟨[]⟩

instance : Inhabited MetricName := ⟨empty⟩

def isEmpty (n : MetricName) : Bool := n.nodes.isEmpty

def length (n : MetricName) : Nat := n.nodes.length

def ofNode (n : Node) : MetricName := ⟨[n]⟩

def child (base : MetricName) (n : Node) : MetricName := ⟨base.nodes ++ [n]⟩

/-- The name below `base` that any text has once it is escaped. -/
def childOf (base : MetricName) (value : String) : MetricName := base.child (Node.escape value)

/-- The name below `base` whose nodes are the escaped texts. -/
def below (base : MetricName) (values : List String) : MetricName :=
  ⟨base.nodes ++ values.map Node.escape⟩

def join (base below : MetricName) : MetricName := ⟨base.nodes ++ below.nodes⟩

/-- Names are ordered node by node, and a name comes before those below it. -/
instance : Ord MetricName := ⟨compareOn MetricName.nodes⟩

instance : Std.TransOrd MetricName := inferInstanceAs (Std.TransCmp (compareOn MetricName.nodes))

theorem eq_of_nodes_eq {a b : MetricName} (h : a.nodes = b.nodes) : a = b := by
  cases a; cases b; cases h; rfl

instance : Std.LawfulEqOrd MetricName where
  compare_self := @Std.ReflCmp.compare_self _ (compareOn MetricName.nodes) _
  eq_of_compare h := eq_of_nodes_eq (Std.LawfulEqOrd.eq_of_compare h)

/-- The nodes of the segments, the first of which has the position `i`. -/
def nodesFrom (i : Nat) : List (List Char) → Except NameError (List Node)
  | [] => .ok []
  | s :: rest =>
    if s = [] then .error (.emptyNode i)
    else match Node.ofChars s with
      | .error e => .error e
      | .ok n => match nodesFrom (i + 1) rest with
        | .error e => .error e
        | .ok ns => .ok (n :: ns)

def ofChars (cs : List Char) : Except NameError MetricName :=
  if cs = [] then .error .emptyText
  else (nodesFrom 0 (segments cs)).map MetricName.mk

def parse (s : String) : Except NameError MetricName := ofChars s.toList

/-- The name that a dotted path has below `base`. -/
def joinPath (base : MetricName) (path : String) : Except NameError MetricName :=
  (parse path).map base.join

/-- Appends the nodes of a dotted path to a name, all of them or none. -/
def pushPath (path : String) : ExceptT NameError (StateM MetricName) Unit := do
  let added ← ofExcept (parse path)
  modify (·.join added)

def dotted : List Node → List Char
  | [] => []
  | [n] => n.chars
  | n :: rest => n.chars ++ '.' :: dotted rest

def chars (n : MetricName) : List Char := dotted n.nodes

def text (n : MetricName) : String := String.ofList n.chars

/-- Whether `n` is `base` or lies below it. -/
def startsWith (n base : MetricName) : Bool := base.nodes.isPrefixOf n.nodes

/-- The nodes of `n` after those of `base`, if it starts with them. -/
def nodesBelow? (n base : MetricName) : Option (List Node) :=
  if n.startsWith base then some (n.nodes.drop base.length) else none

/-- The written form of `n` relative to `base`, if it lies strictly below. -/
def relativeTo? (n base : MetricName) : Option String :=
  match n.nodesBelow? base with
  | none | some [] => none
  | some ns => some (String.ofList (dotted ns))

end MetricName

/-- The name of a static path below a base. -/
def compose (base : MetricName) (path : String) : Except NameError MetricName :=
  base.joinPath path

/-- The name of a text below a static path below a base. -/
def composeDynamic (base : MetricName) (path value : String) : Except NameError MetricName :=
  (base.joinPath path).map (·.childOf value)

end Telemetry
