import Telemetry.Name.Node
import Telemetry.Number.Numeral
import Telemetry.Pattern.Engine

/-!
Rules that say which dynamic values are measured, and under which node. A rule is a text to compare
with or a pattern for the whole value, and may give all values that match one node.
-/

namespace Telemetry

inductive MatchType
  | equals
  | regex
deriving DecidableEq, Repr

/-- The type that a word names, in any case. -/
def MatchType.parse? (s : String) : Option MatchType :=
  match String.ofList (s.toList.map Numeral.lowerAscii) with
  | "equals" | "equal" | "exact" => some .equals
  | "regex" => some .regex
  | _ => none

inductive RuleError
  | invalidRegex
  | invalidAlias (cause : NameError)
deriving DecidableEq, Repr

def RuleError.message : RuleError → String
  | .invalidRegex => "invalid regex: malformed pattern"
  | .invalidAlias e => "invalid alias: " ++ e.message

/-- The text of a pattern between the two anchors, in a group of its own. -/
def anchored (source : String) : String := "^(?:" ++ source ++ ")$"

open Pattern (Engine)

variable [Engine]

structure MatchRule where
  type : MatchType
  value : String
  /-- The node to measure under, in place of the candidate's own. -/
  nickname : Option Node
  /-- A pattern can be compiled once it stands between the anchors. -/
  isSome_of_regex : type = .regex → (Engine.compile? (anchored value)).isSome
deriving DecidableEq

namespace MatchRule

def exact (value : String) : MatchRule := ⟨.equals, value, none, by simp⟩

def regex (value : String) : Except RuleError MatchRule :=
  if h : (Engine.compile? (anchored value)).isSome then .ok ⟨.regex, value, none, fun _ => h⟩
  else .error .invalidRegex

def ofType (type : MatchType) (value : String) : Except RuleError MatchRule :=
  match type with
  | .equals => .ok (exact value)
  | .regex => regex value

def setNickname (r : MatchRule) (n : Option Node) : MatchRule := { r with nickname := n }

def withNickname (r : MatchRule) (name : String) : Except RuleError MatchRule :=
  match Node.parse name with
  | .ok n => .ok (r.setNickname (some n))
  | .error e => .error (.invalidAlias e)

def accepts (r : MatchRule) (candidate : String) : Bool :=
  match r.type with
  | .equals => r.value == candidate
  | .regex => (Engine.compile? (anchored r.value)).any (Engine.finds · candidate)

end MatchRule

end Telemetry
