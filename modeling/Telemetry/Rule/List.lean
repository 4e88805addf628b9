import Telemetry.Rule.Basic

/-!
Lists of rules, of which the first that matches counts. The empty list measures nothing.
-/

namespace Telemetry

variable [Pattern.Engine]

abbrev RuleList := List MatchRule

namespace RuleList

def firstMatch? (rules : RuleList) (candidate : String) : Option MatchRule :=
  rules.find? (·.accepts candidate)

def monitors (rules : RuleList) (candidate : String) : Bool :=
  (rules.firstMatch? candidate).isSome

/-- The node under which a candidate is measured: the nickname in its rule, or else its own. -/
def node? (rules : RuleList) (candidate : String) : Option Node :=
  (rules.firstMatch? candidate).map fun r => r.nickname.getD (Node.escape candidate)

end RuleList

end Telemetry
