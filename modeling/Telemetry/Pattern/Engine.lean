import Telemetry.Pattern.Parser

/-!
Engines, which compile patterns from their texts and find what the patterns match. Rules with
patterns are for whatever engine there is.
-/

namespace Telemetry.Pattern

class Engine extends Dialect where
  Compiled : Type
  compile? : String → Option Compiled
  /-- Whether some part of a text matches. -/
  finds : Compiled → String → Bool

/-- The engine that takes patterns of every size and follows all ways to match at once. -/
@[reducible] def Engine.direct (D : Dialect) : Engine where
  toDialect := D
  Compiled := Pattern
  compile? source := (read? source.toList).map Part.pattern
  finds := matchesWithin

end Telemetry.Pattern
