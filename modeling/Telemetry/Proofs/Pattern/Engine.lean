import Telemetry.Pattern.Standard
import Telemetry.Proofs.Pattern.Matching

/-!
Engines that keep to the grammar of patterns. The direct engine is one of them, for every dialect,
and the standard engine does what the direct one does with all that it does not refuse.
-/

namespace Telemetry.Pattern.Engine

/-- The laws of an engine that refuses no pattern for its size. -/
structure Lawful (E : Engine) : Prop where
  /-- It compiles the texts that are well formed, and no others. -/
  compiles_iff : ∀ source, (E.compile? source).isSome = true ↔ (read? source.toList).isSome = true
  /-- It finds a pattern in the texts of which the pattern matches some part. -/
  finds_iff : ∀ source x whole, E.compile? source = some x → read? source.toList = some whole →
    ∀ text, E.finds x text = true ↔ whole.pattern.MatchesWithin text

theorem lawful_direct (D : Dialect) : (direct D).Lawful where
  compiles_iff source := by
    change ((read? source.toList).map Part.pattern).isSome = true ↔ _
    rw [Option.isSome_map]
  finds_iff source x whole compiled read text := by
    change (read? source.toList).map Part.pattern = some x at compiled
    rw [read, Option.map_some, Option.some.injEq] at compiled
    rw [← matchesWithin_iff, compiled]
    rfl

/-- What the standard engine compiles is a pattern that fits, and the same for the direct one. -/
theorem compile?_standard_eq_some {source : String} {p : Pattern} :
    standard.compile? source = some p ↔
      (direct .standard).compile? source = some p ∧
        ∀ whole, read? source.toList = some whole → whole.Fits := by
  change ((read? source.toList).bind fun w => if w.Fits then some w.pattern else none) = some p ↔
    (read? source.toList).map Part.pattern = some p ∧ _
  cases read? source.toList with
  | none => simp
  | some whole => simp [and_comm]

end Telemetry.Pattern.Engine
