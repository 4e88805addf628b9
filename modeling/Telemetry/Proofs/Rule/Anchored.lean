import Telemetry.Proofs.Pattern.Anchors
import Telemetry.Proofs.Pattern.Engine
import Telemetry.Rule.Basic

/-!
Rules with patterns. A pattern becomes a rule by its text, which is pasted between anchors in a group
of its own. The rule is for whole candidates unless the text closes that group by itself.
-/

namespace Telemetry.MatchRule

open Telemetry.Pattern (Dialect EndsInComment Engine MatchesWhole MatchesWithin Overcloses betweenAnchors
  matchesWithin_anchored read? read?_anchored read?_eq_none_of_overcloses)

theorem toList_anchored (source : String) :
    (anchored source).toList = betweenAnchors source.toList := by
  rw [anchored, String.toList_append, String.toList_append]
  rfl

section Lawful

variable [E : Engine] (lawful : E.Lawful) {p : String} {r : MatchRule}
include lawful

theorem exists_regex_iff :
    (∃ r, regex p = .ok r) ↔ ∃ whole, read? (betweenAnchors p.toList) = some whole := by
  rw [← toList_anchored, ← Option.isSome_iff_exists, ← lawful.compiles_iff, regex]
  split
  · next h => simp [h]
  · next h => simp [h]

theorem accepts_of_regex (h : regex p = .ok r) (candidate : String) :
    ∃ whole, read? (betweenAnchors p.toList) = some whole ∧
      (r.accepts candidate = true ↔ whole.pattern.MatchesWithin candidate) := by
  obtain ⟨whole, read⟩ := (exists_regex_iff lawful).mp ⟨r, h⟩
  refine ⟨whole, read, ?_⟩
  rw [regex] at h
  split at h
  · next accepted =>
    cases h
    obtain ⟨x, hx⟩ := Option.isSome_iff_exists.mp accepted
    rw [← toList_anchored] at read
    rw [← lawful.finds_iff _ x whole hx read]
    simp [accepts, hx]
  · cases h

/-- For every engine that keeps to the grammar, a well-formed text makes a rule exactly if it does not
end in a comment, and then the rule is for the candidates that its pattern matches as a whole. The
other texts that make a rule close the group that is pasted with them, and have no pattern. -/
theorem regex_exact (p : String) :
    (∀ whole, read? p.toList = some whole →
      ((∃ r, regex p = .ok r) ↔ ¬EndsInComment p.toList) ∧
      ∀ r, regex p = .ok r → ∀ c, r.accepts c = true ↔ whole.pattern.MatchesWhole c) ∧
    (read? p.toList = none → ∀ r, regex p = .ok r → Overcloses p.toList) ∧
    (Overcloses p.toList → read? p.toList = none) := by
  refine ⟨fun whole alone => ?_, fun alone r h => ?_, read?_eq_none_of_overcloses⟩
  · have inside : ¬Overcloses p.toList := fun closes => by
      rw [read?_eq_none_of_overcloses closes] at alone
      cases alone
    rcases read?_anchored inside with ⟨whole', alone', noComment, pasted⟩ | ⟨comment, pasted⟩
    · cases alone.symm.trans alone'
      refine ⟨?_, fun r h c => ?_⟩
      · simp [exists_regex_iff lawful, pasted, noComment]
      · obtain ⟨w, read, eq⟩ := accepts_of_regex lawful h c
        cases pasted.symm.trans read
        rw [eq, matchesWithin_anchored]
    · have comment := comment.resolve_left (by simp [alone])
      refine ⟨?_, fun r h c => ?_⟩
      · simp [exists_regex_iff lawful, pasted, comment]
      · obtain ⟨w, read, -⟩ := accepts_of_regex lawful h c
        cases pasted.symm.trans read
  · by_contra inside
    obtain ⟨w, read⟩ := (exists_regex_iff lawful).mp ⟨r, h⟩
    rcases read?_anchored inside with ⟨whole, alone', -⟩ | ⟨-, pasted⟩
    · cases alone.symm.trans alone'
    · cases pasted.symm.trans read

end Lawful

/-- Both alternatives of a pattern stand between the anchors. -/
theorem regex_alternatives :
    letI := Engine.direct .standard
    (Engine.direct .standard).Lawful ∧ ∃ r, regex "ab|a" = .ok r ∧
      r.accepts "ab" = true ∧ r.accepts "a" = true ∧ r.accepts "ax" = false := by
  let _ := Engine.direct .standard
  have lawful := Engine.lawful_direct .standard
  obtain ⟨made, exact⟩ := (regex_exact lawful "ab|a").1 _ rfl
  obtain ⟨r, hr⟩ := made.mpr <| by
    rintro ⟨whole, -, paren⟩
    cases paren
  refine ⟨lawful, r, hr, ?_, ?_, ?_⟩
  · exact (exact r hr "ab").mpr (.inl ⟨1, ⟨⟨'a', rfl, rfl⟩, rfl⟩, ⟨'b', rfl, rfl⟩, rfl⟩)
  · exact (exact r hr "a").mpr (.inr ⟨⟨'a', rfl, rfl⟩, rfl⟩)
  · refine Bool.eq_false_iff.mpr fun accepted => ?_
    rcases (exact r hr "ax").mp accepted with ⟨_, ⟨-, rfl⟩, ⟨c, hc, isB⟩, -⟩ | ⟨-, long⟩
    · cases hc
      cases isB
    · cases long

/-- Texts that have no pattern of their own, but complete the group around them, are accepted, and
then match a part of a candidate. A text that ends in a comment is refused, although it has one. -/
theorem regex_pasted :
    (read? "a)|(?:b".toList = none ∧ ∃ r, regex "a)|(?:b" = .ok r ∧ r.accepts "ax" = true) ∧
      (read? "(?x)a # c".toList).isSome ∧ ∀ r, regex "(?x)a # c" ≠ .ok r := by
  refine ⟨⟨by decide, ⟨.regex, "a)|(?:b", none, fun _ => by decide⟩, ?_, by decide⟩, by decide, ?_⟩
  · exact dif_pos (by decide)
  · intro r
    rw [regex, dif_neg (by decide)]
    nofun

end Telemetry.MatchRule
