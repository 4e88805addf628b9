import Telemetry.Proofs.Name.Grammar

/-!
Prefixes of written names. A text goes on after another one and a dot exactly where the nodes of the
one name begin with those of the other, because a dot never stands within a node. What is no written
name is not continued by any.
-/

namespace Telemetry

namespace Text

/-- The text is the base itself, or goes on after the base and a dot. -/
def Covers (base text : String) : Prop := text = base ∨ (base ++ ".").toList <+: text.toList

instance : DecidableRel Covers := fun base text =>
  inferInstanceAs (Decidable (text = base ∨ (base ++ ".").toList <+: text.toList))

/-- A covered text without the base and the dot; the base itself stays whole. -/
def remainder (base text : String) : String :=
  if text = base then text else String.ofList (text.toList.drop (base ++ ".").toList.length)

@[simp] theorem remainder_self (base : String) : remainder base base = base := if_pos rfl

theorem covers_iff {base text : String} :
    Covers base text ↔ text = base ∨ ∃ rest, text = base ++ "." ++ rest := by
  refine or_congr_right ⟨?_, ?_⟩
  · rintro ⟨rest, h⟩
    exact ⟨String.ofList rest, String.toList_inj.mp (by simp [← h])⟩
  · rintro ⟨rest, rfl⟩
    exact ⟨rest.toList, by simp⟩

theorem remainder_append (base : String) {rest : String} :
    remainder base (base ++ "." ++ rest) = rest := by
  have longer : base ++ "." ++ rest ≠ base := by
    intro h
    have := congrArg (fun s => s.toList.length) h
    simp at this
  rw [remainder, if_neg longer]
  simp

end Text

open Text (Covers remainder)

theorem segments_append_dot (cs ds : List Char) :
    segments (cs ++ '.' :: ds) = segments cs ++ segments ds := by
  induction cs with
  | nil => simp [segments]
  | cons c cs ih =>
    rw [List.cons_append, segments, segments, ih]
    split
    · rfl
    · cases hs : segments cs with
      | nil => exact absurd (segments_eq_splitOn cs ▸ hs) (List.splitOn_ne_nil '.' cs)
      | cons s rest => rfl

namespace MetricName

variable {n p : MetricName} {base : String}

theorem dotted_append {ns ms : List Node} (hn : ns ≠ []) (hm : ms ≠ []) :
    dotted (ns ++ ms) = dotted ns ++ '.' :: dotted ms := by
  obtain ⟨m, ms, rfl⟩ := List.exists_cons_of_ne_nil hm
  induction ns with
  | nil => exact absurd rfl hn
  | cons n ns ih =>
    cases ns with
    | nil => rfl
    | cons k ns => simpa [dotted] using ih (List.cons_ne_nil k ns)

theorem text_join {below : MetricName} (hp : p ≠ empty) (hb : below ≠ empty) :
    (p.join below).text = p.text ++ "." ++ below.text := by
  have hp : p.nodes ≠ [] := fun h => hp (eq_of_nodes_eq h)
  have hb : below.nodes ≠ [] := fun h => hb (eq_of_nodes_eq h)
  apply String.toList_inj.mp
  simp [text, chars, dotted_append hp hb]

theorem text_eq_empty_iff : n.text = "" ↔ n = empty :=
  ⟨fun h => text_injective (h.trans rfl), fun h => by rw [h]; rfl⟩

/-- What goes on after a text and a dot is a name below the one that the text writes. -/
theorem exists_join_of_text_eq {base rest : String} (h : n.text = base ++ "." ++ rest) :
    ∃ p below : MetricName, p ≠ empty ∧ below ≠ empty ∧ p.text = base ∧ n = p.join below := by
  have hn : n.nodes ≠ [] := by
    intro hn
    rw [text_eq_empty_iff.mpr (eq_of_nodes_eq hn)] at h
    simpa using congrArg String.toList h
  have parts : n.nodes.map Node.chars = segments base.toList ++ segments rest.toList := by
    rw [← segments_dotted hn, ← segments_append_dot]
    simpa [text, chars] using congrArg (segments ∘ String.toList) h
  obtain ⟨ns, ms, hnm, hns, hms⟩ := List.map_eq_append_iff.mp parts
  have ne_nil {ks : List Node} {cs : List Char} (hk : ks.map Node.chars = segments cs) :
      ks ≠ [] := by
    rintro rfl
    exact List.splitOn_ne_nil '.' cs (segments_eq_splitOn cs ▸ hk.symm)
  refine ⟨⟨ns⟩, ⟨ms⟩, ?_, ?_, ?_, eq_of_nodes_eq hnm⟩
  · exact fun he => ne_nil hns (congrArg nodes he)
  · exact fun he => ne_nil hms (congrArg nodes he)
  · rw [text, chars, dotted_eq_intercalate, hns, segments_eq_splitOn, List.intercalate_splitOn,
      String.ofList_toList]

/-- The names that a text covers are those from the name on that it writes. -/
theorem covers_text_iff (hb : base ≠ "") :
    Covers base n.text ↔ ∃ p, p ≠ empty ∧ p.text = base ∧ n.startsWith p := by
  rw [Text.covers_iff]
  constructor
  · rintro (rfl | ⟨rest, h⟩)
    · exact ⟨n, mt text_eq_empty_iff.mpr hb, rfl, n.startsWith_self⟩
    · obtain ⟨p, below, hp, -, ht, rfl⟩ := exists_join_of_text_eq h
      exact ⟨p, hp, ht, startsWith_join p below⟩
  · rintro ⟨p, hp, rfl, hn⟩
    obtain ⟨below, rfl⟩ := startsWith_iff.mp hn
    by_cases he : below = empty
    · exact .inl (by rw [he, join_empty])
    · exact .inr ⟨below.text, text_join hp he⟩

theorem startsWith_iff_covers (hp : p ≠ empty) : n.startsWith p ↔ Covers p.text n.text := by
  rw [covers_text_iff (mt text_eq_empty_iff.mp hp)]
  refine ⟨fun h => ⟨p, hp, rfl, h⟩, ?_⟩
  rintro ⟨q, -, hq, h⟩
  exact text_injective hq ▸ h

/-- A text that is not the written form of a name covers none. -/
theorem not_covers_of_parse_error {e : NameError} (hb : base ≠ "") (h : parse base = .error e) :
    ¬Covers base n.text := by
  intro hc
  obtain ⟨p, hp, rfl, -⟩ := (covers_text_iff hb).mp hc
  cases (parse_text hp).symm.trans h

end MetricName

end Telemetry
