import Telemetry.Proofs.Name.Prefix
import Telemetry.Proofs.Registry.Snapshot
import Telemetry.Registry.Service

/-!
Removals, lists of names and readings by the written form of a prefix. They take in exactly the
names whose texts the prefix covers, so that a reading from a text is the reading from the name that
it writes, if it writes any.
-/

namespace Telemetry.Registry

open Text (Covers remainder)

variable {r : Registry} {base name : MetricName}

theorem shownAs_eq_remainder (hb : base ≠ .empty) (h : name.startsWith base) :
    shownAs base name = remainder base.text name.text := by
  obtain ⟨below, rfl⟩ := MetricName.startsWith_iff.mp h
  by_cases he : below = .empty
  · rw [he, MetricName.join_empty, shownAs_self, Text.remainder_self]
  · rw [shownAs_join he, MetricName.text_join hb he, Text.remainder_append]

/-- The names that a prefix covers, each under what remains of its text and with what its metric
shows. All of these metrics catch up, and no others. -/
def readCovered (r : Registry) (base : String) : Table String Snapshot × Registry :=
  let covered := r.names.entries.filter fun e => Covers base e.1.text
  (.ofList (covered.filterMap fun e => (r.read e.2).1.map fun s => (remainder base e.1.text, s)),
    r.catchUpAll (covered.map (·.2)))

theorem readFrom_eq_readCovered (r : Registry) (hb : base ≠ .empty) :
    r.readFrom base = r.readCovered base.text := by
  have chosen : (r.names.filterKeys (·.startsWith base)).entries =
      r.names.entries.filter fun e => Covers base.text e.1.text := by
    refine List.filter_congr fun e _ => ?_
    rw [Bool.eq_iff_iff, decide_eq_true_iff]
    exact MetricName.startsWith_iff_covers hb
  refine Prod.ext ?_ ?_
  · rw [readFrom_eq, shown, readCovered, chosen]
    refine congrArg Table.ofList (List.filterMap_congr fun e he => ?_)
    have covered := (List.mem_filter.mp he).2
    rw [decide_eq_true_iff, ← MetricName.startsWith_iff_covers hb] at covered
    rw [shownAs_eq_remainder hb covered]
  · rw [readFrom, readAll_eq, readCovered, Table.values, chosen]

/-- No name is left to a text that none is written like. -/
theorem readCovered_of_none {q : String} (h : ∀ n : MetricName, ¬Covers q n.text) :
    r.readCovered q = (.empty, r) := by
  have none_covered : (r.names.entries.filter fun e => Covers q e.1.text) = [] := by
    simp [h]
  rw [readCovered, none_covered]
  rfl

theorem readText_eq_readCovered (r : Registry) {q : String} (hq : q ≠ "") :
    r.readText q = r.readCovered q := by
  rw [readText, if_neg hq]
  split
  · next n parsed =>
    obtain ⟨hn, rfl⟩ := MetricName.parse_eq_ok_iff.mp parsed
    exact r.readFrom_eq_readCovered hn
  · next e he =>
    exact (readCovered_of_none fun n => MetricName.not_covers_of_parse_error hq he).symm

/-- Below the empty name are all names, and each has its full text there. -/
theorem readFrom_empty (r : Registry) : r.readFrom .empty = r.readEverything := by
  have start (n : MetricName) : n.startsWith .empty = true := MetricName.startsWith_join .empty n
  have key (n : MetricName) : (n.relativeTo? .empty).getD n.text = n.text := by
    by_cases hn : n = .empty
    · subst hn
      rfl
    · exact congrArg (·.getD n.text) (MetricName.relativeTo?_join .empty n hn)
  rw [readFrom, readEverything, funext start, funext key]

theorem readText_text (r : Registry) (base : MetricName) :
    r.readText base.text = r.readFrom base := by
  by_cases hb : base = .empty
  · subst hb
    exact r.readFrom_empty.symm
  · rw [r.readText_eq_readCovered (mt MetricName.text_eq_empty_iff.mp hb),
      r.readFrom_eq_readCovered hb]

theorem namesFrom_eq_filter_covers (r : Registry) (hb : base ≠ .empty) :
    r.namesFrom base = r.nameList.filter fun n => Covers base.text n.text := by
  refine List.filter_congr fun n _ => ?_
  rw [Bool.eq_iff_iff, decide_eq_true_iff]
  exact MetricName.startsWith_iff_covers hb

theorem mem_keys_readCovered {q key : String} : key ∈ (r.readCovered q).1.keys ↔
    ∃ name, (r.id? name).isSome ∧ Covers q name.text ∧ remainder q name.text = key := by
  rw [readCovered, Table.mem_keys_ofList, List.mem_map]
  constructor
  · rintro ⟨⟨k, s⟩, hs, rfl⟩
    obtain ⟨⟨name, id⟩, he, hk⟩ := List.mem_filterMap.mp hs
    obtain ⟨he, hc⟩ := List.mem_filter.mp he
    obtain ⟨s', -, hk⟩ := Option.map_eq_some_iff.mp hk
    cases hk
    exact ⟨name, Option.isSome_of_eq_some (Table.find?_eq_some_iff.mpr he), by simpa using hc, rfl⟩
  · rintro ⟨name, hs, hc, rfl⟩
    obtain ⟨id, hid⟩ := Option.isSome_iff_exists.mp hs
    obtain ⟨s, hr⟩ := exists_read hid
    refine ⟨(remainder q name.text, s), List.mem_filterMap.mpr ⟨(name, id), ?_, by simp [hr]⟩, rfl⟩
    exact List.mem_filter.mpr ⟨Table.find?_eq_some_iff.mp hid, by simpa using hc⟩

/-- Whether a name lies at or below another one can be told from their texts. So removals, lists of
names and readings take in exactly the names that the text of the prefix covers, and a reading from
any other text takes in none. A reading from a name is the one from its text, also from the empty
name, which takes in everything. -/
theorem prefixes_by_text (r : Registry) :
    (∀ n p : MetricName, p ≠ .empty → (n.startsWith p ↔ Covers p.text n.text)) ∧
    (∀ p : MetricName, p ≠ .empty →
      (∀ name, (r.remove p).2.id? name =
        if Covers p.text name.text then none else r.id? name) ∧
      (r.remove p).1 = (r.nameList.filter fun n => Covers p.text n.text).length ∧
      r.namesFrom p = r.nameList.filter (fun n => Covers p.text n.text) ∧
      r.readFrom p = r.readCovered p.text) ∧
    (∀ q, q ≠ "" →
      r.readText q = r.readCovered q ∧
      (∀ key, key ∈ (r.readText q).1.keys ↔
        ∃ name, (r.id? name).isSome ∧ Covers q name.text ∧ remainder q name.text = key) ∧
      ∀ e, MetricName.parse q = .error e →
        (∀ n : MetricName, ¬Covers q n.text) ∧ r.readText q = (.empty, r)) ∧
    ∀ base : MetricName, r.readText base.text = r.readFrom base := by
  refine ⟨fun n p hp => MetricName.startsWith_iff_covers hp, fun p hp => ⟨fun name => ?_, ?_,
    r.namesFrom_eq_filter_covers hp, r.readFrom_eq_readCovered hp⟩,
    fun q hq => ⟨r.readText_eq_readCovered hq, fun key => ?_, fun e he => ?_⟩, r.readText_text⟩
  · rw [id?_remove]
    exact if_congr (MetricName.startsWith_iff_covers hp) rfl rfl
  · rw [removed_eq_length_namesFrom, namesFrom_eq_filter_covers r hp]
  · rw [readText_eq_readCovered r hq, mem_keys_readCovered]
  · have none_covered (n : MetricName) : ¬Covers q n.text :=
      MetricName.not_covers_of_parse_error hq he
    exact ⟨none_covered, (r.readText_eq_readCovered hq).trans (readCovered_of_none none_covered)⟩

end Telemetry.Registry
