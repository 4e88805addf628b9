import Mathlib.Data.List.Basic
import Telemetry.Config.Key

/-!
The spellings of a key. A key is a list of words, and what stands between two words is free to
choose: a separator, a capital or both. All spellings have one normal form, which is normal itself,
and keys of different words have different ones.
-/

namespace Telemetry.Config.Key

/-- A small letter and, behind it, at least one more small letter or digit, all of them ASCII. -/
structure Word where
  first : Char
  rest : List Char
  isLower_first : first.isLower
  rest_ne_nil : rest ≠ []
  isLower_or_isDigit : ∀ c ∈ rest, c.isLower ∨ c.isDigit

namespace Word

def chars (w : Word) : List Char := w.first :: w.rest

def text (w : Word) : String := String.ofList w.chars

def capitalized (w : Word) : List Char := w.first.toUpper :: w.rest

def spelled (w : Word) (capital : Bool) : List Char := if capital then w.capitalized else w.chars

end Word

/-- What stands between two words. -/
inductive Joint
  | underscore (capital : Bool)
  | hyphen (capital : Bool)
  /-- Nothing but a capital, with which the next word begins. -/
  | capital

namespace Joint

def separator : Joint → List Char
  | .underscore _ => ['_']
  | .hyphen _ => ['-']
  | .capital => []

def capitalizes : Joint → Bool
  | .underscore b | .hyphen b => b
  | .capital => true

end Joint

structure Spelling where
  capital : Bool
  first : Word
  others : List (Joint × Word)

namespace Spelling

def words (s : Spelling) : List Word := s.first :: s.others.map (·.2)

def joined (p : Joint × Word) : List Char := p.1.separator ++ p.2.spelled p.1.capitalizes

def chars (s : Spelling) : List Char := s.first.spelled s.capital ++ s.others.flatMap joined

def text (s : Spelling) : String := String.ofList s.chars

end Spelling

/-! ### Characters -/

theorem bounds_of_isLower {c : Char} (h : c.isLower) : 0x61 ≤ c.toNat ∧ c.toNat ≤ 0x7A := by
  change (decide ('a'.val ≤ c.val) && decide (c.val ≤ 'z'.val)) = true at h
  rwa [Bool.and_eq_true, decide_eq_true_eq, decide_eq_true_eq] at h

theorem bounds_of_isDigit {c : Char} (h : c.isDigit) : 0x30 ≤ c.toNat ∧ c.toNat ≤ 0x39 := by
  change (decide ('0'.val ≤ c.val) && decide (c.val ≤ '9'.val)) = true at h
  rwa [Bool.and_eq_true, decide_eq_true_eq, decide_eq_true_eq] at h

theorem toUpper_of_isLower {c : Char} (h : c.isLower) :
    isUpper c.toUpper ∧ toLower c.toUpper = c := by
  have letters : ∀ n < 26, isUpper (Char.ofNat (0x61 + n)).toUpper ∧
      toLower (Char.ofNat (0x61 + n)).toUpper = Char.ofNat (0x61 + n) := by decide
  have bounds := bounds_of_isLower h
  have letter := letters (c.toNat - 0x61) (by omega)
  rwa [Nat.add_sub_cancel' bounds.1, Char.ofNat_toNat] at letter

theorem isLowerOrDigit_of_ascii {c : Char} (h : c.isLower ∨ c.isDigit) : isLowerOrDigit c := by
  have bounds := h.imp bounds_of_isLower bounds_of_isDigit
  simpa [isLowerOrDigit] using bounds

theorem kept_of_isLowerOrDigit {c : Char} (h : isLowerOrDigit c) :
    ¬(c = '-' ∨ c = '_') ∧ isUpper c = false := by
  constructor
  · rintro (rfl | rfl) <;> exact absurd h (by decide)
  · simp only [isLowerOrDigit, isUpper, Bool.or_eq_true, Bool.and_eq_true, decide_eq_true_eq,
      Bool.and_eq_false_iff, decide_eq_false_iff_not] at h ⊢
    omega

/-! ### Words -/

variable {joined : Bool} {tail : List Char}

theorem normalizeChars_capital {c : Char} (h : c.isLower) (joined : Bool) (tail : List Char) :
    normalizeChars joined (c.toUpper :: tail) =
      (if joined then ['_', c] else [c]) ++ normalizeChars false tail := by
  obtain ⟨upper, lower⟩ := toUpper_of_isLower h
  have letter : ¬(c.toUpper = '-' ∨ c.toUpper = '_') := by
    rintro (h | h) <;> rw [h] at upper <;> exact absurd upper (by decide)
  cases joined <;> simp [normalizeChars, letter, upper, lower]

/-- What a word is made of stays as it is, and a capital behind it begins another word. -/
theorem normalizeChars_plain {cs : List Char} (h : ∀ c ∈ cs, c.isLower ∨ c.isDigit)
    (nonempty : cs ≠ []) (joined : Bool) (tail : List Char) :
    normalizeChars joined (cs ++ tail) = cs ++ normalizeChars true tail := by
  induction cs generalizing joined with
  | nil => exact absurd rfl nonempty
  | cons c cs ih =>
    rw [List.forall_mem_cons] at h
    have plain := isLowerOrDigit_of_ascii h.1
    obtain ⟨letter, upper⟩ := kept_of_isLowerOrDigit plain
    rw [List.cons_append, normalizeChars, if_neg letter, upper, plain]
    cases cs with
    | nil => rfl
    | cons d ds => exact congrArg (c :: ·) (ih h.2 (List.cons_ne_nil _ _) true)

theorem normalizeChars_spelled (w : Word) (capital joined : Bool) (tail : List Char) :
    normalizeChars joined (w.spelled capital ++ tail) =
      (if capital && joined then ['_'] else []) ++ w.chars ++ normalizeChars true tail := by
  cases capital with
  | false =>
    have letters : ∀ c ∈ w.chars, c.isLower ∨ c.isDigit :=
      List.forall_mem_cons.mpr ⟨.inl w.isLower_first, w.isLower_or_isDigit⟩
    exact normalizeChars_plain letters (List.cons_ne_nil _ _) joined tail
  | true =>
    have rest := normalizeChars_plain w.isLower_or_isDigit w.rest_ne_nil false tail
    cases joined <;>
      simp [Word.spelled, Word.capitalized, Word.chars, normalizeChars_capital w.isLower_first, rest]

/-! ### Spellings -/

/-- However it is joined, a word comes behind one underscore. -/
theorem normalizeChars_joined (p : Joint × Word) (tail : List Char) :
    normalizeChars true (Spelling.joined p ++ tail) =
      '_' :: p.2.chars ++ normalizeChars true tail := by
  obtain ⟨joint, w⟩ := p
  cases joint with
  | underscore capital | hyphen capital =>
    cases capital <;>
      simp [Spelling.joined, Joint.separator, Joint.capitalizes, normalizeChars,
        normalizeChars_spelled]
  | capital =>
    simp [Spelling.joined, Joint.separator, Joint.capitalizes, normalizeChars_spelled]

theorem normalizeChars_others (ps : List (Joint × Word)) :
    normalizeChars true (ps.flatMap Spelling.joined) = ps.flatMap ('_' :: ·.2.chars) := by
  induction ps with
  | nil => rfl
  | cons p ps ih => rw [List.flatMap_cons, normalizeChars_joined, ih, List.flatMap_cons]

theorem normalizeChars_chars (s : Spelling) :
    normalizeChars false s.chars = s.first.chars ++ s.others.flatMap ('_' :: ·.2.chars) := by
  rw [Spelling.chars, normalizeChars_spelled, normalizeChars_others, Bool.and_false]
  rfl

theorem intercalate_words (first : Word) (others : List (Joint × Word)) :
    ['_'].intercalate ((first :: others.map (·.2)).map Word.chars) =
      first.chars ++ others.flatMap ('_' :: ·.2.chars) := by
  induction others generalizing first with
  | nil => simp
  | cons p ps ih =>
    rw [List.map_cons, List.map_cons, List.map_cons, List.intercalate_cons_cons, ← List.map_cons,
      ih, List.flatMap_cons]
    simp

theorem toList_normalize_text (s : Spelling) :
    (normalize s.text).toList = ['_'].intercalate (s.words.map Word.chars) := by
  rw [Spelling.words, intercalate_words, ← normalizeChars_chars]
  simp [normalize, Spelling.text]

/-! ### Normal forms -/

/-- Neither hyphens nor capitals. -/
def IsNormal (cs : List Char) : Prop := ∀ c ∈ cs, c ≠ '-' ∧ isUpper c = false

theorem toLower_of_isUpper {c : Char} (h : isUpper c) :
    toLower c ≠ '-' ∧ isUpper (toLower c) = false := by
  simp only [isUpper, Bool.and_eq_true, decide_eq_true_eq] at h
  have letters : ∀ n : Fin 26, Char.ofNat (0x61 + n) ≠ '-' ∧
      isUpper (Char.ofNat (0x61 + n)) = false := by decide
  have this := letters ⟨c.toNat - 0x41, by omega⟩
  simp only [show 0x61 + (c.toNat - 0x41) = c.toNat + 0x20 by omega] at this
  exact this

theorem isNormal_normalizeChars (joined : Bool) (cs : List Char) :
    IsNormal (normalizeChars joined cs) := by
  induction cs generalizing joined with
  | nil => simp [IsNormal, normalizeChars]
  | cons c cs ih =>
    have underscore : '_' ≠ '-' ∧ isUpper '_' = false := by decide
    rw [normalizeChars]
    split
    · exact List.forall_mem_cons.mpr ⟨underscore, ih false⟩
    · next letter =>
      split
      · next upper =>
        have small : IsNormal (toLower c :: normalizeChars false cs) :=
          List.forall_mem_cons.mpr ⟨toLower_of_isUpper upper, ih false⟩
        split
        · exact List.forall_mem_cons.mpr ⟨underscore, small⟩
        · exact small
      · next upper =>
        have kept : c ≠ '-' ∧ isUpper c = false :=
          ⟨fun h => letter (.inl h), Bool.eq_false_iff.mpr upper⟩
        exact List.forall_mem_cons.mpr ⟨kept, ih _⟩

theorem normalizeChars_of_isNormal {cs : List Char} (h : IsNormal cs) (joined : Bool) :
    normalizeChars joined cs = cs := by
  induction cs generalizing joined with
  | nil => rfl
  | cons c cs ih =>
    obtain ⟨⟨hyphen, upper⟩, rest⟩ := List.forall_mem_cons.mp h
    rw [normalizeChars]
    split
    · next separator => rw [separator.resolve_left hyphen, ih rest]
    · rw [upper, if_neg Bool.false_ne_true, ih rest]

theorem normalize_normalize (key : String) : normalize (normalize key) = normalize key := by
  simp [normalize, normalizeChars_of_isNormal (isNormal_normalizeChars false key.toList)]

/-! ### Keys -/

theorem normalize_text (s : Spelling) :
    normalize s.text = "_".intercalate (s.words.map Word.text) := by
  apply String.toList_inj.mp
  rw [toList_normalize_text, String.toList_intercalate, List.map_map]
  congr 1
  exact List.map_congr_left fun w _ => (String.toList_ofList).symm

theorem underscore_notMem_chars (w : Word) : '_' ∉ w.chars := by
  intro h
  have plain : '_'.isLower ∨ '_'.isDigit := by
    rcases List.mem_cons.mp h with first | rest
    · exact .inl (first ▸ w.isLower_first)
    · exact w.isLower_or_isDigit _ rest
  exact absurd plain (by decide)

theorem Word.eq_of_chars_eq {v w : Word} (h : v.chars = w.chars) : v = w := by
  cases v
  cases w
  cases h
  rfl

/-- Two keys are the same key exactly if they have the same words. -/
theorem normalize_text_eq_iff {s t : Spelling} :
    normalize s.text = normalize t.text ↔ s.words = t.words := by
  have split (s : Spelling) : (normalize s.text).toList.splitOn '_' = s.words.map Word.chars := by
    rw [toList_normalize_text]
    refine List.splitOn_intercalate '_' (fun cs h => ?_) (List.cons_ne_nil _ _)
    obtain ⟨w, -, rfl⟩ := List.mem_map.mp h
    exact underscore_notMem_chars w
  constructor
  · intro h
    have same : s.words.map Word.chars = t.words.map Word.chars := by
      rw [← split s, ← split t, h]
    exact (List.map_inj_right fun _ _ => Word.eq_of_chars_eq).mp same
  · intro h
    rw [normalize_text, normalize_text, h]

/-- The words are read from any spelling of a key, and a normal form is its own. -/
theorem spellings_agree :
    (∀ s : Spelling, normalize s.text = "_".intercalate (s.words.map Word.text)) ∧
      ∀ key, normalize (normalize key) = normalize key :=
  ⟨normalize_text, normalize_normalize⟩

-- A single letter between two capitals is not told from the word behind it.
example : normalize "useXId" = "use_xid" := by decide +kernel

end Telemetry.Config.Key
