import Mathlib.Tactic.ByContra
import RetailPricing.Text.Ascii

/-!
# Letter case beyond ASCII

Words of the vocabularies are made of ASCII characters, so it matters which
texts have such a lower case or such a capital form.  Beyond ASCII, the only
character with a lower case in ASCII is the Kelvin sign, whose lower case is k.
Capital forms in ASCII are more frequent: the dotless i, the long s and some
ligatures have them.

So a word without k is the lower case of ASCII texts only (`lowerCase_eq_iff`),
while texts beyond ASCII may have the same capital form as the word.
-/

namespace RetailPricing

namespace Text

/-- What is told of the runs of capital letters: a run ends within ASCII, or its
lower case lies beyond ASCII, or it is the Kelvin sign. -/
theorem lowerCaseRuns_beyond_ascii : ∀ run ∈ lowerCaseRuns,
    run.2.1 < 0x80 ∨ run.1 = 0x212A ∧ run.2.1 = 0x212A ∧ run.2.2.2 = -8383 ∨
      0x80 ≤ run.1 + run.2.2.2 ∧
        (run.2.1 + run.2.2.2 < 0xD800 ∨
          0xDFFF < run.1 + run.2.2.2 ∧ run.2.1 + run.2.2.2 < 0x110000) := by
  decide +kernel

/-- Beyond ASCII, only the Kelvin sign has a lower case in ASCII. -/
theorem lowerCaseChar_beyond_ascii {c : Char} (beyond : ¬ c.val < 0x80) :
    ¬ (lowerCaseChar c).val < 0x80 ∨ lowerCaseChar c = 'k' := by
  have high : 0x80 ≤ c.val.toNat := Nat.not_lt.1 fun low => beyond (UInt32.lt_iff_toNat_lt.2 low)
  rw [lowerCaseChar]
  dsimp only
  split
  next first last step distance found =>
      have within := List.find?_some found
      simp only [Bool.and_eq_true, decide_eq_true_eq] at within
      obtain ⟨⟨fromFirst, toLast⟩, _⟩ := within
      rcases lowerCaseRuns_beyond_ascii _ (List.mem_of_find?_eq_some found) with
        low | ⟨isFirst, isLast, isDistance⟩ | ⟨beyondASCII, valid⟩
      · dsimp only at low
        omega
      · dsimp only at isFirst isLast isDistance
        have kelvin : c.val.toNat = 0x212A := by omega
        right
        rw [kelvin, isDistance]
        rfl
      · dsimp only at beyondASCII valid
        have isValid : ((c.val.toNat : Int) + distance).toNat.isValidChar := by
          unfold Nat.isValidChar
          omega
        left
        rw [UInt32.lt_iff_toNat_lt, Char.ofNat, dif_pos isValid]
        change ¬ ((c.val.toNat : Int) + distance).toNat < 0x80
        omega
  next => exact .inl beyond

/-- A text whose lower case is made of ASCII characters other than k is itself made
of ASCII characters. -/
theorem isASCII_of_lowerCaseAfter {before text : List Char}
    (ascii : IsASCII (lowerCaseAfter before text)) (noK : 'k' ∉ lowerCaseAfter before text) :
    IsASCII text := by
  induction text generalizing before with
  | nil => exact fun _ member => absurd member (List.not_mem_nil)
  | cons c rest ih =>
      rw [lowerCaseAfter] at ascii noK
      obtain ⟨here, behind⟩ := List.forall_mem_append.1 ascii
      refine List.forall_mem_cons.2
        ⟨?_, ih behind fun member => noK (List.mem_append_right _ member)⟩
      split at here
      next sigma =>
          -- Both small sigmas lie beyond ASCII.
          split at here
          · exact absurd (here _ List.mem_cons_self) (by decide)
          · exact absurd (here _ List.mem_cons_self) (by decide)
      next noSigma =>
          split at here
          next dotted => exact absurd (here '\u0307' (by simp)) (by decide)
          next noDottedI =>
              rw [if_neg noSigma, if_neg noDottedI] at noK
              by_contra beyond
              rcases lowerCaseChar_beyond_ascii beyond with high | isK
              · exact high (here _ List.mem_cons_self)
              · exact noK (List.mem_append_left _ (isK ▸ List.mem_cons_self))

/-- Beyond ASCII, capital forms in ASCII hold an S, an I or an F. -/
theorem isASCII_of_upperCase? {text capitals : List Char}
    (capital : upperCase? text = some capitals)
    (others : ∀ c ∈ capitals, c ≠ 'S' ∧ c ≠ 'I' ∧ c ≠ 'F') : IsASCII text := by
  have beyond : ∀ entry ∈ capitalsInASCII, ∃ c ∈ entry.2, c = 'S' ∨ c = 'I' ∨ c = 'F' := by
    simp [capitalsInASCII]
  obtain ⟨forms, formed, rfl⟩ := Option.map_eq_some_iff.1 capital
  clear capital
  induction text generalizing forms with
  | nil => exact fun _ member => absurd member List.not_mem_nil
  | cons c rest ih =>
      rw [List.mapM_cons] at formed
      obtain ⟨form, here, later⟩ := Option.bind_eq_some_iff.1 formed
      obtain ⟨restForms, behind, ended⟩ := Option.bind_eq_some_iff.1 later
      obtain rfl := Option.some.inj ended
      rw [List.flatten_cons] at others
      refine List.forall_mem_cons.2 ⟨?_, ih restForms behind fun d member =>
        others d (List.mem_append_right _ member)⟩
      by_contra notASCII
      rw [upperCaseChar?, if_neg notASCII] at here
      obtain ⟨entry, found, rfl⟩ := Option.map_eq_some_iff.1 here
      obtain ⟨d, member, isOne⟩ := beyond entry (List.mem_of_find?_eq_some found)
      obtain ⟨noS, noI, noF⟩ := others d (List.mem_append_left _ member)
      rcases isOne with isS | isI | isF
      · exact noS isS
      · exact noI isI
      · exact noF isF

/-- A character as words are made of: an ASCII character that is no capital, and
not k. -/
def isPlain (c : Char) : Bool :=
  c.val < 0x80 && !c.isUpper && c != 'k'

theorem isPlain_iff {c : Char} :
    isPlain c = true ↔ c.val < 0x80 ∧ c.isUpper = false ∧ c ≠ 'k' := by
  simp [isPlain, and_assoc]

/-- A word of plain characters. -/
def IsPlain (word : List Char) : Prop :=
  word.all isPlain = true

theorem IsPlain.of_mem {word : List Char} (plain : IsPlain word) {c : Char}
    (member : c ∈ word) : c.val < 0x80 ∧ c.isUpper = false ∧ c ≠ 'k' :=
  isPlain_iff.1 (List.all_eq_true.1 plain c member)

theorem IsPlain.isASCII {word : List Char} (plain : IsPlain word) : IsASCII word :=
  fun _ member => (plain.of_mem member).1

theorem map_toLower_of_isPlain {word : List Char} (plain : IsPlain word) :
    word.map Char.toLower = word := by
  have same : ∀ c ∈ word, c.toLower = id c := fun c member =>
    toLower_of_ascii (plain.of_mem member).1 (plain.of_mem member).2.1
  rw [List.map_congr_left same, List.map_id]

/-- Plain words differ when their capitals do. -/
theorem eq_of_map_toUpper_eq {word other : List Char} (plain : IsPlain word)
    (otherPlain : IsPlain other)
    (same : word.map Char.toUpper = other.map Char.toUpper) : word = other := by
  have lowered := map_toLower_eq_of_map_toUpper_eq plain.isASCII otherPlain.isASCII same
  rwa [map_toLower_of_isPlain plain, map_toLower_of_isPlain otherPlain] at lowered

/-- A plain word is the lower case of just those texts that have its capital form and
are made of ASCII characters. -/
theorem lowerCase_eq_iff {text word : List Char} (plain : IsPlain word) :
    lowerCase text = word ↔
      IsASCII text ∧ upperCase? text = some (word.map Char.toUpper) := by
  constructor
  · rintro rfl
    have ascii : IsASCII text :=
      isASCII_of_lowerCaseAfter plain.isASCII fun member => (plain.of_mem member).2.2 rfl
    refine ⟨ascii, ?_⟩
    rw [upperCase?_of_ascii ascii, lowerCase_of_ascii ascii, map_toUpper_map_toLower ascii]
  · rintro ⟨ascii, capitals⟩
    rw [upperCase?_of_ascii ascii] at capitals
    have lowered :=
      map_toLower_eq_of_map_toUpper_eq ascii plain.isASCII (Option.some.inj capitals)
    rw [lowerCase_of_ascii ascii, lowered, map_toLower_of_isPlain plain]

end Text

end RetailPricing
