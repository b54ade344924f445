import RetailPricing.Text.LetterCase

/-!
# Letter case within ASCII

Within ASCII only the letters from A to Z have a lower case, and only those from a
to z have capitals of their own.  So the letter case of an ASCII text is told
without the tables.
-/

namespace RetailPricing

namespace Text

/-- All characters are ASCII characters. -/
def IsASCII (text : List Char) : Prop :=
  ∀ c ∈ text, c.val < 0x80

instance (text : List Char) : Decidable (IsASCII text) :=
  List.decidableBAll (fun c : Char => c.val < 0x80) text

/-- Only the first run of capital letters lies within ASCII. -/
theorem lowerCaseChar_eq_ite_of_ascii {c : Char} (ascii : c.val < 0x80) :
    lowerCaseChar c =
      if 0x41 ≤ c.val.toNat ∧ c.val.toNat ≤ 0x5A then Char.ofNat (c.val.toNat + 32) else c := by
  have low : c.val.toNat < 0x80 := UInt32.lt_iff_toNat_lt.1 ascii
  have runs : lowerCaseRuns = (0x41, 0x5A, 1, 32) :: lowerCaseRuns.tail := rfl
  have others : ∀ run ∈ lowerCaseRuns.tail, 0x80 ≤ run.1 := by decide +kernel
  have noOther {holds : Nat × Nat × Nat × Int → Bool}
      (begun : ∀ run, holds run = true → run.1 ≤ c.val.toNat) :
      lowerCaseRuns.tail.find? holds = none := by
    refine List.find?_eq_none.2 fun run member found => ?_
    have beyond := others run member
    have started := begun run found
    omega
  rw [lowerCaseChar, runs]
  dsimp only
  by_cases capital : 0x41 ≤ c.val.toNat ∧ c.val.toNat ≤ 0x5A
  · rw [List.find?_cons_of_pos (by simpa [Nat.mod_one] using capital), if_pos capital]
    rfl
  · rw [List.find?_cons_of_neg (by simpa [Nat.mod_one] using capital), if_neg capital,
      noOther fun run found => ?_]
    simp only [Bool.and_eq_true, decide_eq_true_eq] at found
    exact found.1.1

/-- What holds of every ASCII character is found out by trying them. -/
theorem forall_ascii {P : Char → Prop} (all : ∀ n < 0x80, P (Char.ofNat n)) {c : Char}
    (ascii : c.val < 0x80) : P c := by
  have here := all c.toNat (UInt32.lt_iff_toNat_lt.1 ascii)
  rwa [Char.ofNat_toNat] at here

theorem lowerCaseChar_of_ascii {c : Char} (ascii : c.val < 0x80) :
    lowerCaseChar c = c.toLower := by
  rw [lowerCaseChar_eq_ite_of_ascii ascii]
  exact forall_ascii
    (P := fun c =>
      (if 0x41 ≤ c.val.toNat ∧ c.val.toNat ≤ 0x5A then Char.ofNat (c.val.toNat + 32) else c) =
        c.toLower)
    (by decide +kernel) ascii

/-- Characters that are no capitals are their own lower case. -/
theorem toLower_of_ascii {c : Char} (ascii : c.val < 0x80) (small : c.isUpper = false) :
    c.toLower = c :=
  forall_ascii (P := fun c => c.isUpper = false → c.toLower = c) (by decide +kernel) ascii
    small

theorem map_toLower_map_toUpper {text : List Char} (ascii : IsASCII text) :
    (text.map Char.toUpper).map Char.toLower = text.map Char.toLower := by
  rw [List.map_map]
  refine List.map_congr_left fun c member => ?_
  exact forall_ascii (P := fun c => c.toUpper.toLower = c.toLower) (by decide +kernel)
    (ascii c member)

/-- Texts with the same capitals have the same lower case. -/
theorem map_toLower_eq_of_map_toUpper_eq {text other : List Char} (ascii : IsASCII text)
    (otherAscii : IsASCII other) (same : text.map Char.toUpper = other.map Char.toUpper) :
    text.map Char.toLower = other.map Char.toLower := by
  rw [← map_toLower_map_toUpper ascii, same, map_toLower_map_toUpper otherAscii]

theorem map_toUpper_map_toLower {text : List Char} (ascii : IsASCII text) :
    (text.map Char.toLower).map Char.toUpper = text.map Char.toUpper := by
  rw [List.map_map]
  refine List.map_congr_left fun c member => ?_
  exact forall_ascii (P := fun c => c.toLower.toUpper = c.toUpper) (by decide +kernel)
    (ascii c member)

theorem lowerCaseAfter_of_ascii {text : List Char} (ascii : IsASCII text)
    (before : List Char) : lowerCaseAfter before text = text.map Char.toLower := by
  induction text generalizing before with
  | nil => rfl
  | cons c rest ih =>
      obtain ⟨here, behind⟩ := List.forall_mem_cons.1 ascii
      rw [lowerCaseAfter]
      split
      next sigma => exact absurd (sigma ▸ here) (by decide)
      next =>
          split
          next dotted => exact absurd (dotted ▸ here) (by decide)
          next =>
              rw [ih behind, lowerCaseChar_of_ascii here]
              rfl

theorem lowerCase_of_ascii {text : List Char} (ascii : IsASCII text) :
    lowerCase text = text.map Char.toLower :=
  lowerCaseAfter_of_ascii ascii []

theorem upperCase?_of_ascii {text : List Char} (ascii : IsASCII text) :
    upperCase? text = some (text.map Char.toUpper) := by
  have capitals : text.mapM upperCaseChar? = some (text.map fun c => [c.toUpper]) := by
    induction text with
    | nil => rfl
    | cons c rest ih =>
        obtain ⟨here, behind⟩ := List.forall_mem_cons.1 ascii
        rw [List.mapM_cons, upperCaseChar?, if_pos here, ih behind]
        rfl
  rw [upperCase?, capitals, Option.map_some, ← List.flatMap_def,
    ← List.map_eq_flatMap]

end Text

end RetailPricing
