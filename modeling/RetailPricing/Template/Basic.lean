import RetailPricing.Decimal.Numeral

/-!
# Templates

The event of a log line may be a template: a text with placeholders, for which
arguments stand in when the line is written. A placeholder starts with a
percent sign and ends with the letter that says how its argument is shown. In
between it may name the argument by a key, and ask for a width and for a number
of places. Two percent signs stand for one.

Reading a template never fails. What is wrong with a placeholder is only found
out when its turn comes to be filled.
-/

namespace RetailPricing

namespace Template

/-- The key of a placeholder, between parentheses. -/
inductive Key
  | none
  | unclosed
  | named (characters : List Char)
deriving DecidableEq

/-- A number in a placeholder: left out, written, or an argument itself. -/
inductive Size
  | omitted
  | written (n : Nat)
  | fromArgument
deriving DecidableEq

/-- A placeholder; the letter is missing if the template ends before it. -/
structure Placeholder where
  key : Key
  flags : List Char
  width : Size
  places : Size
  letter : Option Char
deriving DecidableEq

inductive Piece
  | literal (c : Char)
  | placeholder (p : Placeholder)
deriving DecidableEq

/-- The characters up to the parenthesis that closes `depth` others and the one
before them, and what follows it. -/
def closeKey? : (depth : Nat) → List Char → Option (List Char × List Char)
  | _, [] => .none
  | 0, ')' :: rest => some ([], rest)
  | depth + 1, ')' :: rest => (closeKey? depth rest).map (·.map (')' :: ·) id)
  | depth, c :: rest =>
      (closeKey? (if c = '(' then depth + 1 else depth) rest).map
        (·.map (c :: ·) id)

/-- A key in front, and what follows it; nothing follows an unclosed one. -/
def readKey : List Char → Key × List Char
  | '(' :: rest =>
      match closeKey? 0 rest with
      | some (key, behind) => (.named key, behind)
      | .none => (.unclosed, [])
  | rest => (.none, rest)

def isFlag (c : Char) : Bool :=
  "-+ #0".toList.contains c

/-- A number in front, and what follows it. -/
def readSize : List Char → Size × List Char
  | '*' :: rest => (.fromArgument, rest)
  | cs =>
      match Numeral.splitDigits cs with
      | ([], _) => (.omitted, cs)
      | (digits, rest) => (.written (Numeral.valueOfDigits digits), rest)

/-- A number behind a point; behind a point, no digits count as zero. -/
def readPlaces : List Char → Size × List Char
  | '.' :: rest =>
      match readSize rest with
      | (.omitted, behind) => (.written 0, behind)
      | found => found
  | rest => (.omitted, rest)

/-- What follows one of the letters that say how wide the argument is in
memory, which make no difference. -/
def skipMemoryWidth : List Char → List Char
  | 'h' :: rest | 'l' :: rest | 'L' :: rest => rest
  | rest => rest

/-- The placeholder behind a percent sign, and what follows it. -/
def readPlaceholder (cs : List Char) : Placeholder × List Char :=
  let (key, keyless) := readKey cs
  let flags := keyless.takeWhile isFlag
  let (width, narrower) := readSize (keyless.dropWhile isFlag)
  let (places, ending) := readPlaces narrower
  match skipMemoryWidth ending with
  | [] => (⟨key, flags, width, places, .none⟩, [])
  | letter :: rest => (⟨key, flags, width, places, some letter⟩, rest)

theorem length_of_closeKey? {depth : Nat} {cs key rest : List Char}
    (closed : closeKey? depth cs = some (key, rest)) :
    rest.length ≤ cs.length := by
  fun_induction closeKey? depth cs generalizing key with
  | case1 => simp at closed
  | case2 => simp_all
  | case3 depth behind ih =>
      simp only [Option.map_eq_some_iff, Prod.exists, Prod.map_apply, id_eq,
        Prod.mk.injEq] at closed
      obtain ⟨inner, left, found, -, rfl⟩ := closed
      exact Nat.le_succ_of_le (ih found)
  | case4 depth c behind _ _ ih =>
      simp only [Option.map_eq_some_iff, Prod.exists, Prod.map_apply, id_eq,
        Prod.mk.injEq] at closed
      obtain ⟨inner, left, found, -, rfl⟩ := closed
      exact Nat.le_succ_of_le (ih found)

theorem length_readKey_le (cs : List Char) :
    (readKey cs).2.length ≤ cs.length := by
  unfold readKey
  split
  · split
    · exact Nat.le_succ_of_le (length_of_closeKey? ‹_›)
    · exact Nat.zero_le _
  · exact Nat.le_refl _

theorem length_dropWhile_le (p : Char → Bool) (cs : List Char) :
    (cs.dropWhile p).length ≤ cs.length :=
  (List.dropWhile_sublist p).length_le

theorem length_readSize_le (cs : List Char) :
    (readSize cs).2.length ≤ cs.length := by
  unfold readSize
  split
  · exact Nat.le_succ _
  · split
    · exact Nat.le_refl _
    · rename_i split
      have behind := congrArg Prod.snd split
      simp only [Numeral.splitDigits] at behind
      exact behind ▸ length_dropWhile_le _ _

theorem length_readPlaces_le (cs : List Char) :
    (readPlaces cs).2.length ≤ cs.length := by
  unfold readPlaces
  split
  · rename_i rest
    have shorter := length_readSize_le rest
    split
    · rename_i found
      rw [found] at shorter
      exact Nat.le_succ_of_le shorter
    · exact Nat.le_succ_of_le shorter
  · exact Nat.le_refl _

theorem length_skipMemoryWidth_le (cs : List Char) :
    (skipMemoryWidth cs).length ≤ cs.length := by
  unfold skipMemoryWidth
  split <;> simp

theorem length_readPlaceholder_le (cs : List Char) :
    (readPlaceholder cs).2.length ≤ cs.length := by
  have keyless := length_readKey_le cs
  have flagless := length_dropWhile_le isFlag (readKey cs).2
  have narrower := length_readSize_le ((readKey cs).2.dropWhile isFlag)
  have ending :=
    length_readPlaces_le (readSize ((readKey cs).2.dropWhile isFlag)).2
  have letters := length_skipMemoryWidth_le
    (readPlaces (readSize ((readKey cs).2.dropWhile isFlag)).2).2
  simp only [readPlaceholder]
  split
  · exact Nat.zero_le _
  · rename_i found
    rw [found, List.length_cons] at letters
    simp only
    omega

def pieces : List Char → List Piece
  | [] => []
  | '%' :: '%' :: rest => .literal '%' :: pieces rest
  | '%' :: rest =>
      .placeholder (readPlaceholder rest).1 :: pieces (readPlaceholder rest).2
  | c :: rest => .literal c :: pieces rest
termination_by cs => cs.length
decreasing_by
  all_goals have := length_readPlaceholder_le rest
  all_goals simp only [List.length_cons]; omega

end Template

end RetailPricing
