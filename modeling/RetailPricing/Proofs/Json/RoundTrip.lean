import RetailPricing.Proofs.Json.Tokens
import RetailPricing.Proofs.Outcome

/-!
# Reading what is written

A datum is read back from every text in which its tokens are spaced out
(`read_of_writes`).  The reader takes the tokens of a value from wherever they stand and
leaves the tokens behind them (`Readable`).  This is shown by induction on how the value
is written, with the members of a list and the entries of an object one after the other.
Two steps are enough for each token, and no token is empty, so the reader has steps
enough for every text.
-/

namespace RetailPricing

namespace Json

/-- The reading gives the result and leaves these tokens. -/
def Takes {α : Type} (reading : Except ReadFault (α × Cursor)) (result : α) (tokens : List Token) :
    Prop :=
  ∃ behind, reading = .ok (result, behind) ∧ Spaced tokens behind.rest

/-- What stands behind a value in a row of tokens. -/
def Follows (tokens : List Token) : Prop :=
  ∀ token ∈ tokens.head?, token ∈ [[','], [']'], ['\x7d']]

theorem Spaced.endsValue {tokens : List Token} {rest : List Char} (follows : Follows tokens)
    (spaced : Spaced tokens rest) : EndsValue rest := by
  intro c more same
  rw [List.mem_append]
  cases spaced with
  | done blank => exact .inl (blank (same ▸ List.mem_cons_self))
  | @token blanks _ token _ blank _ =>
      cases blanks with
      | nil =>
          have ends := follows token rfl
          simp only [List.mem_cons, List.not_mem_nil, or_false] at ends
          rcases ends with rfl | rfl | rfl <;> cases same <;> simp
      | cons b blanks =>
          cases same
          exact .inl (blank List.mem_cons_self)

/-- Wherever the tokens stand, the datum is read from them. -/
def Readable (datum : Datum) (tokens : List Token) : Prop :=
  ∀ (steps : Nat) (cursor : Cursor) (more : List Token), 2 * tokens.length ≤ steps →
    Follows more → Spaced (tokens ++ more) cursor.rest →
      Takes (readValue steps cursor.skipBlanks) datum more

theorem readable_of_token {datum : Datum} {token : Token} (isToken : IsToken token)
    (reads : ∀ (steps : Nat) (cursor : Cursor) (rest : List Char), EndsValue rest →
      cursor.rest = token ++ rest → ∃ behind, readValue (steps + 1) cursor = .ok (datum, behind) ∧
        behind.rest = rest) : Readable datum [token] := by
  intro steps cursor more enough follows spaced
  obtain ⟨rest, ahead, spaced⟩ := spaced.skipBlanks_cons isToken
  obtain ⟨behind, read, left⟩ := reads (steps - 1) _ rest (spaced.endsValue follows) ahead
  rw [Nat.sub_add_cancel (by simp at enough; omega)] at read
  exact ⟨behind, read, left ▸ spaced⟩

theorem readValue_eq_readScalar (steps : Nat) {cursor : Cursor} {token : Token}
    {rest : List Char} (isScalar : IsScalar token) (ahead : cursor.rest = token ++ rest) :
    readValue (steps + 1) cursor = readScalar cursor := by
  obtain ⟨c, others, rfl, scalar⟩ := isScalar.exists_cons
  have other (d : Char) (member : d ∈ ['"', '\x7b', '[', ']', '\uFEFF']) {more : List Char} :
      c :: others ++ rest ≠ d :: more := by
    rintro ⟨⟩
    exact scalar member
  rw [readValue.eq_def]
  dsimp only
  rw [ahead]
  split
  next same => exact absurd same (other '"' (by decide))
  next same => exact absurd same (other '\x7b' (by decide))
  next same => exact absurd same (other '[' (by decide))
  next => rfl

theorem readable_of_scalar {datum : Datum} {token : Token} (isScalar : IsScalar token)
    (reads : ∀ (cursor : Cursor) (rest : List Char), EndsValue rest →
      cursor.rest = token ++ rest → readScalar cursor = .ok (datum, cursor.advance token.length)) :
    Readable datum [token] := by
  refine readable_of_token isScalar.isToken fun steps cursor rest ends ahead => ?_
  refine ⟨cursor.advance token.length, ?_, by rw [Cursor.advance, ahead, List.drop_left]⟩
  rw [readValue_eq_readScalar steps isScalar ahead, reads cursor rest ends ahead]

theorem readable_of_constant {datum : Datum} {letters : Token}
    (listed : (datum, letters) ∈ constants) : Readable datum [letters] :=
  readable_of_scalar (isScalar_of_constant listed) fun _ _ _ ahead =>
    readScalar_of_constant listed ahead

theorem readable_of_number {literal : NumberLiteral} (formed : literal.IsFormed)
    (limits : literal.IsWithinLimits) : Readable literal.datum [literal.text] := by
  refine readable_of_scalar formed.isScalar_text fun cursor rest ends ahead => ?_
  rw [readScalar, ahead, formed.find?_words rest]
  exact formed.readNumber_text ends limits ahead

theorem readable_of_text {s : String} {written : List Char} (spells : Spells s.toList written) :
    Readable (.ofString s) [quoted written] := by
  refine readable_of_token spells.isToken_quoted fun steps cursor rest _ ahead => ?_
  obtain ⟨behind, read, left⟩ := readText_of_spells spells cursor.place rest
  have start : cursor.rest = '"' :: (written ++ '"' :: rest) := by
    simp [ahead, quoted]
  refine ⟨behind, ?_, left⟩
  rw [readValue, start]
  change (readText cursor.place (written ++ '"' :: rest)).map _ = _
  rw [read]
  rfl

section Members

variable {steps : Nat} {cursor behind : Cursor} {member : Datum} {rest : List Char}
  (read : readValue steps cursor = .ok (member, behind))

include read

theorem readMembers_close (close : behind.skipBlanks.rest = ']' :: rest) :
    readMembers (steps + 1) cursor = .ok ([member], ⟨behind.skipBlanks.place + 1, rest⟩) := by
  rw [readMembers]
  refine Outcome.bind_eq_ok_iff.2 ⟨_, read, ?_⟩
  dsimp only
  rw [close]
  rfl

theorem readMembers_comma (comma : behind.skipBlanks.rest = ',' :: rest) {others : List Datum}
    {later : Cursor} (readOthers : readMembers steps
      (Cursor.skipBlanks ⟨behind.skipBlanks.place + 1, rest⟩) = .ok (others, later)) :
    readMembers (steps + 1) cursor = .ok (member :: others, later) := by
  rw [readMembers]
  refine Outcome.bind_eq_ok_iff.2 ⟨_, read, ?_⟩
  dsimp only
  rw [comma]
  exact Outcome.bind_eq_ok_iff.2 ⟨_, readOthers, rfl⟩

end Members

theorem takes_members {members : List (Datum × List Token)} (given : members ≠ [])
    (each : ∀ member ∈ members, Readable member.1 member.2) {steps : Nat} {cursor : Cursor}
    {more : List Token} (enough : 2 * (separated (members.map Prod.snd)).length + 1 ≤ steps)
    (spaced : Spaced (separated (members.map Prod.snd) ++ [']'] :: more) cursor.rest) :
    Takes (readMembers steps cursor.skipBlanks) (members.map Prod.fst) more := by
  induction members generalizing steps cursor with
  | nil => exact absurd rfl given
  | cons member others ih =>
      obtain ⟨first, later⟩ := List.forall_mem_cons.1 each
      cases steps with
      | zero => omega
      | succ steps =>
          cases others with
          | nil =>
              have fits : 2 * member.2.length ≤ steps := by
                simp only [List.map_cons, List.map_nil, separated] at enough
                omega
              obtain ⟨behind, read, left⟩ :=
                first steps cursor _ fits (by simp [Follows]) spaced
              obtain ⟨rest, close, left⟩ := left.skipBlanks_mark (by decide)
              exact ⟨_, readMembers_close read close, left⟩
          | cons next others =>
              have length := enough
              simp only [List.map_cons, separated, List.length_append, List.length_cons] at length
              simp only [List.map_cons, separated, List.append_assoc, List.cons_append] at spaced
              obtain ⟨behind, read, left⟩ :=
                first steps cursor _ (by omega) (by simp [Follows]) spaced
              obtain ⟨rest, comma, left⟩ := left.skipBlanks_mark (by decide)
              have left : Spaced (separated ((next :: others).map Prod.snd) ++ [']'] :: more)
                (Cursor.mk (behind.skipBlanks.place + 1) rest).rest := left
              have enoughLater :
                  2 * (separated ((next :: others).map Prod.snd)).length + 1 ≤ steps := by
                rw [List.map_cons]
                omega
              obtain ⟨final, readOthers, left⟩ := ih (List.cons_ne_nil _ _) later enoughLater left
              exact ⟨final, readMembers_comma read comma readOthers, left⟩

section Brackets

variable {steps : Nat} {cursor : Cursor} {rest others : List Char}

theorem readValue_list (opening : cursor.rest = '[' :: rest) :
    let inside := Cursor.skipBlanks ⟨cursor.place + 1, rest⟩
    readValue (steps + 1) cursor =
      match inside.rest with
      | ']' :: rest => .ok (.list [], ⟨inside.place + 1, rest⟩)
      | _ => (readMembers steps inside).map fun (members, behind) => (.list members, behind) := by
  intro inside
  rw [readValue, opening]
  rfl

theorem readValue_object (opening : cursor.rest = '\x7b' :: rest) :
    let inside := Cursor.skipBlanks ⟨cursor.place + 1, rest⟩
    readValue (steps + 1) cursor =
      match inside.rest with
      | '\x7d' :: rest => .ok (.mapping [], ⟨inside.place + 1, rest⟩)
      | _ => readEntries steps [] inside := by
  intro inside
  rw [readValue, opening]
  rfl

end Brackets

/-- Where a value stands first, no closing bracket does. -/
theorem Writes.no_bracket_ahead {datum : Datum} {tokens behind : List Token} {cursor : Cursor}
    (writes : Writes datum tokens) (spaced : Spaced (tokens ++ behind) cursor.rest)
    (rest : List Char) : cursor.skipBlanks.rest ≠ ']' :: rest := by
  obtain ⟨c, others, more, rfl, noBracket⟩ := writes.starts
  obtain ⟨left, ahead, _⟩ :=
    spaced.skipBlanks_cons (writes.isToken _ List.mem_cons_self)
  rw [ahead]
  rintro ⟨⟩
  exact noBracket List.mem_cons_self

theorem readable_of_list {members : List (Datum × List Token)}
    (written : ∀ member ∈ members, Writes member.1 member.2)
    (each : ∀ member ∈ members, Readable member.1 member.2) :
    Readable (.list (members.map Prod.fst)) (listTokens (members.map Prod.snd)) := by
  intro steps cursor more enough follows spaced
  rw [listTokens, List.cons_append, List.append_assoc] at spaced
  obtain ⟨rest, opening, left⟩ := spaced.skipBlanks_mark (by decide)
  rw [listTokens, List.length_cons, List.length_append, List.length_singleton] at enough
  obtain ⟨steps, rfl⟩ : ∃ fewer, steps = fewer + 1 := ⟨steps - 1, by omega⟩
  let inside := Cursor.mk (cursor.skipBlanks.place + 1) rest
  have left : Spaced (separated (members.map Prod.snd) ++ ([[']']] ++ more)) inside.rest := left
  rw [readValue_list opening]
  cases members with
  | nil =>
      obtain ⟨others, close, left⟩ := left.skipBlanks_mark (by decide)
      refine ⟨⟨inside.skipBlanks.place + 1, others⟩, ?_, left⟩
      rw [close]
      rfl
  | cons member others =>
      have enough : 2 * (separated ((member :: others).map Prod.snd)).length + 1 ≤ steps := by omega
      obtain ⟨behind, read, final⟩ := takes_members (List.cons_ne_nil _ _) each enough left
      refine ⟨behind, ?_, final⟩
      rw [read]
      split
      next close =>
          obtain ⟨tail, starts⟩ := exists_separated_eq member.2 (others.map Prod.snd)
          rw [List.map_cons, starts, List.append_assoc] at left
          exact absurd close ((written member List.mem_cons_self).no_bracket_ahead left _)
      next => rfl

/-- At the cursor a key, a colon and a value are read. -/
def ReadsEntry (steps : Nat) (cursor : Cursor) (key : String) (value : Datum) (behind : Cursor) :
    Prop :=
  ∃ rest behindKey others, cursor.rest = '"' :: rest ∧
    readText cursor.place rest = .ok (key, behindKey) ∧
    behindKey.skipBlanks.rest = ':' :: others ∧
    readValue steps (Cursor.skipBlanks ⟨behindKey.skipBlanks.place + 1, others⟩) =
      .ok (value, behind)

namespace ReadsEntry

variable {steps : Nat} {cursor behind : Cursor} {key : String} {value : Datum} {rest : List Char}
  (reads : ReadsEntry steps cursor key value behind)

include reads

theorem close (before : List (String × Datum))
    (closing : behind.skipBlanks.rest = '\x7d' :: rest) :
    readEntries (steps + 1) before cursor =
      .ok (.mapping (Datum.setEntry key value before), ⟨behind.skipBlanks.place + 1, rest⟩) := by
  obtain ⟨_, _, _, quote, readKey, colon, read⟩ := reads
  rw [readEntries, quote]
  refine Outcome.bind_eq_ok_iff.2 ⟨_, readKey, ?_⟩
  dsimp only
  rw [colon]
  refine Outcome.bind_eq_ok_iff.2 ⟨_, read, ?_⟩
  dsimp only
  rw [closing]
  rfl

theorem comma {before : List (String × Datum)} (separating : behind.skipBlanks.rest = ',' :: rest)
    {result : Datum × Cursor} (readOthers : readEntries steps (Datum.setEntry key value before)
      (Cursor.skipBlanks ⟨behind.skipBlanks.place + 1, rest⟩) = .ok result) :
    readEntries (steps + 1) before cursor = .ok result := by
  obtain ⟨_, _, _, quote, readKey, colon, read⟩ := reads
  rw [readEntries, quote]
  refine Outcome.bind_eq_ok_iff.2 ⟨_, readKey, ?_⟩
  dsimp only
  rw [colon]
  refine Outcome.bind_eq_ok_iff.2 ⟨_, read, ?_⟩
  dsimp only
  rw [separating]
  exact readOthers

end ReadsEntry

/-- Wherever an entry stands, it is read. -/
theorem exists_readsEntry {entry : WrittenEntry} (spells : Spells entry.key.toList entry.inside)
    (readable : Readable entry.value entry.tokens) {steps : Nat}
    (enough : 2 * entry.tokens.length ≤ steps) {cursor : Cursor} {more : List Token}
    (follows : Follows more) (spaced : Spaced (entry.row ++ more) cursor.rest) :
    ∃ behind : Cursor, ReadsEntry steps cursor.skipBlanks entry.key entry.value behind ∧
      Spaced more behind.rest := by
  rw [WrittenEntry.row, List.cons_append, List.cons_append] at spaced
  obtain ⟨rest, ahead, left⟩ := spaced.skipBlanks_cons spells.isToken_quoted
  obtain ⟨behindKey, readKey, keyLeft⟩ :=
    readText_of_spells spells cursor.skipBlanks.place rest
  rw [← keyLeft] at left
  obtain ⟨others, colon, left⟩ := left.skipBlanks_mark (by decide)
  have left : Spaced (entry.tokens ++ more)
    (Cursor.mk (behindKey.skipBlanks.place + 1) others).rest := left
  obtain ⟨behind, read, left⟩ := readable steps _ more enough follows left
  have quote : cursor.skipBlanks.rest = '"' :: (entry.inside ++ '"' :: rest) := by
    simp [ahead, quoted]
  exact ⟨behind, ⟨_, _, _, quote, readKey, colon, read⟩, left⟩

theorem takes_entries {entries : List WrittenEntry} (given : entries ≠ [])
    (keys : ∀ entry ∈ entries, Spells entry.key.toList entry.inside)
    (each : ∀ entry ∈ entries, Readable entry.value entry.tokens) {steps : Nat}
    {before : List (String × Datum)} {cursor : Cursor} {more : List Token}
    (enough : 2 * (separated (entries.map WrittenEntry.row)).length + 1 ≤ steps)
    (spaced : Spaced (separated (entries.map WrittenEntry.row) ++ ['\x7d'] :: more) cursor.rest) :
    Takes (readEntries steps before cursor.skipBlanks)
      (.mapping (entries.foldl
        (fun before entry => Datum.setEntry entry.key entry.value before) before)) more := by
  induction entries generalizing steps before cursor with
  | nil => exact absurd rfl given
  | cons entry others ih =>
      obtain ⟨spells, laterKeys⟩ := List.forall_mem_cons.1 keys
      obtain ⟨first, later⟩ := List.forall_mem_cons.1 each
      obtain ⟨steps, rfl⟩ : ∃ fewer, steps = fewer + 1 := ⟨steps - 1, by omega⟩
      cases others with
      | nil =>
          have fits : 2 * entry.tokens.length ≤ steps := by
            simp only [List.map_cons, List.map_nil, separated, WrittenEntry.row,
              List.length_cons] at enough
            omega
          obtain ⟨behind, reads, left⟩ :=
            exists_readsEntry spells first fits (by simp [Follows]) spaced
          obtain ⟨rest, closing, left⟩ := left.skipBlanks_mark (by decide)
          exact ⟨_, reads.close before closing, left⟩
      | cons next others =>
          have length := enough
          simp only [List.map_cons, separated, WrittenEntry.row, List.length_append,
            List.length_cons] at length
          simp only [List.map_cons, separated, List.append_assoc, List.cons_append] at spaced
          have fits : 2 * entry.tokens.length ≤ steps := by omega
          obtain ⟨behind, reads, left⟩ :=
            exists_readsEntry spells first fits (by simp [Follows]) spaced
          obtain ⟨rest, separating, left⟩ := left.skipBlanks_mark (by decide)
          have left : Spaced (separated ((next :: others).map WrittenEntry.row) ++ ['\x7d'] :: more)
            (Cursor.mk (behind.skipBlanks.place + 1) rest).rest := left
          have enoughLater :
              2 * (separated ((next :: others).map WrittenEntry.row)).length + 1 ≤ steps := by
            rw [List.map_cons, WrittenEntry.row]
            omega
          obtain ⟨final, readOthers, left⟩ :=
            ih (List.cons_ne_nil _ _) laterKeys later enoughLater left
          exact ⟨final, reads.comma separating readOthers, left⟩

theorem readable_of_mapping {entries : List WrittenEntry}
    (keys : ∀ entry ∈ entries, Spells entry.key.toList entry.inside)
    (each : ∀ entry ∈ entries, Readable entry.value entry.tokens) :
    Readable (.mapping (entriesOf entries)) (objectTokens entries) := by
  intro steps cursor more enough follows spaced
  rw [objectTokens, List.cons_append, List.append_assoc] at spaced
  obtain ⟨rest, opening, left⟩ := spaced.skipBlanks_mark (by decide)
  rw [objectTokens, List.length_cons, List.length_append, List.length_singleton] at enough
  obtain ⟨steps, rfl⟩ : ∃ fewer, steps = fewer + 1 := ⟨steps - 1, by omega⟩
  let inside := Cursor.mk (cursor.skipBlanks.place + 1) rest
  have left : Spaced (separated (entries.map WrittenEntry.row) ++ ([['\x7d']] ++ more))
    inside.rest := left
  rw [readValue_object opening]
  cases entries with
  | nil =>
      obtain ⟨others, close, left⟩ := left.skipBlanks_mark (by decide)
      refine ⟨⟨inside.skipBlanks.place + 1, others⟩, ?_, left⟩
      rw [close]
      rfl
  | cons entry others =>
      have enough :
          2 * (separated ((entry :: others).map WrittenEntry.row)).length + 1 ≤ steps := by
        omega
      obtain ⟨behind, read, final⟩ :=
        takes_entries (List.cons_ne_nil _ _) keys each enough left
      refine ⟨behind, ?_, final⟩
      split
      next close =>
          obtain ⟨tail, starts⟩ :=
            exists_separated_eq entry.row (others.map WrittenEntry.row)
          rw [List.map_cons, starts, WrittenEntry.row] at left
          obtain ⟨_, quote, _⟩ :=
            left.skipBlanks_cons (keys entry List.mem_cons_self).isToken_quoted
          exact absurd (quote.symm.trans close) (by rintro ⟨⟩)
      next => exact read

/-- Whatever is written is read. -/
theorem Writes.readable {datum : Datum} {tokens : List Token} (writes : Writes datum tokens) :
    Readable datum tokens := by
  -- The members of a list and the values of an object are readable wherever they stand,
  -- so the induction hypotheses hold at the place that the reader has come to.
  induction writes with
  | word listed => exact readable_of_constant listed
  | text spells => exact readable_of_text spells
  | number formed limits => exact readable_of_number formed limits
  | list each ih => exact readable_of_list each ih
  | mapping keys _ ih => exact readable_of_mapping keys ih

/-- A text that spaces out what is written for a datum has this datum. -/
theorem read_of_writes {datum : Datum} {tokens : List Token} {text : List Char}
    (writes : Writes datum tokens) (spaced : Spaced tokens text) : read text = .ok datum := by
  -- The steps are counted by characters, of which each token has one at least.
  have enough : 2 * tokens.length ≤ 2 * text.length + 1 := by
    have := spaced.length_le writes.isToken
    omega
  have spacedEnd : Spaced (tokens ++ []) (Cursor.mk 0 text).rest := by simpa using spaced
  obtain ⟨behind, readAll, left⟩ :=
    writes.readable (2 * text.length + 1) _ [] enough (by simp [Follows]) spacedEnd
  rw [read.eq_def]
  split
  next rest => exact absurd spaced writes.no_mark_ahead
  next =>
      refine Outcome.bind_eq_ok_iff.2 ⟨_, readAll, ?_⟩
      dsimp only
      rw [left.skipBlanks_nil]
      rfl

end Json

end RetailPricing
