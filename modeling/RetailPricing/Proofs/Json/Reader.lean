import RetailPricing.Proofs.Json.Numbers
import RetailPricing.Proofs.Outcome

/-!
# What the reader takes from a text

Whatever is read, what is left behind it is an end of what was there
(`Reads.suffix`).  Reading a text is refused for its form, with a trouble and a
place; only a number that no decimal can hold stops it in another way
(`Reads.stopped`).  Both are kept when one reading follows another, so they hold
for values of any depth.
-/

namespace RetailPricing

namespace Json

/-- A number beyond the limits stands somewhere in the text. -/
def HoldsBeyondLimits (text : List Char) : Prop :=
  ∃ written, written <:+: text ∧ BeyondLimits written

/-- A reading of a text that leaves an end of it, and that no signal stops unless
the text holds a number beyond the limits. -/
structure Reads {α : Type} (text : List Char) (reading : Except ReadFault (α × Cursor)) :
    Prop where
  suffix : ∀ {result behind}, reading = .ok (result, behind) → behind.rest <:+ text
  stopped : ∀ {s}, reading = .error (.signal s) → s = .invalidOperation ∧ HoldsBeyondLimits text

namespace Reads

variable {α β : Type} {text : List Char}

theorem ok {result : α} {behind : Cursor} (suffix : behind.rest <:+ text) :
    Reads text (.ok (result, behind)) where
  suffix := by
    rintro _ _ ⟨⟩
    exact suffix
  stopped := by rintro _ ⟨⟩

theorem refuse (what : Trouble) (place : Nat) :
    Reads text (refuse what place : Except ReadFault (α × Cursor)) where
  suffix := by rintro _ _ ⟨⟩
  stopped := by rintro _ ⟨⟩

/-- What holds for an end of a text holds for the text. -/
theorem of_suffix {rest : List Char} {reading : Except ReadFault (α × Cursor)}
    (reads : Reads rest reading) (suffix : rest <:+ text) : Reads text reading where
  suffix := fun done => (reads.suffix done).trans suffix
  stopped := fun signalled => by
    obtain ⟨invalid, written, inside, beyond⟩ := reads.stopped signalled
    exact ⟨invalid, written, inside.trans suffix.isInfix, beyond⟩

theorem bind {first : Except ReadFault (α × Cursor)}
    {next : α × Cursor → Except ReadFault (β × Cursor)} (reads : Reads text first)
    (nextReads : ∀ result behind, Reads behind.rest (next (result, behind))) :
    Reads text (first >>= next) := by
  cases ended : first with
  | error fault =>
      refine ⟨by rintro _ _ ⟨⟩, ?_⟩
      rintro s ⟨⟩
      exact reads.stopped ended
  | ok read =>
      obtain ⟨result, behind⟩ := read
      exact (nextReads result behind).of_suffix (reads.suffix ended)

theorem map {reading : Except ReadFault (α × Cursor)} (reads : Reads text reading) (f : α → β) :
    Reads text (reading.map fun (result, behind) => (f result, behind)) := by
  cases ended : reading with
  | error fault =>
      refine ⟨by rintro _ _ ⟨⟩, ?_⟩
      rintro s ⟨⟩
      exact reads.stopped ended
  | ok read => exact ok (reads.suffix ended)

end Reads

theorem skipBlanks_suffix (cursor : Cursor) : cursor.skipBlanks.rest <:+ cursor.rest :=
  List.drop_suffix _ _

theorem suffix_of_skipBlanks {cursor : Cursor} {c : Char} {rest : List Char}
    (start : cursor.skipBlanks.rest = c :: rest) : rest <:+ cursor.rest :=
  (List.suffix_cons c rest).trans (start ▸ skipBlanks_suffix cursor)

theorem Reads.withPiece {text : List Char} {read : ReadPieces} (reads : Reads text read)
    (piece : Piece) : Reads text (withPiece piece read) :=
  reads.map fun pieces => piece :: pieces

theorem reads_readPieces (opening place : Nat) (rest : List Char) :
    Reads rest (readPieces opening place rest) := by
  fun_induction readPieces opening place rest with
  | case2 place rest => exact .ok (List.suffix_cons '"' rest)
  | case5 place a b c d rest more n unit ih =>
      refine (ih.of_suffix ?_).withPiece (.unit n)
      exact List.suffix_append ['\\', 'u', a, b, c, d] rest
  | case8 place c rest noUnit notUnit escaped found ih =>
      refine (ih.of_suffix ?_).withPiece (.char escaped)
      exact List.suffix_append ['\\', c] rest
  | case11 place c rest _ _ _ _ printable ih =>
      exact (ih.of_suffix (List.suffix_cons c rest)).withPiece (.char c)
  | _ => exact .refuse _ _

theorem reads_readText (opening : Nat) (rest : List Char) :
    Reads rest (readText opening rest) :=
  (reads_readPieces opening (opening + 1) rest).map fun pieces => String.ofList (joinPieces pieces)

theorem append_inFront_of_drop {α : Type} {first second text : List α} (front : first <+: text)
    (behind : second <+: text.drop first.length) : first ++ second <+: text := by
  obtain ⟨rest, rfl⟩ := front
  rw [List.drop_left] at behind
  exact (List.prefix_append_right_inj first).2 behind

theorem wholeDigits_inFront (cs : List Char) : wholeDigits cs <+: cs := by
  rw [wholeDigits.eq_def]
  split
  next rest => exact List.prefix_append ['0'] rest
  next => exact List.takeWhile_prefix _

theorem fractionPart_inFront (cs : List Char) : fractionPart cs <+: cs := by
  rw [fractionPart.eq_def]
  split
  next rest =>
      split
      next => exact List.nil_prefix
      next =>
          have point : ['.'] <+: '.' :: rest := ⟨rest, rfl⟩
          exact append_inFront_of_drop point (List.takeWhile_prefix _)
  next => exact List.nil_prefix

theorem exponentPart_inFront (cs : List Char) : exponentPart cs <+: cs := by
  rw [exponentPart.eq_def]
  split
  next e rest =>
      split
      next =>
          extract_lets signPart
          have sign : signPart <+: rest := by
            dsimp only [signPart]
            split
            · exact ⟨_, rfl⟩
            · exact ⟨_, rfl⟩
            · exact List.nil_prefix
          split
          next => exact List.nil_prefix
          next =>
              exact (List.prefix_cons_inj e).2
                (append_inFront_of_drop sign (List.takeWhile_prefix _))
      next => exact List.nil_prefix
  next => exact List.nil_prefix

theorem reads_readNumber (cursor : Cursor) : Reads cursor.rest (readNumber cursor) := by
  unfold readNumber
  extract_lets signPart unsigned whole fraction exponent digits behind size written
  split
  · exact .refuse _ _
  next given =>
  split
  · exact .ok (List.drop_suffix _ _)
  · split
    · exact .ok (List.drop_suffix _ _)
    next noDecimal =>
      have signed : signPart = [] ∨ signPart = ['-'] := by
        dsimp only [signPart]
        split
        · exact .inr rfl
        · exact .inl rfl
      have sign : signPart <+: cursor.rest := by
        dsimp only [signPart]
        split
        next rest start => exact ⟨rest, start.symm⟩
        next => exact List.nil_prefix
      have parts : whole ++ (fraction ++ exponent) <+: unsigned := by
        refine append_inFront_of_drop (wholeDigits_inFront unsigned) ?_
        refine append_inFront_of_drop (fractionPart_inFront _) ?_
        rw [List.drop_drop]
        exact exponentPart_inFront _
      have joined : written = signPart ++ (whole ++ (fraction ++ exponent)) := by
        simp only [written, digits, List.append_assoc]
      refine ⟨by rintro _ _ ⟨⟩, ?_⟩
      rintro s ⟨⟩
      refine ⟨rfl, written, ?_, ?_⟩
      · rw [joined]
        exact (append_inFront_of_drop sign parts).isInfix
      · rw [joined] at noDecimal ⊢
        exact beyondLimits_of_ofPlainChars?_eq_none signed (by simpa using given)
          (all_wholeDigits unsigned) (isFraction_fractionPart _) (isExponent_exponentPart _)
          noDecimal

theorem reads_readScalar (cursor : Cursor) : Reads cursor.rest (readScalar cursor) := by
  rw [readScalar]
  split
  · exact .ok (List.drop_suffix _ _)
  · exact reads_readNumber cursor

/-- However deep the value is, reading it leaves an end of the text. -/
-- Each of the three readers calls the others with one step less, so one induction
-- on the steps carries all of them.
theorem reads_values (steps : Nat) :
    (∀ cursor, Reads cursor.rest (readValue steps cursor)) ∧
      (∀ cursor, Reads cursor.rest (readMembers steps cursor)) ∧
      ∀ before cursor, Reads cursor.rest (readEntries steps before cursor) := by
  induction steps with
  | zero => exact ⟨fun _ => .refuse _ _, fun _ => .refuse _ _, fun _ _ => .refuse _ _⟩
  | succ steps ih =>
      obtain ⟨values, members, entries⟩ := ih
      refine ⟨fun cursor => ?_, fun cursor => ?_, fun before cursor => ?_⟩
      · rw [readValue]
        split
        next rest start =>
            rw [start]
            exact ((reads_readText cursor.place rest).map Datum.ofString).of_suffix
              (List.suffix_cons '"' rest)
        next rest start =>
            rw [start]
            refine Reads.of_suffix ?_ (List.suffix_cons '\x7b' rest)
            extract_lets inside
            split
            next others close => exact .ok (suffix_of_skipBlanks close)
            next => exact (entries [] inside).of_suffix (skipBlanks_suffix _)
        next rest start =>
            rw [start]
            refine Reads.of_suffix ?_ (List.suffix_cons '[' rest)
            extract_lets inside
            split
            next others close => exact .ok (suffix_of_skipBlanks close)
            next => exact ((members inside).map Datum.list).of_suffix (skipBlanks_suffix _)
        next => exact reads_readScalar cursor
      · rw [readMembers]
        refine (values cursor).bind fun member behind => ?_
        dsimp only
        split
        next rest close => exact .ok (suffix_of_skipBlanks close)
        next rest comma =>
            refine Reads.of_suffix ?_ (suffix_of_skipBlanks comma)
            exact Reads.of_suffix ((members _).map fun others => member :: others)
              (skipBlanks_suffix _)
        next => exact .refuse _ _
      · rw [readEntries]
        split
        next rest quote =>
            rw [quote]
            refine Reads.of_suffix ?_ (List.suffix_cons '"' rest)
            refine (reads_readText cursor.place rest).bind fun key behindKey => ?_
            dsimp only
            split
            next rest colon =>
                refine Reads.of_suffix ?_ (suffix_of_skipBlanks colon)
                refine Reads.of_suffix ?_ (skipBlanks_suffix ⟨behindKey.skipBlanks.place + 1, rest⟩)
                refine (values _).bind fun value behind => ?_
                dsimp only
                split
                next others close => exact .ok (suffix_of_skipBlanks close)
                next others comma =>
                    exact ((entries _ _).of_suffix (skipBlanks_suffix _)).of_suffix
                      (suffix_of_skipBlanks comma)
                next => exact .refuse _ _
            next => exact .refuse _ _
        next => exact .refuse _ _

theorem read_signal {text : List Char} {s : Signal} (signalled : read text = .error (.signal s)) :
    s = .invalidOperation ∧ HoldsBeyondLimits text := by
  rw [read.eq_def] at signalled
  split at signalled
  · cases signalled
  · rcases Outcome.bind_eq_error_iff.1 signalled with here | ⟨⟨datum, behind⟩, _, later⟩
    · have reads := ((reads_values (2 * text.length + 1)).1 (Cursor.skipBlanks ⟨0, text⟩)).of_suffix
        (skipBlanks_suffix _)
      exact reads.stopped here
    · dsimp only at later
      split at later
      · cases later
      · cases later

end Json

end RetailPricing
