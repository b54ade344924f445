import RetailPricing.Proofs.Json.RoundTrip
import RetailPricing.Proofs.RulesFile.Loading

/-!
# Rules survive their file

Line ends are blanks, and no token holds one, so a text keeps its tokens when its line
ends become line feeds (`Spaced.withLineFeeds`).  What is loaded from a file is
therefore what is loaded from the data that are written in it (`rules_survive_the_file`).
-/

namespace RetailPricing

namespace RulesFile

open Json (Token Writes Spaced IsJson IsToken WrittenEntry NumberLiteral Spells blankCharacters)

/-- What holds no carriage return stays as it is, and what is behind it does not matter
to it. -/
theorem withLineFeeds_append_of_not_mem {inFront : List Char} (noReturn : '\r' ∉ inFront)
    (rest : List Char) : withLineFeeds (inFront ++ rest) = inFront ++ withLineFeeds rest := by
  induction inFront with
  | nil => rfl
  | cons c more ih =>
      rw [List.mem_cons, not_or] at noReturn
      rw [List.cons_append, withLineFeeds.eq_def]
      split
      next same => cases same
      next same => exact absurd (List.cons.inj same).1.symm noReturn.1
      next same => exact absurd (List.cons.inj same).1.symm noReturn.1
      next same =>
          obtain ⟨rfl, rfl⟩ := List.cons.inj same
          rw [ih noReturn.2, List.cons_append]

/-- Line ends are told apart from what is behind them, unless that is a line feed. -/
theorem withLineFeeds_append (inFront : List Char) {rest : List Char}
    (noFeed : ∀ more, rest ≠ '\n' :: more) :
    withLineFeeds (inFront ++ rest) = withLineFeeds inFront ++ withLineFeeds rest := by
  fun_induction withLineFeeds inFront with
  | case1 => rfl
  | case2 more ih => exact congrArg ('\n' :: ·) ih
  | case3 more noPair ih =>
      have alone : ∀ behind, more ++ rest ≠ '\n' :: behind := by
        intro behind same
        cases more with
        | nil => exact noFeed behind same
        | cons c more => exact noPair more (congrArg (· :: more) (List.cons.inj same).1)
      rw [List.cons_append, withLineFeeds, ih, List.cons_append]
      exact alone
  | case4 c more noPair noReturn ih =>
      rw [List.cons_append, withLineFeeds, ih, List.cons_append]
      · exact fun behind isReturn _ => noReturn isReturn
      · exact noReturn

theorem withLineFeeds_blank {blanks : List Char} (blank : blanks ⊆ blankCharacters) :
    withLineFeeds blanks ⊆ blankCharacters := by
  have feed : '\n' ∈ blankCharacters := by decide
  fun_induction withLineFeeds blanks with
  | case1 => exact blank
  | case2 more ih =>
      have behind := (List.cons_subset.1 (List.cons_subset.1 blank).2).2
      exact List.cons_subset.2 ⟨feed, ih behind⟩
  | case3 more _ ih => exact List.cons_subset.2 ⟨feed, ih (List.cons_subset.1 blank).2⟩
  | case4 c more _ _ ih =>
      obtain ⟨here, behind⟩ := List.cons_subset.1 blank
      exact List.cons_subset.2 ⟨here, ih behind⟩

theorem noReturn_of_isToken {token : Token} (isToken : IsToken token) : '\r' ∉ token :=
  fun member => absurd (isToken.printable '\r' member) (by decide)

/-- Line ends stand between tokens only. -/
theorem spaced_withLineFeeds {tokens : List Token} {text : List Char} (spaced : Spaced tokens text)
    (each : ∀ token ∈ tokens, IsToken token) : Spaced tokens (withLineFeeds text) := by
  induction spaced with
  | done blank => exact .done (withLineFeeds_blank blank)
  | @token blanks rest token tokens blank _ ih =>
      obtain ⟨isToken, later⟩ := List.forall_mem_cons.1 each
      -- A carriage return in front of a token has no line feed behind it to swallow.
      have noFeed : ∀ more, token ++ rest ≠ '\n' :: more := by
        obtain ⟨c, others, rfl, noBlank⟩ := isToken.exists_cons
        rintro more ⟨⟩
        cases noBlank
      rw [withLineFeeds_append blanks noFeed,
        withLineFeeds_append_of_not_mem (noReturn_of_isToken isToken)]
      exact .token (withLineFeeds_blank blank) (ih later)

section Loading

variable {path : String} (noNul : path.contains '\x00' = false) {datum : Datum}
  {tokens : List Token} {text : List Char} (writes : Writes datum tokens)
  (spaced : Spaced tokens text)

include writes spaced

/-- A file has the datum that is written in it. -/
theorem parse_of_writes (name : String) :
    parse name (text.flatMap String.utf8EncodeChar) = .ok datum := by
  have feeds := spaced_withLineFeeds spaced writes.isToken
  rw [parse, Utf8.decode?_flatMap_utf8EncodeChar]
  dsimp only
  rw [Json.read_of_writes writes feeds]

include noNul

theorem load_of_writes {members : List Datum} (listed : definitions? datum = some members) :
    load path (.bytes (text.flatMap String.utf8EncodeChar)) = loadRules (.list members) := by
  have given : read (namedPath path) (.bytes (text.flatMap String.utf8EncodeChar)) =
      .ok members := by
    rw [read]
    refine Outcome.bind_eq_ok_iff.2 ⟨datum, parse_of_writes writes spaced _, ?_⟩
    rw [listed]
    rfl
  rw [load, noNul, if_neg Bool.false_ne_true, given, Reported.lift_ok_bind]
  rfl

end Loading

/-- The last of the entries with a key has its value. -/
theorem lookup_entriesOf (front : List WrittenEntry) (entry : WrittenEntry)
    {back : List WrittenEntry} (last : ∀ later ∈ back, later.key ≠ entry.key) :
    Datum.lookup entry.key (Json.entriesOf (front ++ entry :: back)) = some entry.value := by
  induction back using List.reverseRecOn with
  | nil =>
      rw [Json.entriesOf, List.foldl_append]
      exact Datum.lookup_setEntry_self _ _ _
  | append_singleton back later ih =>
      rw [List.forall_mem_append] at last
      have other : later.key ≠ entry.key := last.2 later List.mem_cons_self
      rw [← List.cons_append, ← List.append_assoc, Json.entriesOf, List.foldl_append]
      exact (Datum.lookup_setEntry_of_ne other _ _).trans (ih last.1)

/-- Definitions of the kinds that JSON knows can be written in a file.  In whatever way
they are written, as a list or under the last key `rules` of an object, loading the file
comes to what loading the definitions comes to: the same rules to the digit, the same
fault, and the same reports. -/
theorem rules_survive_the_file (path : String) (noNul : path.contains '\x00' = false)
    (members : List Datum) (json : IsJson (.list members)) :
    (∃ tokens, Writes (.list members) tokens) ∧
    ∀ tokens, Writes (.list members) tokens →
      (∀ text, Spaced tokens text →
        load path (.bytes (text.flatMap String.utf8EncodeChar)) = loadRules (.list members)) ∧
      ∀ front inside back,
        let entries := front ++ ⟨"rules", inside, .list members, tokens⟩ :: back
        (∀ entry ∈ entries, Spells entry.key.toList entry.inside) →
        (∀ entry ∈ front ++ back, Writes entry.value entry.tokens) →
        (∀ later ∈ back, later.key ≠ "rules") →
        ∀ text, Spaced (Json.objectTokens entries) text →
          load path (.bytes (text.flatMap String.utf8EncodeChar)) = loadRules (.list members) := by
  refine ⟨json.exists_writes, fun tokens writes => ⟨fun text spaced => ?_, ?_⟩⟩
  · exact load_of_writes noNul writes spaced rfl
  · intro front inside back entries keys others last text spaced
    have each : ∀ entry ∈ entries, Writes entry.value entry.tokens := by
      rw [List.forall_mem_append] at others
      exact List.forall_mem_append.2 ⟨others.1, List.forall_mem_cons.2 ⟨writes, others.2⟩⟩
    have known : Datum.lookup "rules" (Json.entriesOf entries) = some (.list members) :=
      lookup_entriesOf front ⟨"rules", inside, .list members, tokens⟩ last
    have listed : definitions? (.mapping (Json.entriesOf entries)) = some members := by
      rw [definitions?, known]
    exact load_of_writes noNul (.mapping keys each) spaced listed

/-- The price 1.50 in an unusual way to write it. -/
def writtenPrice : NumberLiteral :=
  ⟨false, ['1', '5'], ['0'], some ⟨'e', ['-'], ['1']⟩⟩

def writtenAction : List WrittenEntry :=
  [⟨"kind", "kind".toList, .ofString "fixed_price", [Json.quoted "fixed\\u005Fprice".toList]⟩,
    ⟨"value", "value".toList, writtenPrice.datum, [writtenPrice.text]⟩]

def writtenRule : List WrittenEntry :=
  [⟨"actions", "actions".toList, .list [.mapping (Json.entriesOf writtenAction)],
    Json.listTokens [Json.objectTokens writtenAction]⟩]

/-- Everything for 1.50. -/
def priceCut : Datum :=
  .mapping [("actions", .list [.mapping
    [("kind", .ofString "fixed_price"), ("value", .decimal (.finite ⟨false, 150, -2⟩))]])]

theorem isJson_priceCut : IsJson (.list [priceCut]) := by
  have action : IsJson (.mapping [("kind", .ofString "fixed_price"),
      ("value", .decimal (.finite ⟨false, 150, -2⟩))]) := by
    refine .mapping (by decide) ?_
    simpa using ⟨IsJson.text _, IsJson.decimal rfl⟩
  have actions : IsJson (.list [_]) := .list (List.forall_mem_singleton.2 action)
  have rule : IsJson priceCut := .mapping (by decide) (List.forall_mem_singleton.2 actions)
  exact .list (List.forall_mem_singleton.2 rule)

theorem writes_singleton {datum : Datum} {tokens : List Token} (writes : Writes datum tokens) :
    Writes (.list [datum]) (Json.listTokens [tokens]) := by
  have each : ∀ member ∈ [(datum, tokens)], Writes member.1 member.2 :=
    List.forall_mem_singleton.2 writes
  exact .list each

theorem spells_underscore : Spells "fixed_price".toList "fixed\\u005Fprice".toList := by
  have zero : Json.IsHexDigit '0' 0 := ⟨by decide, .inl rfl⟩
  have five : Json.IsHexDigit '5' 5 := ⟨by decide, .inl rfl⟩
  have fifteen : Json.IsHexDigit 'F' 15 := ⟨by decide, .inr rfl⟩
  have underscore : Json.WritesUnit '_'.toNat "\\u005F".toList := .digits zero zero five fifteen
  have fixed : Spells "fixed".toList "fixed".toList := Json.spells_self (by decide)
  exact fixed.append (.unit (by decide) underscore (Json.spells_self (by decide)))

theorem writes_priceCut :
    Writes (.list [priceCut]) (Json.listTokens [Json.objectTokens writtenRule]) := by
  have formed : writtenPrice.IsFormed :=
    ⟨by decide, .inr (by decide), by decide, by decide, by
      rintro _ ⟨⟩
      exact ⟨.inl rfl, .inr (.inl rfl), by decide, by decide⟩⟩
  have action : Writes (.mapping (Json.entriesOf writtenAction))
      (Json.objectTokens writtenAction) :=
    .mapping
      (List.forall_mem_cons.2 ⟨Json.spells_self (by decide),
        List.forall_mem_singleton.2 (Json.spells_self (by decide))⟩)
      (List.forall_mem_cons.2 ⟨.text spells_underscore,
        List.forall_mem_singleton.2 (.number formed fun _ => rfl)⟩)
  have rule : Writes (.mapping (Json.entriesOf writtenRule)) (Json.objectTokens writtenRule) :=
    .mapping (List.forall_mem_singleton.2 (Json.spells_self (by decide)))
      (List.forall_mem_singleton.2 (writes_singleton action))
  exact writes_singleton rule

/-- The tokens of the price cut with blanks in front of some. -/
def priceCutRow : List (List Char × Token) :=
  [([], ['[']), ([], ['\x7b']), ([], "\"actions\"".toList), ([], [':']), ("\r\n ".toList, ['[']),
    ([], ['\x7b']), ([], "\"kind\"".toList), ([], [':']),
    ([' '], "\"fixed\\u005Fprice\"".toList), ([], [',']), ([' '], "\"value\"".toList),
    ([' '], [':']), ([], "15.0e-1".toList), ([], ['\x7d']), ([], [']']), ([], ['\x7d']),
    ([], [']'])]

/-- The same as the second value of a key. -/
def priceCutObjectRow : List (List Char × Token) :=
  [([], ['\x7b']), ([], "\"rules\"".toList), ([], [':']), ([], "\"\"".toList), ([], [',']),
    ([' '], "\"rules\"".toList), ([], [':'])] ++ priceCutRow ++ [(['\r'], ['\x7d'])]

theorem price_cut_survives :
    let file (text : List Char) : Content := .bytes (text.flatMap String.utf8EncodeChar)
    let list := "[\x7b\"actions\":\r\n ".toList ++
      "[\x7b\"kind\": \"fixed\\u005Fprice\", \"value\" :15.0e-1\x7d]\x7d]\r".toList
    let object := "\x7b\"rules\":\"\", \"rules\":".toList ++ list ++ ['\x7d']
    load "rules.json" (file list) = loadRules (.list [priceCut]) ∧
      load "rules.json" (file object) = loadRules (.list [priceCut]) ∧
      (loadRules (.list [priceCut])).outcome =
        .ok [⟨[], [⟨.fixedPrice, ⟨false, 150, -2⟩⟩], .null⟩] := by
  intro file list object
  have noNul : "rules.json".contains '\x00' = false := by simp
  obtain ⟨fromList, fromObject⟩ :=
    (rules_survive_the_file "rules.json" noNul [priceCut] isJson_priceCut).2 _ writes_priceCut
  refine ⟨?_, ?_, rfl⟩
  · have spaced := Json.spaced_row priceCutRow ['\r'] (by decide) (by decide)
    have text : priceCutRow.flatMap (fun part => part.1 ++ part.2) ++ ['\r'] = list := by decide
    have tokens : priceCutRow.map Prod.snd = Json.listTokens [Json.objectTokens writtenRule] := by
      decide
    exact fromList list (text ▸ tokens ▸ spaced)
  · let old : WrittenEntry := ⟨"rules", "rules".toList, .ofString "", [Json.quoted []]⟩
    have key : Spells "rules".toList "rules".toList := Json.spells_self (by decide)
    have loads := fromObject [old] "rules".toList []
      (List.forall_mem_cons.2 ⟨key, List.forall_mem_singleton.2 key⟩)
      (List.forall_mem_singleton.2 (.text .nil)) (by simp)
    have spaced := Json.spaced_row priceCutObjectRow [] (by decide) (by decide)
    have text : priceCutObjectRow.flatMap (fun part => part.1 ++ part.2) ++ [] = object := by decide
    rw [text] at spaced
    exact loads object spaced

end RulesFile

end RetailPricing
