import RetailPricing.BinaryFloat.Places
import RetailPricing.Fault
import RetailPricing.Template.Basic

/-!
# Filling templates

Placeholders take their arguments one after the other, or by their keys. A
tuple holds one argument for each placeholder, and all of them have to be used;
any other datum is itself the only argument. Members of lists and mappings can
be named by keys, of which only mappings have some; what is not named of them
is not missed.

Numbers may get a sign, zeros in front and a mark of their base. Texts are cut
to the number of places. Both are brought to the width that is asked for.
-/

namespace RetailPricing

namespace Template

/-- The most digits that a whole number is written with. -/
def mostWholeDigits : Nat := 4300

/-- The whole part of an amount that has few enough digits. -/
def wholePartOfAmount (x : Amount) : Except Mishap Int :=
  if x.isZero || x.leadingExponent < 0 then .ok 0
  else if mostWholeDigits ≤ x.leadingExponent then .error .badValue
  else
    let magnitude : Nat :=
      if x.exponent < 0 then x.coefficient / Nat.pow 10 x.exponent.natAbs
      else x.coefficient * Nat.pow 10 x.exponent.natAbs
    .ok (if x.negative then -(magnitude : Int) else magnitude)

/-- The whole part of a decimal; an infinity has none, and neither has what is
no number. -/
def wholePartOfDecimal : Decimal → Except Mishap Int
  | .finite x => wholePartOfAmount x
  | .infinite _ => .error .numberTooLarge
  | .notANumber _ _ _ => .error .badValue

def wholePart (argument : Datum) : Except Mishap Int :=
  match argument with
  | .float x => wholePartOfDecimal x.toDecimal
  | .decimal d => wholePartOfDecimal d
  | other =>
      match other.whole? with
      | some n => .ok n
      | none => .error .wrongType

/-- The float that is nearest to a number. Whole numbers have to be within the
range of floats. -/
def nearestFloat (argument : Datum) : Except Mishap BinaryFloat :=
  match argument with
  | .float x => .ok x
  | .decimal (.finite x) => .ok (.ofAmount x)
  | .decimal (.infinite negative) => .ok (.infinite negative)
  | .decimal (.notANumber true _ _) => .error .badValue
  | .decimal (.notANumber false _ _) => .ok .notANumber
  | other =>
      match other.whole? with
      | none => .error .wrongType
      | some n =>
          match BinaryFloat.nearest (n < 0) n.natAbs 1 with
          | .infinite _ => .error .numberTooLarge
          | x => .ok x

/-- The character that an argument is, or that has it as its number. -/
def character (argument : Datum) : Except Mishap Char :=
  match argument with
  | .text t =>
      match t.content.toList with
      | [c] => .ok c
      | _ => .error .wrongType
  | other =>
      match other.whole? with
      | none => .error .wrongType
      | some n =>
          if 0 ≤ n ∧ n ≤ 0x10FFFF then .ok (Char.ofNat n.toNat)
          else .error .numberTooLarge

/-- What an argument is shown as before it is brought to a width: the sign of a
number, the mark of its base, and all other characters. -/
structure Field where
  isNumber : Bool
  negative : Bool
  mark : List Char
  body : List Char

namespace Field

def ofText (places : Option Nat) (text : String) : Field :=
  ⟨false, false, [],
    match places with
    | some n => text.toList.take n
    | none => text.toList⟩

/-- A whole number in some base with at least as many digits as places. -/
def ofWhole (base : Nat) (mark : List Char) (places : Option Nat) (n : Int) :
    Field :=
  let digits := Nat.toDigits base n.natAbs
  ⟨true, n < 0, mark,
    List.replicate (places.getD 1 - digits.length) '0' ++ digits⟩

/-- Without places, six of them are shown. -/
def usualPlaces : Nat := 6

def ofFloat (form : FloatForm) (pointKept : Bool) (places : Option Nat)
    (x : BinaryFloat) : Field :=
  ⟨true, x.isNegative, [],
    x.unsignedText form pointKept (places.getD usualPlaces)⟩

def capital (field : Field) : Field :=
  { field with
    mark := field.mark.map Char.toUpper
    body := field.body.map Char.toUpper }

/-- The field for an argument under a letter. With `alternate`, numbers have
the mark of their base and floats keep their point. -/
def ofLetter (letter : Char) (alternate : Bool) (places : Option Nat)
    (argument : Datum) : Except Mishap Field :=
  let based (base : Nat) (mark : String) : Except Mishap Field :=
    match argument.whole? with
    | some n => .ok (ofWhole base (if alternate then mark.toList else []) places n)
    | none => .error .wrongType
  let float (form : FloatForm) : Except Mishap Field :=
    (nearestFloat argument).map (ofFloat form alternate places)
  match letter with
  | 's' => .ok (ofText places argument.shown)
  | 'r' => .ok (ofText places argument.literal)
  | 'a' => .ok (ofText places (Text.inAscii argument.literal))
  | 'c' => (character argument).map fun c => ⟨false, false, [], [c]⟩
  | 'd' | 'i' | 'u' => (wholePart argument).map (ofWhole 10 [] places)
  | 'o' => based 8 "0o"
  | 'x' => based 16 "0x"
  | 'X' => (based 16 "0x").map capital
  | 'e' => float .scientific
  | 'E' => (float .scientific).map capital
  | 'f' => float .fixed
  | 'F' => (float .fixed).map capital
  | 'g' => float .general
  | 'G' => (float .general).map capital
  | _ => .error .badValue

/-- The sign of a number: that of a negative one, or what flags ask for. -/
def sign (flags : List Char) (field : Field) : List Char :=
  if !field.isNumber then []
  else if field.negative then ['-']
  else if flags.contains '+' then ['+']
  else if flags.contains ' ' then [' ']
  else []

/-- The field brought to a width: with blanks behind it, with zeros behind the
sign and the mark of a number, or with blanks in front. -/
def justify (flags : List Char) (leftAligned : Bool) (width : Nat)
    (field : Field) : List Char :=
  let start := field.sign flags ++ field.mark
  let filling (c : Char) : List Char :=
    List.replicate (width - (start.length + field.body.length)) c
  if leftAligned then start ++ field.body ++ filling ' '
  else if field.isNumber && flags.contains '0' then
    start ++ filling '0' ++ field.body
  else filling ' ' ++ start ++ field.body

end Field

/-- The arguments that have not been taken yet, and the datum whose members can
be taken by keys. -/
structure Supply where
  waiting : List Datum
  keyed : Option Datum

namespace Supply

def ofArguments : Datum → Supply
  | .tuple elements => ⟨elements, none⟩
  | .list elements => ⟨[.list elements], some (.list elements)⟩
  | .mapping entries => ⟨[.mapping entries], some (.mapping entries)⟩
  | other => ⟨[other], none⟩

def take (supply : Supply) : Except Mishap (Datum × Supply) :=
  match supply.waiting with
  | [] => .error .wrongType
  | argument :: rest => .ok (argument, { supply with waiting := rest })

/-- What a key names becomes the next argument and the only one. -/
def choose (supply : Supply) : Key → Except Mishap Supply
  | .none => .ok supply
  | .unclosed => .error (if supply.keyed.isSome then .badValue else .wrongType)
  | .named key =>
      match supply.keyed with
      | some (.mapping entries) =>
          match Datum.lookup (String.ofList key) entries with
          | some argument => .ok { supply with waiting := [argument] }
          | none => .error .missingKey
      | _ => .error .wrongType

/-- A number in a placeholder that lies between `-limit - 1` and `limit`. -/
def measure (limit : Nat) (supply : Supply) :
    Size → Except Mishap (Option Int × Supply)
  | .omitted => .ok (none, supply)
  | .written n =>
      if n ≤ limit then .ok (some n, supply) else .error .badValue
  | .fromArgument => do
      let (argument, rest) ← supply.take
      match argument.whole? with
      | none => .error .wrongType
      | some n =>
          if -(limit : Int) - 1 ≤ n ∧ n ≤ limit then return (some n, rest)
          else .error .numberTooLarge

end Supply

/-! ## Filling -/

def greatestWidth : Nat := Nat.pow 2 63 - 1

def mostPlaces : Nat := Nat.pow 2 31 - 1

/-- Fills a placeholder. A negative width aligns to the left, and a negative
number of places counts as none. -/
def fillPlaceholder (supply : Supply) (p : Placeholder) :
    Except Mishap (List Char × Supply) := do
  let supply ← supply.choose p.key
  let (width, supply) ← supply.measure greatestWidth p.width
  let (places, supply) ← supply.measure mostPlaces p.places
  match p.letter with
  | none => .error .badValue
  | some letter =>
      let (argument, supply) ← supply.take
      let field ←
        Field.ofLetter letter (p.flags.contains '#') (places.map Int.toNat) argument
      let width := width.getD 0
      let leftAligned := p.flags.contains '-' || width < 0
      return (field.justify p.flags leftAligned width.natAbs, supply)

/-- Fills the pieces of a template in order. In the end no argument may be left,
unless arguments can be taken by keys. -/
def fillPieces (supply : Supply) : List Piece → Except Mishap (List Char)
  | [] =>
      if supply.keyed.isNone && !supply.waiting.isEmpty then .error .wrongType
      else .ok []
  | .literal c :: rest => (fillPieces supply rest).map (c :: ·)
  | .placeholder p :: rest => do
      let (filled, supply) ← fillPlaceholder supply p
      return filled ++ (← fillPieces supply rest)

def fill (template : String) (arguments : Datum) : Except Mishap String :=
  (fillPieces (.ofArguments arguments) (pieces template.toList)).map String.ofList

end Template

end RetailPricing
