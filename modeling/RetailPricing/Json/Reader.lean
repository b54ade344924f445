import RetailPricing.Datum.Basic
import RetailPricing.Decimal.Numeral
import RetailPricing.Json.Trouble

/-!
# Reading JSON

The reader turns a text into a datum and keeps numbers exact: a number with a
point or an exponent is a decimal, any other number is a whole number. Besides
the standard grammar it knows the words for infinities and for what is not a
number, which it reads as floats. When a key occurs twice the later value
counts. A malformed text is refused with the first trouble from the left.
-/

namespace RetailPricing

namespace Json

/-- Why a text has no datum: it is malformed at some place, or a number in it
is beyond the limits of decimals. -/
inductive ReadFault
  | trouble (what : Trouble) (place : Nat)
  | signal (s : Signal)
deriving DecidableEq

/-- What is left of a text, and how many characters were read before. -/
structure Cursor where
  place : Nat
  rest : List Char

def refuse {α : Type} (what : Trouble) (place : Nat) : Except ReadFault α :=
  .error (.trouble what place)

def isBlank (c : Char) : Bool :=
  c == ' ' || c == '\t' || c == '\n' || c == '\r'

namespace Cursor

def advance (cursor : Cursor) (count : Nat) : Cursor :=
  ⟨cursor.place + count, cursor.rest.drop count⟩

def skipBlanks (cursor : Cursor) : Cursor :=
  cursor.advance (cursor.rest.takeWhile isBlank).length

end Cursor

/-- The character behind a backslash, apart from code escapes. -/
def plainEscape? : Char → Option Char
  | '"' => some '"'
  | '\\' => some '\\'
  | '/' => some '/'
  | 'b' => some '\x08'
  | 'f' => some '\x0c'
  | 'n' => some '\n'
  | 'r' => some '\r'
  | 't' => some '\t'
  | _ => none

def hexDigit? (c : Char) : Option Nat :=
  if '0' ≤ c && c ≤ '9' then some (c.toNat - '0'.toNat)
  else if 'a' ≤ c && c ≤ 'f' then some (c.toNat - 'a'.toNat + 10)
  else if 'A' ≤ c && c ≤ 'F' then some (c.toNat - 'A'.toNat + 10)
  else none

/-- The code unit that four hexadecimal digits stand for. -/
def codeUnit? (a b c d : Char) : Option Nat := do
  let a ← hexDigit? a
  let b ← hexDigit? b
  let c ← hexDigit? c
  let d ← hexDigit? d
  return ((a * 16 + b) * 16 + c) * 16 + d

def isHighSurrogate (unit : Nat) : Bool :=
  0xD800 ≤ unit && unit ≤ 0xDBFF

def isLowSurrogate (unit : Nat) : Bool :=
  0xDC00 ≤ unit && unit ≤ 0xDFFF

/-- A character of a text as it is written: itself, or the number of a code
unit. -/
inductive Piece
  | char (c : Char)
  | unit (n : Nat)

/-- The character of a code unit. A surrogate that stands alone is no
character and is replaced. -/
def charOfUnit (unit : Nat) : Char :=
  if isHighSurrogate unit || isLowSurrogate unit then '\uFFFD'
  else Char.ofNat unit

/-- The character of a pair of surrogates. -/
def joinSurrogates (high low : Nat) : Char :=
  Char.ofNat (0x10000 + (high - 0xD800) * 0x400 + (low - 0xDC00))

/-- The characters of a text. A high surrogate and the low one right behind it
make one character. -/
def joinPieces : List Piece → List Char
  | [] => []
  | .char c :: rest => c :: joinPieces rest
  | .unit high :: .unit low :: rest =>
      if isHighSurrogate high && isLowSurrogate low then
        joinSurrogates high low :: joinPieces rest
      else charOfUnit high :: joinPieces (.unit low :: rest)
  | .unit n :: rest => charOfUnit n :: joinPieces rest

/-- The pieces of a text and what is left behind it. -/
abbrev ReadPieces := Except ReadFault (List Piece × Cursor)

/-- Puts a piece in front of those that were read. -/
def withPiece (piece : Piece) (read : ReadPieces) : ReadPieces :=
  read.map fun (pieces, cursor) => (piece :: pieces, cursor)

/-- Reads the inside of a text up to its closing quote. The opening quote
stands at `opening`. A code escape has four digits and something behind
them. -/
def readPieces (opening : Nat) : (place : Nat) → List Char → ReadPieces
  | _, [] => refuse .unterminatedText opening
  | place, '"' :: rest => .ok ([], ⟨place + 1, rest⟩)
  | _, ['\\'] => refuse .unterminatedText opening
  | place, '\\' :: 'u' :: a :: b :: c :: d :: rest =>
      if rest.isEmpty then refuse .badCodeEscape (place + 1)
      else
        match codeUnit? a b c d with
        | some n => withPiece (.unit n) (readPieces opening (place + 6) rest)
        | none => refuse .badCodeEscape (place + 1)
  | place, '\\' :: c :: rest =>
      if c = 'u' then refuse .badCodeEscape (place + 1)
      else
        match plainEscape? c with
        | some escaped =>
            withPiece (.char escaped) (readPieces opening (place + 2) rest)
        | none => refuse .badEscape place
  | place, c :: rest =>
      if c.val ≤ 0x1F then refuse .controlCharacter place
      else withPiece (.char c) (readPieces opening (place + 1) rest)

/-- Reads a text whose opening quote stands at `opening`, from behind that
quote. -/
def readText (opening : Nat) (rest : List Char) :
    Except ReadFault (String × Cursor) :=
  (readPieces opening (opening + 1) rest).map fun (pieces, cursor) =>
    (String.ofList (joinPieces pieces), cursor)

/-- The whole part of a number: a zero, or digits that do not start with
one. -/
def wholeDigits : List Char → List Char
  | '0' :: _ => ['0']
  | cs => cs.takeWhile Numeral.isDigit

/-- A point with at least one digit behind it, or nothing. -/
def fractionPart : List Char → List Char
  | '.' :: rest =>
      match rest.takeWhile Numeral.isDigit with
      | [] => []
      | digits => '.' :: digits
  | _ => []

/-- An exponent with at least one digit, or nothing. -/
def exponentPart : List Char → List Char
  | e :: rest =>
      if e = 'e' ∨ e = 'E' then
        let signPart :=
          match rest with
          | '-' :: _ => ['-']
          | '+' :: _ => ['+']
          | _ => []
        match (rest.drop signPart.length).takeWhile Numeral.isDigit with
        | [] => []
        | digits => e :: signPart ++ digits
      else []
  | [] => []

def readNumber (cursor : Cursor) : Except ReadFault (Datum × Cursor) :=
  let signPart :=
    match cursor.rest with
    | '-' :: _ => ['-']
    | _ => []
  let unsigned := cursor.rest.drop signPart.length
  let whole := wholeDigits unsigned
  let fraction := fractionPart (unsigned.drop whole.length)
  let exponent := exponentPart (unsigned.drop (whole.length + fraction.length))
  let digits := signPart ++ whole
  let behind (written : List Char) : Cursor := cursor.advance written.length
  if whole.isEmpty then refuse .valueExpected cursor.place
  else if fraction.isEmpty && exponent.isEmpty then
    let size : Int := Numeral.valueOfDigits whole
    .ok (.int (if signPart.isEmpty then size else -size), behind digits)
  else
    let written := digits ++ fraction ++ exponent
    match Decimal.ofPlainChars? written with
    | some d => .ok (.decimal d, behind written)
    | none => .error (.signal .invalidOperation)

def words : List (List Char × Datum) :=
  [("null".toList, .null), ("true".toList, .bool true),
    ("false".toList, .bool false), ("NaN".toList, .float .notANumber),
    ("Infinity".toList, .float (.infinite false)),
    ("-Infinity".toList, .float (.infinite true))]

def readScalar (cursor : Cursor) : Except ReadFault (Datum × Cursor) :=
  match words.find? fun (word, _) => word.isPrefixOf cursor.rest with
  | some (word, datum) => .ok (datum, cursor.advance word.length)
  | none => readNumber cursor

mutual

/-- Reads a value. Every step down or along takes one of the `steps`; no
character leads to more than two of them. -/
def readValue : (steps : Nat) → Cursor → Except ReadFault (Datum × Cursor)
  | 0, cursor => refuse .valueExpected cursor.place
  | steps + 1, cursor =>
      match cursor.rest with
      | '"' :: rest =>
          (readText cursor.place rest).map fun (text, behind) =>
            (.ofString text, behind)
      | '\x7b' :: rest =>
          let inside := Cursor.skipBlanks ⟨cursor.place + 1, rest⟩
          match inside.rest with
          | '\x7d' :: rest => .ok (.mapping [], ⟨inside.place + 1, rest⟩)
          | _ => readEntries steps [] inside
      | '[' :: rest =>
          let inside := Cursor.skipBlanks ⟨cursor.place + 1, rest⟩
          match inside.rest with
          | ']' :: rest => .ok (.list [], ⟨inside.place + 1, rest⟩)
          | _ =>
              (readMembers steps inside).map fun (members, behind) =>
                (.list members, behind)
      | _ => readScalar cursor

/-- Reads the members of a list from one of them up to the closing bracket. -/
def readMembers : (steps : Nat) → Cursor → Except ReadFault (List Datum × Cursor)
  | 0, cursor => refuse .valueExpected cursor.place
  | steps + 1, cursor => do
      let (member, behind) ← readValue steps cursor
      let behind := behind.skipBlanks
      match behind.rest with
      | ']' :: rest => return ([member], ⟨behind.place + 1, rest⟩)
      | ',' :: rest =>
          let (others, behind) ←
            readMembers steps (Cursor.skipBlanks ⟨behind.place + 1, rest⟩)
          return (member :: others, behind)
      | _ => refuse .commaExpected behind.place

/-- Reads the entries of an object from a key up to the closing brace and adds
them to those before. -/
def readEntries : (steps : Nat) → List (String × Datum) → Cursor → Except ReadFault (Datum × Cursor)
  | 0, _, cursor => refuse .valueExpected cursor.place
  | steps + 1, before, cursor =>
      match cursor.rest with
      | '"' :: rest => do
          let (key, behind) ← readText cursor.place rest
          let behind := behind.skipBlanks
          match behind.rest with
          | ':' :: rest =>
              let (value, behind) ←
                readValue steps (Cursor.skipBlanks ⟨behind.place + 1, rest⟩)
              let behind := behind.skipBlanks
              let entries := Datum.setEntry key value before
              match behind.rest with
              | '\x7d' :: rest => return (.mapping entries, ⟨behind.place + 1, rest⟩)
              | ',' :: rest =>
                  readEntries steps entries
                    (Cursor.skipBlanks ⟨behind.place + 1, rest⟩)
              | _ => refuse .commaExpected behind.place
          | _ => refuse .colonExpected behind.place
      | _ => refuse .keyExpected cursor.place

end

/-- Reads a text that holds one value and blanks around it. A byte order mark
is not taken for a blank. -/
def read (text : List Char) : Except ReadFault Datum :=
  match text with
  | '\uFEFF' :: _ => .error (.trouble .byteOrderMark 0)
  | _ => do
      let (datum, behind) ←
        readValue (2 * text.length + 1) (Cursor.skipBlanks ⟨0, text⟩)
      let behind := behind.skipBlanks
      if behind.rest.isEmpty then return datum
      else throw (.trouble .extraData behind.place)

end Json

end RetailPricing
