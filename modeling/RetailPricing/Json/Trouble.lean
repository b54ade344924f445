/-!
# Malformed JSON

What can be wrong with a JSON text, and where. Places are counted in
characters from the start of the text; lines and columns count from one.
-/

namespace RetailPricing

namespace Json

inductive Trouble
  | valueExpected
  | commaExpected
  | colonExpected
  | keyExpected
  | extraData
  | unterminatedText
  | controlCharacter
  | badEscape
  | badCodeEscape
  | byteOrderMark
deriving DecidableEq

namespace Trouble

def message : Trouble → String
  | valueExpected => "Expecting value"
  | commaExpected => "Expecting ',' delimiter"
  | colonExpected => "Expecting ':' delimiter"
  | keyExpected => "Expecting property name enclosed in double quotes"
  | extraData => "Extra data"
  | unterminatedText => "Unterminated string starting at"
  | controlCharacter => "Invalid control character at"
  | badEscape => "Invalid \\escape"
  | badCodeEscape => "Invalid \\uXXXX escape"
  | byteOrderMark => "Unexpected UTF-8 BOM (decode using utf-8-sig)"

end Trouble

/-- The line of a place, counted from one. -/
def lineAt (text : List Char) (place : Nat) : Nat :=
  (text.take place).count '\n' + 1

/-- The column of a place in its line, counted from one. -/
def columnAt (text : List Char) (place : Nat) : Nat :=
  ((text.take place).reverse.takeWhile (· != '\n')).length + 1

/-- A trouble with its place in all ways of counting. -/
structure SyntaxFault where
  trouble : Trouble
  place : Nat
  line : Nat
  column : Nat
deriving DecidableEq

namespace SyntaxFault

def locate (text : List Char) (trouble : Trouble) (place : Nat) : SyntaxFault :=
  ⟨trouble, place, lineAt text place, columnAt text place⟩

def describe (fault : SyntaxFault) : String :=
  fault.trouble.message ++ ": line " ++ toString fault.line ++ " column " ++
    toString fault.column ++ " (char " ++ toString fault.place ++ ")"

end SyntaxFault

end Json

end RetailPricing
