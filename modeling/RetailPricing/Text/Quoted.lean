import RetailPricing.Text.Printable

/-!
# Quoted text

Error details show a text between quotes. Single quotes are used unless the
text holds a single quote and no double quote. Inside the quotes the quote
itself and the backslash are escaped, and characters that are not printable
are written by name or by number.
-/

namespace RetailPricing

namespace Text

/-- The last `width` hexadecimal digits of `n`, filled up with zeros. -/
def hexDigits (width n : Nat) : List Char :=
  let digits := Nat.toDigits 16 n
  List.replicate (width - digits.length) '0' ++ digits

def quoteFor (text : List Char) : Char :=
  if text.contains '\'' && !text.contains '"' then '"' else '\''

/-- A character by its number. -/
def numberedChar (c : Char) : List Char :=
  let n := c.val.toNat
  if n ≤ 0xFF then '\\' :: 'x' :: hexDigits 2 n
  else if n ≤ 0xFFFF then '\\' :: 'u' :: hexDigits 4 n
  else '\\' :: 'U' :: hexDigits 8 n

/-- One character as it stands between the quotes `quote`. -/
def quotedChar (quote c : Char) : List Char :=
  if c = quote || c = '\\' then ['\\', c]
  else if c = '\t' then ['\\', 't']
  else if c = '\n' then ['\\', 'n']
  else if c = '\r' then ['\\', 'r']
  else if isPrintable c then [c]
  else numberedChar c

def inAscii (text : String) : String :=
  String.ofList <| text.toList.flatMap fun c =>
    if c.val < 0x80 then [c] else numberedChar c

def quoted (text : String) : String :=
  let characters := text.toList
  let quote := quoteFor characters
  String.ofList
    (quote :: characters.flatMap (quotedChar quote) ++ [quote])

end Text

end RetailPricing
