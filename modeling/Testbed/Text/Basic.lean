import Testbed.Text.Printable

namespace Testbed
namespace Text

/-!
Small readers and writers of texts: blanks, trimming and cutting; decimal numerals; hexadecimal digits; and
quoted text.
-/

/-! ## Blanks -/

/-- White space of the character standard, blanks beyond ASCII included. -/
def isBlank (character : Char) : Bool :=
  let point := character.toNat
  (9 ≤ point && point ≤ 13) || point == 0x20 || point == 0x85 || point == 0xA0 || point == 0x1680 ||
    (0x2000 ≤ point && point ≤ 0x200A) || point == 0x2028 || point == 0x2029 || point == 0x202F ||
    point == 0x205F || point == 0x3000

/-- Removes characters at the end that the test accepts. -/
def dropTrailing (test : Char → Bool) (text : List Char) : List Char :=
  (text.reverse.dropWhile test).reverse

/-- Removes from both ends what the test accepts. -/
def trimBy (test : Char → Bool) (text : List Char) : List Char :=
  dropTrailing test (text.dropWhile test)

/-- A text without blanks at its ends. -/
def trim (text : String) : String :=
  String.ofList (trimBy isBlank text.toList)

/-- What stands before and after the first place where certain characters stand. -/
def cutAt (mark : List Char) : List Char → Option (List Char × List Char)
  | [] => none
  | character :: rest =>
    if mark.isPrefixOf (character :: rest) then some ([], (character :: rest).drop mark.length)
    else (cutAt mark rest).map fun (before, after) => (character :: before, after)

/-!
## Decimal numerals

A numeral is a nonempty run of ASCII digits, possibly after a sign; blanks inside or around it, separators and
other digits make it no numeral.
-/

def isDigit (character : Char) : Bool :=
  '0' ≤ character && character ≤ '9'

/-- The value of decimal digits. -/
def digitsValue (digits : List Char) : Nat :=
  digits.foldl (fun value digit => value * 10 + (digit.toNat - 48)) 0

/-- The value of a nonempty run of digits and nothing else. -/
def digits? (text : List Char) : Option Nat :=
  if !text.isEmpty && text.all isDigit then some (digitsValue text) else none

/-- The value of a numeral below a bound, which may have a plus sign. -/
def natural? (bound : Nat) (text : List Char) : Option Nat :=
  let magnitude :=
    match text with
    | '+' :: digits => digits? digits
    | digits => digits? digits
  magnitude.filter (· < bound)

/-- The value of a numeral of 64 bits, which may have either sign. -/
def int64? (text : List Char) : Option Int64 :=
  match text with
  | '-' :: digits =>
    ((digits? digits).filter (· ≤ Nat.pow 2 63)).map fun magnitude =>
      Int64.ofInt (-(magnitude : Int))
  | '+' :: digits =>
    ((digits? digits).filter (· < Nat.pow 2 63)).map fun magnitude => Int64.ofInt magnitude
  | digits =>
    ((digits? digits).filter (· < Nat.pow 2 63)).map fun magnitude => Int64.ofInt magnitude

/-! ## Hexadecimal digits -/

/-- The value of a hexadecimal digit of either case. -/
def hexValue? (character : Char) : Option Nat :=
  if '0' ≤ character ∧ character ≤ '9' then some (character.toNat - 48)
  else if 'a' ≤ character ∧ character ≤ 'f' then some (character.toNat - 87)
  else if 'A' ≤ character ∧ character ≤ 'F' then some (character.toNat - 55)
  else none

/-- The lower-case digit of a value below sixteen. -/
def hexDigit (value : Nat) : Char :=
  if value < 10 then Char.ofNat (48 + value) else Char.ofNat (87 + value)

/-- Lower-case hexadecimal digits without leading zeros. -/
def hexDigits (value : Nat) : List Char :=
  if value < 16 then [hexDigit value] else hexDigits (value / 16) ++ [hexDigit (value % 16)]

/-- A natural number in lower-case hexadecimal, padded with zeros to a width. -/
def paddedHex (width value : Nat) : String :=
  let digits := hexDigits value
  String.ofList (List.replicate (width - digits.length) '0' ++ digits)

/-- Bytes as hexadecimal text, two lower-case digits for each. -/
def hex (bytes : List UInt8) : String :=
  String.ofList (bytes.flatMap fun byte => [hexDigit (byte.toNat / 16), hexDigit (byte.toNat % 16)])

/-!
## Quoted text

As messages show it, a text stands between double quotes, and quotes, backslashes and everything that would not
print are escaped. A list of texts is quoted member by member inside brackets.
-/

/-- One character inside quotes. -/
def quoteChar (character : Char) : List Char :=
  if character = '"' then ['\\', '"']
  else if character = '\\' then ['\\', '\\']
  else if character = '\n' then ['\\', 'n']
  else if character = '\r' then ['\\', 'r']
  else if character = '\t' then ['\\', 't']
  else if character.toNat = 0 then ['\\', '0']
  else if isPrintable character then [character]
  else ['\\', 'u', '\x7b'] ++ hexDigits character.toNat ++ ['\x7d']

/-- A text between quotes. -/
def quoted (text : String) : String :=
  String.ofList ('"' :: text.toList.flatMap quoteChar ++ ['"'])

/-- Quoted texts between brackets, separated by a comma and a blank. -/
def quotedList (texts : List String) : String :=
  "[" ++ ", ".intercalate (texts.map quoted) ++ "]"

end Text
end Testbed
