import Testbed.Text.Basic
import Testbed.Text.Utf8

namespace Testbed
namespace Web

/-!
Parameters written as one text: pairs of a name and a value, with an equals sign inside a pair and an
ampersand between pairs. Letters, digits and a few marks stand for themselves, a blank is written as a
plus sign, and every other byte as a percent sign with two hexadecimal digits. Reading is generous:
whatever is no such writing stands for itself.
-/

namespace Form

/-- Whether a byte stands for itself. -/
def isPlain (byte : Nat) : Bool :=
  (48 ≤ byte && byte ≤ 57) || (65 ≤ byte && byte ≤ 90) || (97 ≤ byte && byte ≤ 122) ||
    byte == 42 || byte == 45 || byte == 46 || byte == 95

/-- The hexadecimal digit of a value below 16. -/
def hexDigit (value : Nat) : Char :=
  Char.ofNat (if value < 10 then 48 + value else 55 + value)

/-- The writing of a byte. -/
def encodeByte (byte : UInt8) : List Char :=
  if isPlain byte.toNat then [Char.ofNat byte.toNat]
  else if byte = 32 then ['+']
  else ['%', hexDigit (byte.toNat / 16), hexDigit (byte.toNat % 16)]

/-- The writing of a text. -/
def encode (text : String) : List Char :=
  (Text.Utf8.encode text).flatMap encodeByte

/-- The value of a byte that is a hexadecimal digit of either case. -/
def hexValue? (byte : UInt8) : Option Nat :=
  Text.hexValue? (Char.ofNat byte.toNat)

/-- The bytes that a writing stands for. -/
def decodeBytes : List UInt8 → List UInt8
  | 37 :: high :: low :: rest =>
    match hexValue? high, hexValue? low with
    | some first, some second => UInt8.ofNat (first * 16 + second) :: decodeBytes rest
    | _, _ => 37 :: decodeBytes (high :: low :: rest)
  | 43 :: rest => 32 :: decodeBytes rest
  | byte :: rest => byte :: decodeBytes rest
  | [] => []

/-- The text that a writing stands for. -/
def decode (text : List Char) : String :=
  Text.Utf8.decodeLossy (decodeBytes (Text.Utf8.encode (String.ofList text)))

/-- The pair that a text stands for; without an equals sign the value is empty. -/
def readPair (text : List Char) : String × String :=
  (decode (text.takeWhile (· != '=')), decode ((text.dropWhile (· != '=')).drop 1))

/-- The parts of a text between ampersands. -/
def splitPairs : List Char → List (List Char)
  | [] => [[]]
  | '&' :: rest => [] :: splitPairs rest
  | character :: rest =>
    match splitPairs rest with
    | first :: more => (character :: first) :: more
    | [] => [[character]]

/-- The parameters in a text. Empty parts are none. -/
def read (text : List Char) : List (String × String) :=
  ((splitPairs text).filter fun part => !part.isEmpty).map readPair

/-- The writing of a parameter that follows others. -/
def append (parameter : String × String) : List Char :=
  '&' :: encode parameter.1 ++ '=' :: encode parameter.2

end Form
end Web
end Testbed
