import Testbed.Json.Basic
import Testbed.Text.Basic

namespace Testbed
namespace Json

/-!
Writing documents, on one line or indented. Both forms escape quotes, backslashes and the characters
below the blank, and nothing else.
-/

/-- One character inside a written text. -/
def escapeChar (character : Char) : List Char :=
  if character = '"' then ['\\', '"']
  else if character = '\\' then ['\\', '\\']
  else if character = '\n' then ['\\', 'n']
  else if character = '\r' then ['\\', 'r']
  else if character = '\t' then ['\\', 't']
  else if character.toNat = 8 then ['\\', 'b']
  else if character.toNat = 12 then ['\\', 'f']
  else if character.toNat < 32 then
    ['\\', 'u', '0', '0', Text.hexDigit (character.toNat / 16), Text.hexDigit (character.toNat % 16)]
  else [character]

/-- A written text, quotes included. -/
def escaped (text : String) : String :=
  String.ofList ('"' :: text.toList.flatMap escapeChar ++ ['"'])

/-- A decimal with the digits it has: in full while its point is near, and else with an exponent. -/
def decimalText (value : Decimal) : String :=
  let significant := Text.dropTrailing (· == '0') (Nat.toDigits 10 value.coefficient)
  let sign := if value.negative then "-" else ""
  if significant.isEmpty then sign ++ "0.0"
  else
    let count := significant.length
    -- where the point stands, counted from the first digit
    let point : Int := (Nat.toDigits 10 value.coefficient).length + value.exponent
    let zeros (amount : Nat) : List Char := List.replicate amount '0'
    let digits :=
      if (count : Int) ≤ point ∧ point ≤ 16 then
        significant ++ zeros (point.toNat - count) ++ ['.', '0']
      else if 0 < point ∧ point ≤ 16 then
        significant.take point.toNat ++ '.' :: significant.drop point.toNat
      else if -5 < point ∧ point ≤ 0 then '0' :: '.' :: (zeros (-point).toNat ++ significant)
      else
        let tail := significant.drop 1
        significant.take 1 ++ (if tail.isEmpty then [] else '.' :: tail) ++
          'e' :: (if 1 ≤ point then ['+'] else []) ++ (toString (point - 1)).toList
    sign ++ String.ofList digits

/-- The text of a value that holds no others. -/
def atomText : Json → String
  | null => "null"
  | bool true => "true"
  | bool false => "false"
  | integer value => toString value
  | decimal value => decimalText value
  | string text => escaped text
  | array _ => "[]"
  | object _ => "\x7b\x7d"

mutual

/-- A document on one line, without blanks. -/
def compact : Json → String
  | array [] => "[]"
  | array (first :: rest) => "[" ++ compact first ++ compactItems rest ++ "]"
  | object [] => "\x7b\x7d"
  | object ((name, value) :: rest) =>
    "\x7b" ++ escaped name ++ ":" ++ compact value ++ compactMembers rest ++ "\x7d"
  | null => atomText null
  | bool value => atomText (bool value)
  | integer value => atomText (integer value)
  | decimal value => atomText (decimal value)
  | string text => atomText (string text)

/-- Further items, each after a comma. -/
def compactItems : List Json → String
  | [] => ""
  | item :: rest => "," ++ compact item ++ compactItems rest

/-- Further members, each after a comma. -/
def compactMembers : List (String × Json) → String
  | [] => ""
  | (name, value) :: rest => "," ++ escaped name ++ ":" ++ compact value ++ compactMembers rest

end

/-- A new line at a depth of nesting, two blanks for each level. -/
def newLine (depth : Nat) : String :=
  String.ofList ('\n' :: List.replicate (2 * depth) ' ')

mutual

/-- A document over several lines. Empty arrays and objects stay on one. -/
def indented (depth : Nat) : Json → String
  | array [] => "[]"
  | array (first :: rest) =>
    "[" ++ newLine (depth + 1) ++ indented (depth + 1) first ++ indentedItems (depth + 1) rest ++
      newLine depth ++ "]"
  | object [] => "\x7b\x7d"
  | object ((name, value) :: rest) =>
    "\x7b" ++ newLine (depth + 1) ++ escaped name ++ ": " ++ indented (depth + 1) value ++
      indentedMembers (depth + 1) rest ++ newLine depth ++ "\x7d"
  | null => atomText null
  | bool value => atomText (bool value)
  | integer value => atomText (integer value)
  | decimal value => atomText (decimal value)
  | string text => atomText (string text)

/-- Further items, each on its own line. -/
def indentedItems (depth : Nat) : List Json → String
  | [] => ""
  | item :: rest => "," ++ newLine depth ++ indented depth item ++ indentedItems depth rest

/-- Further members, each on its own line. -/
def indentedMembers (depth : Nat) : List (String × Json) → String
  | [] => ""
  | (name, value) :: rest =>
    "," ++ newLine depth ++ escaped name ++ ": " ++ indented depth value ++
      indentedMembers depth rest

end

end Json
end Testbed
