import Testbed.Json.Double
import Testbed.Text.Basic

namespace Testbed

/-!
Documents as they are written. Reading a text this way asks only that it is well formed: members
stand in their order, even when their names are repeated, and numbers and texts without a value, such
as a number beyond double precision or half of a surrogate pair, are kept as such. What a reader of
the document looks at must have a value; what it skips need not. Every function here consumes at
least one character per call of a value, so a bound computed from the length of the text never cuts a
reading short.
-/

/-- A document as it is written. -/
inductive RawJson where
  | null
  | bool (value : Bool)
  | number (value : Option Json)
  | string (text : Option String)
  | array (items : List RawJson)
  | object (members : List (Option String × RawJson))
  deriving Inhabited

namespace RawJson

def skipBlanks (input : List Char) : List Char :=
  input.dropWhile fun character =>
    character == ' ' || character == '\n' || character == '\t' || character == '\r'

/-- Four hexadecimal digits at the head of the input. -/
def readUnit : List Char → Option (Nat × List Char)
  | a :: b :: c :: d :: rest => do
    let high := (← Text.hexValue? a) * 16 + (← Text.hexValue? b)
    let low := (← Text.hexValue? c) * 16 + (← Text.hexValue? d)
    some (high * 256 + low, rest)
  | _ => none

/-- The character of a one-letter escape. -/
def shortEscape? : Char → Option Char
  | '"' => some '"'
  | '\\' => some '\\'
  | '/' => some '/'
  | 'b' => some (Char.ofNat 8)
  | 'f' => some (Char.ofNat 12)
  | 'n' => some '\n'
  | 'r' => some '\r'
  | 't' => some '\t'
  | _ => none

/-- The character of a code unit escape whose digits have been read, with what follows. The high half
of a pair takes its low half from the input; a half alone has no value. -/
def readScalar (unit : Nat) (input : List Char) : Option (Option Char × List Char) :=
  if 0xDC00 ≤ unit ∧ unit ≤ 0xDFFF then some (none, input)
  else if 0xD800 ≤ unit ∧ unit ≤ 0xDBFF then
    match input with
    | '\\' :: 'u' :: digits =>
      match readUnit digits with
      | some (low, rest) =>
        if 0xDC00 ≤ low ∧ low ≤ 0xDFFF then
          some (some (Char.ofNat (0x10000 + (unit - 0xD800) * 1024 + (low - 0xDC00))), rest)
        else some (none, input)
      | none => none
    | _ => some (none, input)
  else some (some (Char.ofNat unit), input)

/-- A character before a text, if both have a value. -/
def prepend (character : Option Char) (text : Option (List Char)) : Option (List Char) :=
  character.bind fun first => text.map (first :: ·)

/-- The rest of a text after its opening quote, and what follows the closing one. -/
def readText : Nat → List Char → Option (Option (List Char) × List Char)
  | 0, _ => none
  | _ + 1, '"' :: rest => some (some [], rest)
  | bound + 1, '\\' :: 'u' :: digits => do
    let (unit, afterUnit) ← readUnit digits
    let (character, afterScalar) ← readScalar unit afterUnit
    let (text, rest) ← readText bound afterScalar
    some (prepend character text, rest)
  | bound + 1, '\\' :: letter :: afterEscape => do
    let character ← shortEscape? letter
    let (text, rest) ← readText bound afterEscape
    some (prepend (some character) text, rest)
  | bound + 1, character :: afterCharacter =>
    if character.toNat < 32 then none
    else do
      let (text, rest) ← readText bound afterCharacter
      some (prepend (some character) text, rest)
  | _ + 1, [] => none

/-- A nonempty run of decimal digits. -/
def readDigits (input : List Char) : Option (List Char × List Char) :=
  let digits := input.takeWhile Text.isDigit
  if digits.isEmpty then none else some (digits, input.dropWhile Text.isDigit)

/-- The digits after a decimal point, if there is one. -/
def readFraction : List Char → Option (List Char × List Char)
  | '.' :: rest => readDigits rest
  | input => some ([], input)

/-- The exponent after its letter, if there is one; absent and zero are told apart. -/
def readExponent : List Char → Option (Option Int × List Char)
  | letter :: rest =>
    if letter = 'e' ∨ letter = 'E' then
      match rest with
      | '+' :: digits => (readDigits digits).map fun found => (some (Text.digitsValue found.1), found.2)
      | '-' :: digits => (readDigits digits).map fun found => (some (-(Text.digitsValue found.1 : Int)), found.2)
      | digits => (readDigits digits).map fun found => (some (Text.digitsValue found.1), found.2)
    else some (none, letter :: rest)
  | [] => some (none, [])

/-- A number from its parts, if it has a value. A whole number that neither 64-bit form holds, and minus
zero, are decimals. -/
def numberOf (negative : Bool) (whole fraction : List Char) (exponent : Option Int) : Option Json :=
  let magnitude := Text.digitsValue whole
  if fraction.isEmpty && exponent.isNone &&
      (if negative then 0 < magnitude && magnitude ≤ Nat.pow 2 63 else magnitude < Nat.pow 2 64) then
    some (.integer (if negative then -(magnitude : Int) else magnitude))
  else
    (Double.ofDigits whole fraction (exponent.getD 0)).map fun number =>
      .decimal ⟨negative, number.shortest.1, number.shortest.2⟩

/-- A number without its sign. No digit follows a leading zero. -/
def readNumber (negative : Bool) (input : List Char) : Option (RawJson × List Char) := do
  let (whole, afterWhole) ← readDigits input
  if whole.head? = some '0' ∧ whole.length ≠ 1 then none
  else
    let (fraction, afterFraction) ← readFraction afterWhole
    let (exponent, rest) ← readExponent afterFraction
    some (number (numberOf negative whole fraction exponent), rest)

/-- The rest of the input after the expected characters. -/
def readWord : List Char → List Char → Option (List Char)
  | [], input => some input
  | expected :: word, character :: input =>
    if expected = character then readWord word input else none
  | _ :: _, [] => none

mutual

/-- A value, after blanks. -/
def readValue : Nat → List Char → Option (RawJson × List Char)
  | 0, _ => none
  | bound + 1, input =>
    match skipBlanks input with
    | '[' :: rest =>
      match skipBlanks rest with
      | ']' :: after => some (array [], after)
      | start => (readItems bound start).map fun (items, after) => (array items, after)
    | '\x7b' :: rest =>
      match skipBlanks rest with
      | '\x7d' :: after => some (object [], after)
      | start => (readMembers bound start).map fun (members, after) => (object members, after)
    | '"' :: rest =>
      (readText (rest.length + 1) rest).map fun (text, after) =>
        (string (text.map String.ofList), after)
    | 't' :: rest => (readWord ['r', 'u', 'e'] rest).map fun after => (bool true, after)
    | 'f' :: rest => (readWord ['a', 'l', 's', 'e'] rest).map fun after => (bool false, after)
    | 'n' :: rest => (readWord ['u', 'l', 'l'] rest).map fun after => (null, after)
    | '-' :: rest => readNumber true rest
    | start => readNumber false start

/-- The items of an array that has one, to its closing bracket. -/
def readItems : Nat → List Char → Option (List RawJson × List Char)
  | 0, _ => none
  | bound + 1, input => do
    let (item, afterItem) ← readValue bound input
    match skipBlanks afterItem with
    | ']' :: after => some ([item], after)
    | ',' :: rest =>
      let (items, after) ← readItems bound rest
      some (item :: items, after)
    | _ => none

/-- The members of an object that has one, to its closing brace. -/
def readMembers : Nat → List Char → Option (List (Option String × RawJson) × List Char)
  | 0, _ => none
  | bound + 1, input =>
    match skipBlanks input with
    | '"' :: rest => do
      let (name, afterName) ← readText (rest.length + 1) rest
      match skipBlanks afterName with
      | ':' :: afterColon =>
        let (value, afterValue) ← readValue bound afterColon
        match skipBlanks afterValue with
        | '\x7d' :: after => some ([(name.map String.ofList, value)], after)
        | ',' :: more =>
          let (members, after) ← readMembers bound more
          some ((name.map String.ofList, value) :: members, after)
        | _ => none
      | _ => none
    | _ => none

end

/-- The one document a text holds. Each of its characters costs no more than two nested calls. -/
def parse (text : String) : Option RawJson :=
  match readValue (2 * text.length + 2) text.toList with
  | some (document, rest) => if (skipBlanks rest).isEmpty then some document else none
  | none => none

/-- What is left of a limit on nesting, where there is one, inside one more array or object. -/
def enter? : Option Nat → Option (Option Nat)
  | none => some none
  | some 0 => none
  | some (depth + 1) => some (some depth)

mutual

/-- The value of a document, when everything in it has one and arrays and objects are nested no deeper than
allowed. Of members with one name the last counts. -/
def value? (depth : Option Nat) : RawJson → Option Json
  | null => some .null
  | bool value => some (.bool value)
  | number value => value
  | string text => text.map .string
  | array items => do
    let inner ← enter? depth
    return .array (← itemValues? inner items)
  | object members => do
    let inner ← enter? depth
    return .object (Json.sortMembers (← memberValues? inner members))

/-- The values of items. -/
def itemValues? (depth : Option Nat) : List RawJson → Option (List Json)
  | [] => some []
  | item :: rest => do return (← value? depth item) :: (← itemValues? depth rest)

/-- The values of members. -/
def memberValues? (depth : Option Nat) :
    List (Option String × RawJson) → Option (List (String × Json))
  | [] => some []
  | (name, item) :: rest => do
    return (← name, ← value? depth item) :: (← memberValues? depth rest)

end

mutual

/-- A document with everything in it as written. -/
def ofJson : Json → RawJson
  | .null => null
  | .bool value => bool value
  | .integer value => number (some (.integer value))
  | .decimal value => number (some (.decimal value))
  | .string text => string (some text)
  | .array items => array (ofItems items)
  | .object members => object (ofMembers members)

/-- Items as written. -/
def ofItems : List Json → List RawJson
  | [] => []
  | item :: rest => ofJson item :: ofItems rest

/-- Members as written. -/
def ofMembers : List (String × Json) → List (Option String × RawJson)
  | [] => []
  | (name, item) :: rest => (some name, ofJson item) :: ofMembers rest

end

/-- How deep documents may be nested. -/
def maxDepth : Option Nat := some 127

/-- The values given under a name. -/
def occurrences (name : String) (members : List (Option String × RawJson)) : List RawJson :=
  (members.filter fun entry => entry.1 == some name).map Prod.snd

/-- The value given under a name, if there is no more than one. -/
def unique? (members : List (Option String × RawJson)) (name : String) : Option (Option RawJson) :=
  match occurrences name members with
  | [] => some none
  | [value] => some (some value)
  | _ => none

/-- The values given for the fields of a record, in the order of their names: members of an object, of which
only others may be repeated, or items of an array, of which the last ones may be missing. -/
def fields? (names : List String) : RawJson → Option (List (Option RawJson))
  | object members =>
    if members.all fun entry => entry.1.isSome then names.mapM (unique? members) else none
  | array items =>
    if items.length ≤ names.length then
      some (items.map some ++ List.replicate (names.length - items.length) none)
    else none
  | _ => none

/-- The values given for the fields of a record that is an object and keeps its other members, which therefore
have to have a value, as parts of a document. -/
def openFields? (names : List String) : RawJson → Option (List (Option RawJson))
  | object members =>
    let hasValue (entry : Option String × RawJson) : Bool :=
      entry.1.any names.contains || (entry.2.value? (some 126)).isSome
    if members.all hasValue then (object members).fields? names else none
  | _ => none

/-- A field that may be absent or null. -/
def optional (read : RawJson → Option α) : Option RawJson → Option (Option α)
  | none | some null => some none
  | some value => (read value).map some

/-- Reads the value of a document. -/
def through (read : Json → Option α) (document : RawJson) : Option α :=
  (document.value? none).bind read

/-- The values given for the fields of a record that has only plain values. -/
def plainFields? (names : List String) (document : RawJson) : Option (List (Option Json)) := do
  let fields ← document.fields? names
  fields.mapM fun field =>
    match field with
    | none => some none
    | some value => (value.value? none).map some

end RawJson

/-- The one document a text holds, when all of it has a value. -/
def Json.parse (text : String) : Option Json :=
  (RawJson.parse text).bind fun document => document.value? RawJson.maxDepth

end Testbed
