namespace Testbed
namespace Yaml

/-!
Walking through the text of a stream of documents. Where a part stands matters as much as what it says: the
column decides what it belongs to, and line and index whether it can still be the name of a member.
-/

/-- A place in a text, with what follows it. -/
structure Cursor where
  rest : List Char
  index : Nat := 0
  line : Nat := 0
  column : Nat := 0

/-- Whether a character ends a line. -/
def isBreak (character : Char) : Bool :=
  character == '\n' || character == '\r' || character.toNat == 0x85 ||
    character.toNat == 0x2028 || character.toNat == 0x2029

/-- Whether a character separates words on a line. -/
def isBlank (character : Char) : Bool :=
  character == ' ' || character == '\t'

/-- Whether a word ends before a character, if there is one. -/
def endsWord : Option Char → Bool
  | some character => isBlank character || isBreak character
  | none => true

/-- Whether a line ends before a character, if there is one. -/
def endsLine : Option Char → Bool
  | some character => isBreak character
  | none => true

/-- Whether a character can occur in a name. -/
def isNameChar (character : Char) : Bool :=
  character.isAlphanum || character == '_' || character == '-'

/-- Whether a character may occur in a text at all. -/
def isAllowed (character : Char) : Bool :=
  let point := character.toNat
  point == 9 || point == 10 || point == 13 || (0x20 ≤ point && point ≤ 0x7E) || point == 0x85 ||
    (0xA0 ≤ point && point ≤ 0xD7FF) || (0xE000 ≤ point && point ≤ 0xFFFD) || 0x10000 ≤ point

namespace Cursor

/-- The character so many places ahead. -/
def peek? (cursor : Cursor) (ahead : Nat := 0) : Option Char :=
  cursor.rest[ahead]?

/-- Whether a certain character comes next. -/
def faces (cursor : Cursor) (character : Char) : Bool :=
  cursor.peek? == some character

/-- The place so many characters ahead on the line. -/
def skip (cursor : Cursor) (count : Nat := 1) : Cursor :=
  { cursor with
    rest := cursor.rest.drop count
    index := cursor.index + count
    column := cursor.column + count }

/-- The characters ahead that pass a test. -/
def run (cursor : Cursor) (test : Char → Bool) : List Char :=
  cursor.rest.takeWhile test

/-- The place after the characters ahead that pass a test. -/
def skipRun (cursor : Cursor) (test : Char → Bool) : Cursor :=
  cursor.skip (cursor.run test).length

/-- The line break ahead, as it counts in a text, and the beginning of the next line. -/
def readBreak (cursor : Cursor) : List Char × Cursor :=
  let next (count : Nat) : Cursor :=
    ⟨cursor.rest.drop count, cursor.index + count, cursor.line + 1, 0⟩
  match cursor.rest with
  | '\r' :: '\n' :: _ => (['\n'], next 2)
  | character :: _ =>
    if character.toNat = 0x2028 ∨ character.toNat = 0x2029 then ([character], next 1)
    else if isBreak character then (['\n'], next 1)
    else ([], cursor)
  | [] => ([], cursor)

/-- Whether three of a character stand at the beginning of a line, and a word ends behind them. -/
def facesMark (cursor : Cursor) (character : Char) : Bool :=
  cursor.column == 0 && cursor.rest.take 3 == [character, character, character] &&
    endsWord (cursor.peek? 3)

/-- Whether a document begins or ends at a place. -/
def facesDocument (cursor : Cursor) : Bool :=
  cursor.facesMark '-' || cursor.facesMark '.'

/-- The rest of the line up to its end. -/
def skipComment (cursor : Cursor) : Cursor :=
  if cursor.faces '#' then cursor.skipRun fun character => !isBreak character else cursor

end Cursor
end Yaml
end Testbed
