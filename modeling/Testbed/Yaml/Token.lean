import Testbed.Text.Utf8
import Testbed.Yaml.Scalar

namespace Testbed
namespace Yaml

/-!
The marks and words of a text. The blocks that indentation forms have marks of their own, so that what
follows can be read without looking at columns.
-/

/-- A mark or a word. -/
inductive Token where
  | versionDirective
  /-- What a handle of tags stands for. -/
  | tagDirective (handle expansion : String)
  | documentStart
  | documentEnd
  | blockSequenceStart
  | blockMappingStart
  | blockEnd
  | flowSequenceStart
  | flowSequenceEnd
  | flowMappingStart
  | flowMappingEnd
  | flowEntry
  | blockEntry
  | key
  | value
  | reference (name : String)
  | anchor (name : String)
  | tag (handle suffix : String)
  | scalar (text : String) (plain : Bool)
  deriving DecidableEq

namespace Token

/-- Whether a name may end before a character, if there is one. -/
def endsName (next : Option Char) : Bool :=
  endsWord next || next.any (['?', ':', ',', ']', '\x7d', '%', '@', '\x60'].contains)

/-- The name of an anchor, after its indicator, and what follows it. -/
def readName (cursor : Cursor) : Option (String × Cursor) :=
  let name := cursor.run isNameChar
  let next := cursor.skip name.length
  if name.isEmpty || !endsName next.peek? then none else some (String.ofList name, next)

/-! ## Tags -/

/-- Whether a character may occur in a tag. -/
def isTagChar (verbatim : Bool) (character : Char) : Bool :=
  isNameChar character ||
    [';', '/', '?', ':', '@', '&', '=', '+', '$', '.', '!', '~', '*', '\'', '(', ')'].contains
      character ||
    (verbatim && [',', '[', ']'].contains character)

/-- Bytes of a tag. A per cent sign stands before a byte in hexadecimal digits. -/
def readTagBytes (verbatim : Bool) : Nat → Cursor → Option (List UInt8 × Cursor)
  | 0, _ => none
  | bound + 1, cursor =>
    match cursor.peek? with
    | some '%' => do
      let high ← (← cursor.peek? 1) |> Text.hexValue?
      let low ← (← cursor.peek? 2) |> Text.hexValue?
      let (bytes, next) ← readTagBytes verbatim bound (cursor.skip 3)
      some (UInt8.ofNat (high * 16 + low) :: bytes, next)
    | some character =>
      if isTagChar verbatim character then do
        let (bytes, next) ← readTagBytes verbatim bound cursor.skip
        some (UInt8.ofNat character.toNat :: bytes, next)
      else some ([], cursor)
    | none => some ([], cursor)

/-- The text of a tag or of a part of it, which may be empty. -/
def readTagText (verbatim : Bool) (bound : Nat) (cursor : Cursor) : Option (String × Cursor) := do
  let (bytes, next) ← readTagBytes verbatim bound cursor
  let text ← (Text.Utf8.decode bytes).toOption
  some (text, next)

/-- The handle of a tag, from its exclamation mark on. -/
def readHandle? (cursor : Cursor) : Option (String × Cursor) :=
  let name := (cursor.skip).run isNameChar
  let next := cursor.skip (name.length + 1)
  if cursor.faces '!' && next.faces '!' then
    some ("!" ++ String.ofList name ++ "!", next.skip)
  else none

/-- A tag in angle brackets, after the opening one. -/
def readVerbatim (bound : Nat) (cursor : Cursor) : Option (Token × Cursor) := do
  let (text, next) ← readTagText true bound cursor
  if text.isEmpty || !next.faces '>' then none else some (tag "" text, next.skip)

/-- A tag with a handle, or one without a name, which has no handle at all, or one of the document's own. -/
def readShorthand (bound : Nat) (cursor : Cursor) : Option (Token × Cursor) :=
  match readHandle? cursor with
  | some (handle, next) => do
    let (suffix, last) ← readTagText false bound next
    if suffix.isEmpty then none else some (tag handle suffix, last)
  | none => do
    let (suffix, last) ← readTagText false bound cursor.skip
    if suffix.isEmpty then some (tag "" "!", last) else some (tag "!" suffix, last)

/-- A tag, from its exclamation mark on. -/
def readTag (inFlow : Bool) (bound : Nat) (cursor : Cursor) : Option (Token × Cursor) := do
  let (token, next) ←
    if cursor.peek? 1 == some '<' then readVerbatim bound (cursor.skip 2)
    else readShorthand bound cursor
  if endsWord next.peek? || (inFlow && next.faces ',') then some (token, next) else none

/-! ## Directives -/

/-- A number of no more than nine digits. -/
def readNumber (cursor : Cursor) : Option (Nat × Cursor) :=
  let digits := cursor.run Text.isDigit
  if digits.isEmpty || 9 < digits.length then none
  else some (Text.digitsValue digits, cursor.skip digits.length)

/-- A version of the language, which has to be 1.1 or 1.2. -/
def readVersion (cursor : Cursor) : Option (Token × Cursor) := do
  let (major, next) ← readNumber cursor
  if !next.faces '.' then none
  else
    let (minor, last) ← readNumber next.skip
    if major = 1 ∧ (minor = 1 ∨ minor = 2) then some (versionDirective, last) else none

/-- A handle of tags and what it stands for. -/
def readExpansion (bound : Nat) (cursor : Cursor) : Option (Token × Cursor) := do
  let (handle, next) ← (readHandle? cursor).orElse fun _ =>
    if cursor.faces '!' then some ("!", cursor.skip) else none
  if !next.peek?.any isBlank then none
  else
    let (expansion, last) ← readTagText true bound (next.skipRun isBlank)
    if expansion.isEmpty || !endsWord last.peek? then none
    else some (tagDirective handle expansion, last)

/-- A directive, from its per cent sign on, with the rest of its line. -/
def readDirective (bound : Nat) (cursor : Cursor) : Option (Token × Cursor) := do
  let name := (cursor.skip).run isNameChar
  let next := cursor.skip (name.length + 1)
  if !endsWord next.peek? then none
  else
    let start := next.skipRun isBlank
    let (token, behind) ←
      if name = "YAML".toList then readVersion start
      else if name = "TAG".toList then readExpansion bound start
      else none
    let last := (behind.skipRun isBlank).skipComment
    if endsLine last.peek? then some (token, last.readBreak.2) else none

end Token
end Yaml
end Testbed
