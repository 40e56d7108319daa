import Testbed.Text.Basic
import Testbed.Yaml.Cursor

namespace Testbed
namespace Yaml

/-!
The texts of scalars. In a plain or a quoted scalar a single line break counts as a blank, and of several
the first does not count; in a block scalar all of them count, unless it is a folded one. Every
function that reads on consumes a character per step, so a bound computed from the rest of the text
never cuts a reading short.
-/

/-- What stands between two words of a scalar. -/
structure Gap where
  /-- Whether a line has ended. -/
  broken : Bool := false
  /-- Blanks before any end of a line. -/
  blanks : List Char := []
  /-- The first line break. -/
  first : List Char := []
  /-- The line breaks after it. -/
  more : List Char := []

/-- What a gap counts as. -/
def Gap.text (gap : Gap) : List Char :=
  if !gap.broken then gap.blanks
  else if gap.first = ['\n'] then if gap.more.isEmpty then [' '] else gap.more
  else gap.first ++ gap.more

/-- Reads on in a gap. A tab may not stand where a line is still to be indented. -/
def readGap (indent : Int) : Nat → Gap → Cursor → Option (Gap × Cursor)
  | 0, _, _ => none
  | bound + 1, gap, cursor =>
    match cursor.peek? with
    | some character =>
      if isBlank character then
        if !gap.broken then
          readGap indent bound { gap with blanks := gap.blanks ++ cursor.run isBlank }
            (cursor.skipRun isBlank)
        else if character = '\t' ∧ (cursor.column : Int) < indent then none
        else readGap indent bound gap cursor.skip
      else if isBreak character then
        let (text, next) := cursor.readBreak
        if gap.broken then readGap indent bound { gap with more := gap.more ++ text } next
        else readGap indent bound { gap with broken := true, blanks := [], first := text } next
      else some (gap, cursor)
    | none => some (gap, cursor)

/-! ## Plain scalars -/

/-- Whether a character is a mark of arrays and objects that are written in brackets. -/
def isFlowMark (character : Char) : Bool :=
  character == ',' || character == '[' || character == ']' || character == '\x7b' ||
    character == '\x7d'

/-- Reads on in a word of a plain scalar. -/
def readWord (inFlow : Bool) : Nat → Cursor → Option (List Char × Cursor)
  | 0, _ => none
  | bound + 1, cursor =>
    match cursor.peek? with
    | some character =>
      let next := cursor.peek? 1
      if isBlank character || isBreak character then some ([], cursor)
      else if inFlow && character == ':' &&
          next.any fun following => isFlowMark following || following == '?' then none
      else if (character == ':' && endsWord next) || (inFlow && isFlowMark character) then
        some ([], cursor)
      else (readWord inFlow bound cursor.skip).map fun (word, after) => (character :: word, after)
    | none => some ([], cursor)

/-- Reads on in a plain scalar after a gap: what belongs to the scalar from the gap on, whether a line has ended
behind it, and the place where the reading stopped. -/
def readPlain (inFlow : Bool) (indent : Int) :
    Nat → Gap → Cursor → Option (List Char × Bool × Cursor)
  | 0, _, _ => none
  | bound + 1, gap, cursor =>
    if cursor.facesDocument || cursor.faces '#' then some ([], gap.broken, cursor)
    else do
      let (word, next) ← readWord inFlow (bound + 1) cursor
      let added := if word.isEmpty then [] else gap.text ++ word
      let passed := if word.isEmpty then gap else {}
      if next.peek?.isNone || !endsWord next.peek? then some (added, passed.broken, next)
      else
        let (wider, after) ← readGap indent (bound + 1) passed next
        if !inFlow && (after.column : Int) < indent then some (added, wider.broken, after)
        else
          (readPlain inFlow indent bound wider after).map fun (more, ended, last) =>
            (added ++ more, ended, last)

/-! ## Quoted scalars -/

/-- The character of a one-letter escape. -/
def shortEscape? (letter : Char) : Option Char :=
  (([('0', 0), ('a', 7), ('b', 8), ('t', 9), ('\t', 9), ('n', 10), ('v', 11), ('f', 12), ('r', 13),
      ('e', 27), (' ', 32), ('"', 34), ('/', 47), ('\\', 92), ('N', 0x85), ('_', 0xA0),
      ('L', 0x2028), ('P', 0x2029)] : List (Char × Nat)).lookup letter).map Char.ofNat

/-- How many hexadecimal digits follow the letter of an escape. -/
def escapeWidth? (letter : Char) : Option Nat :=
  ([('x', 2), ('u', 4), ('U', 8)] : List (Char × Nat)).lookup letter

/-- The character of an escape, after the backslash, and what follows it. -/
def readEscape (cursor : Cursor) : Option (Char × Cursor) := do
  let letter ← cursor.peek?
  match shortEscape? letter, escapeWidth? letter with
  | some character, _ => some (character, cursor.skip)
  | none, some width =>
    let digits ← ((cursor.rest.drop 1).take width).mapM Text.hexValue?
    let point := digits.foldl (fun value digit => value * 16 + digit) 0
    if digits.length = width ∧ point.isValidChar then
      some (Char.ofNat point, cursor.skip (width + 1))
    else none
  | none, none => none

/-- Reads on in a run of a quoted scalar: its text, and whether it ends with an escaped line break. -/
def readQuotedRun (quote : Char) : Nat → Cursor → Option (List Char × Bool × Cursor)
  | 0, _ => none
  | bound + 1, cursor =>
    match cursor.peek? with
    | none => some ([], false, cursor)
    | some character =>
      let further (added : Char) (next : Cursor) : Option (List Char × Bool × Cursor) :=
        (readQuotedRun quote bound next).map fun (text, escaped, after) =>
          (added :: text, escaped, after)
      if isBlank character || isBreak character then some ([], false, cursor)
      else if character == '\'' && quote == '\'' && cursor.peek? 1 == some '\'' then
        further '\'' (cursor.skip 2)
      else if character == quote then some ([], false, cursor)
      else if character == '\\' && quote == '"' then
        if (cursor.peek? 1).any isBreak then some ([], true, (cursor.skip).readBreak.2)
        else
          match readEscape cursor.skip with
          | some (meant, next) => further meant next
          | none => none
      else further character cursor.skip

/-- Reads on in a quoted scalar: the rest of its text, and the place behind the closing quote. -/
def readQuoted (quote : Char) : Nat → Cursor → Option (List Char × Cursor)
  | 0, _ => none
  | bound + 1, cursor =>
    if cursor.facesDocument || cursor.rest.isEmpty then none
    else do
      let (part, escaped, next) ← readQuotedRun quote (bound + 1) cursor
      if next.faces quote then some (part, next.skip)
      else
        let (gap, after) ← readGap (-1) (bound + 1) { broken := escaped } next
        (readQuoted quote bound after).map fun (more, last) => (part ++ gap.text ++ more, last)

/-! ## Block scalars -/

/-- What the first line of a block scalar says: what becomes of the line breaks at its end, and how much it is
indented. -/
structure BlockHeader where
  /-- Whether all line breaks at the end are kept, or none; otherwise the first one is. -/
  keeps : Option Bool := none
  indentation : Option Nat := none

/-- What a sign says on line breaks at the end. -/
def readKeeps (cursor : Cursor) : Option Bool × Cursor :=
  if cursor.faces '+' then (some true, cursor.skip)
  else if cursor.faces '-' then (some false, cursor.skip)
  else (none, cursor)

/-- An indentation, which is a digit other than zero. -/
def readIndentation (cursor : Cursor) : Option (Option Nat × Cursor) :=
  match cursor.peek? with
  | some digit =>
    if !Text.isDigit digit then some (none, cursor)
    else if digit = '0' then none
    else some (some (digit.toNat - 48), cursor.skip)
  | none => some (none, cursor)

/-- The signs of a first line, in either order. -/
def readSigns (cursor : Cursor) : Option (BlockHeader × Cursor) := do
  let (keeps, next) := readKeeps cursor
  let (indentation, after) ← readIndentation next
  if keeps.isSome then some (⟨keeps, indentation⟩, after)
  else if indentation.isSome then
    let (late, last) := readKeeps after
    some (⟨late, indentation⟩, last)
  else some ({}, after)

/-- The first line of a block scalar, after its indicator. -/
def readBlockHeader (cursor : Cursor) : Option (BlockHeader × Cursor) := do
  let (header, next) ← readSigns cursor
  let last := (next.skipRun isBlank).skipComment
  if endsLine last.peek? then some (header, last.readBreak.2) else none

/-- Line breaks before a line of a block scalar, and the greatest column that was met. The indentation is not
known until the first line that is not empty. -/
def readBlockBreaks (indent : Option Nat) :
    Nat → Nat → List Char → Cursor → Option (Nat × List Char × Cursor)
  | 0, _, _, _ => none
  | bound + 1, deepest, breaks, cursor =>
    let blanks := (cursor.run (· == ' ')).length
    let next := cursor.skip ((indent.map fun most => min blanks (most - cursor.column)).getD blanks)
    let reached := max deepest next.column
    if next.faces '\t' && indent.all fun most => next.column < most then none
    else if next.peek?.any isBreak then
      let (text, after) := next.readBreak
      readBlockBreaks indent bound reached (breaks ++ text) after
    else some (reached, breaks, next)

/-- What stands behind the last line of a block scalar that has been read. -/
structure LineEnd where
  /-- The line break at the end of the line. -/
  first : List Char := []
  /-- Line breaks after it. -/
  more : List Char := []
  /-- Whether the line began with a blank. -/
  afterBlank : Bool := false

/-- Reads on in the lines of a block scalar: their text with what stands before them, and what stands behind the
last one. Folding joins two lines that begin with no blank. -/
def readBlockLines (folded : Bool) (indent : Nat) :
    Nat → LineEnd → Cursor → Option (List Char × LineEnd × Cursor)
  | 0, _, _ => none
  | bound + 1, so, cursor =>
    if cursor.column ≠ indent ∨ cursor.rest.isEmpty then some ([], so, cursor)
    else do
      let startsBlank := cursor.peek?.any isBlank
      let joint :=
        if folded && so.first == ['\n'] && !so.afterBlank && !startsBlank then
          if so.more.isEmpty then [' '] else []
        else so.first
      let line := cursor.run fun character => !isBreak character
      let (first, next) := (cursor.skip line.length).readBreak
      let (_, more, after) ← readBlockBreaks (some indent) (bound + 1) 0 [] next
      (readBlockLines folded indent bound ⟨first, more, startsBlank⟩ after).map
        fun (text, found, last) => (joint ++ so.more ++ line ++ text, found, last)

/-- A block scalar inside of an indentation, after its indicator. -/
def readBlock (folded : Bool) (outer : Int) (bound : Nat) (cursor : Cursor) :
    Option (List Char × Cursor) := do
  let (header, next) ← readBlockHeader cursor
  let stated := header.indentation.map fun extra => extra + outer.toNat
  let (deepest, more, start) ← readBlockBreaks stated bound 0 [] next
  let indent := stated.getD (max (max deepest (outer + 1).toNat) 1)
  let (text, found, after) ← readBlockLines folded indent bound { more } start
  let tail :=
    match header.keeps with
    | none => found.first
    | some true => found.first ++ found.more
    | some false => []
  some (text ++ tail, after)

end Yaml
end Testbed
