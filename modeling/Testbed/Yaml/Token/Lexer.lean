import Testbed.Yaml.Token

namespace Testbed
namespace Yaml
namespace Token

/-!
From a text to its tokens. Indentation opens and closes blocks. What turns out to be the name of a member only
when its colon is met is marked as such then, in front of the tokens that have been read since. Every step
but the last one consumes a character, so a bound computed from the length of the text never cuts a reading
short.
-/

/-- A token that is the name of a member if a colon follows it on its line. -/
structure Candidate where
  /-- How many tokens come before it. -/
  number : Nat
  start : Cursor
  /-- Whether the block that the token is in can only have names there. -/
  required : Bool

/-- A text that is being read. -/
structure Lexer where
  cursor : Cursor
  /-- More than the characters that are left. -/
  bound : Nat
  /-- The tokens read so far, the latest first. -/
  tokens : List Token := []
  /-- How many those are. -/
  count : Nat := 0
  /-- The column of the innermost block, and those of the blocks around it. -/
  indent : Int := -1
  outer : List Int := []
  /-- What may be a name, inside of the innermost brackets and of all those around them. -/
  candidate : Option Candidate := none
  enclosing : List (Option Candidate) := []
  /-- Whether the name of a member may come next. -/
  keyAllowed : Bool := true

namespace Lexer

/-- Whether a place is inside of brackets. -/
def inFlow (lexer : Lexer) : Bool :=
  !lexer.enclosing.isEmpty

/-- Adds a token. -/
def add (lexer : Lexer) (token : Token) : Lexer :=
  { lexer with tokens := token :: lexer.tokens, count := lexer.count + 1 }

/-- Puts a token behind so many others. -/
def insert (lexer : Lexer) (number : Nat) (token : Token) : Lexer :=
  { lexer with
    tokens := lexer.tokens.insertIdx (lexer.count - number) token
    count := lexer.count + 1 }

/-- Adds the token of so many characters. -/
def take (lexer : Lexer) (length : Nat) (token : Token) : Lexer :=
  { lexer.add token with cursor := lexer.cursor.skip length }

/-- Adds a token that has been read up to a place. -/
def addRead (lexer : Lexer) (read : Token × Cursor) : Lexer :=
  { lexer.add read.1 with cursor := read.2 }

def allowKey (lexer : Lexer) (allowed : Bool) : Lexer :=
  { lexer with keyAllowed := allowed }

/-! ## Blocks -/

/-- Closes the blocks that are indented deeper than a column. -/
def closeBlocks (lexer : Lexer) (column : Int) : Lexer :=
  if lexer.inFlow then lexer else close (lexer.outer.length + 1) lexer
where
  close : Nat → Lexer → Lexer
    | 0, lexer => lexer
    | bound + 1, lexer =>
      if lexer.indent ≤ column then lexer
      else
        close bound
          { lexer.add .blockEnd with
            indent := lexer.outer.head?.getD (-1)
            outer := lexer.outer.tail }

/-- Whether a block begins at a column. -/
def opensAt (lexer : Lexer) (column : Nat) : Bool :=
  !lexer.inFlow && lexer.indent < (column : Int)

/-- Opens a block at a column if none is open there. -/
def openBlock (lexer : Lexer) (column : Nat) (token : Token) : Lexer :=
  if lexer.opensAt column then
    { lexer.add token with indent := column, outer := lexer.indent :: lexer.outer }
  else lexer

/-! ## Names of members -/

/-- No longer takes a token for a name, unless it has to be one. -/
def dropCandidate (lexer : Lexer) : Option Lexer :=
  if lexer.candidate.any Candidate.required then none else some { lexer with candidate := none }

/-- Takes the next token for a name, if one may come. -/
def saveCandidate (lexer : Lexer) : Option Lexer :=
  if lexer.keyAllowed then
    (lexer.dropCandidate).map fun ready =>
      { ready with
        candidate := some
          { number := lexer.count
            start := lexer.cursor
            required := !lexer.inFlow && lexer.indent == (lexer.cursor.column : Int) } }
  else some lexer

/-- Whether a token can no longer be a name: its line has ended, or it is too long. -/
def isStale (cursor : Cursor) (candidate : Candidate) : Bool :=
  candidate.start.line < cursor.line || candidate.start.index + 1024 < cursor.index

/-- Drops what can no longer be a name. -/
def dropStale (lexer : Lexer) : Option Lexer :=
  let stale (candidate : Option Candidate) : Bool := candidate.any (isStale lexer.cursor)
  let fresh (candidate : Option Candidate) : Option Candidate :=
    candidate.filter fun found => !isStale lexer.cursor found
  let missing (candidate : Option Candidate) : Bool :=
    stale candidate && candidate.any Candidate.required
  if (lexer.candidate :: lexer.enclosing).any missing then none
  else
    some { lexer with
      candidate := fresh lexer.candidate
      enclosing := lexer.enclosing.map fresh }

/-- Marks a token as a name, which may open a block. -/
def markName (lexer : Lexer) (candidate : Candidate) : Lexer :=
  let named : Lexer := { lexer with candidate := none, keyAllowed := false }
  let marked := named.insert candidate.number .key
  if lexer.opensAt candidate.start.column then
    { marked.insert candidate.number .blockMappingStart with
      indent := candidate.start.column
      outer := lexer.indent :: lexer.outer }
  else marked

/-! ## Reading one token -/

/-- Skips blanks, comments and ends of lines. A tab is no indentation. -/
def skipToToken : Nat → Lexer → Lexer
  | 0, lexer => lexer
  | bound + 1, lexer =>
    let start :=
      if lexer.cursor.column == 0 && lexer.cursor.peek?.any (·.toNat == 0xFEFF) then
        lexer.cursor.skip
      else lexer.cursor
    let isGap (character : Char) : Bool :=
      character == ' ' || (character == '\t' && (lexer.inFlow || !lexer.keyAllowed))
    let next := (start.skipRun isGap).skipComment
    if next.peek?.any isBreak then
      skipToToken bound
        { lexer with cursor := next.readBreak.2, keyAllowed := lexer.keyAllowed || !lexer.inFlow }
    else { lexer with cursor := next }

/-- A mark between documents, or a directive. All blocks end before it. -/
def readBoundary (lexer : Lexer) : Option Lexer := do
  let closed ← (lexer.closeBlocks (-1)).dropCandidate
  let ready := closed.allowKey false
  if lexer.cursor.faces '%' then (readDirective lexer.bound ready.cursor).map ready.addRead
  else if lexer.cursor.faces '-' then some (ready.take 3 .documentStart)
  else some (ready.take 3 .documentEnd)

/-- An opening bracket. -/
def openFlow (token : Token) (lexer : Lexer) : Option Lexer :=
  (lexer.saveCandidate).map fun ready =>
    { (ready.allowKey true).take 1 token with
      candidate := none
      enclosing := ready.candidate :: ready.enclosing }

/-- A closing bracket. -/
def closeFlow (token : Token) (lexer : Lexer) : Option Lexer :=
  (lexer.dropCandidate).map fun ready =>
    { (ready.allowKey false).take 1 token with
      candidate := ready.enclosing.head?.getD none
      enclosing := ready.enclosing.tail }

/-- A comma in brackets. -/
def readFlowEntry (lexer : Lexer) : Option Lexer :=
  (lexer.dropCandidate).map fun ready => (ready.allowKey true).take 1 .flowEntry

/-- The indicator of an item of a block. -/
def readBlockEntry (lexer : Lexer) : Option Lexer :=
  if !lexer.inFlow && !lexer.keyAllowed then none
  else
    ((lexer.openBlock lexer.cursor.column .blockSequenceStart).dropCandidate).map fun ready =>
      (ready.allowKey true).take 1 .blockEntry

/-- The indicator of a name. -/
def readKey (lexer : Lexer) : Option Lexer :=
  if !lexer.inFlow && !lexer.keyAllowed then none
  else
    ((lexer.openBlock lexer.cursor.column .blockMappingStart).dropCandidate).map fun ready =>
      (ready.allowKey (!lexer.inFlow)).take 1 .key

/-- The indicator of a value, which may make a name of what stands before it. -/
def readValue (lexer : Lexer) : Option Lexer :=
  match lexer.candidate with
  | some candidate => some ((lexer.markName candidate).take 1 .value)
  | none =>
    if !lexer.inFlow && !lexer.keyAllowed then none
    else
      let ready := lexer.openBlock lexer.cursor.column .blockMappingStart
      some ((ready.allowKey (!lexer.inFlow)).take 1 .value)

/-- A token that may be or begin a name, given what reads it. -/
def readNode (read : Cursor → Option (Token × Cursor)) (lexer : Lexer) : Option Lexer := do
  let ready ← lexer.saveCandidate
  let token ← read lexer.cursor
  some ((ready.allowKey false).addRead token)

/-- A block scalar, after its indicator. -/
def readBlockScalar (folded : Bool) (lexer : Lexer) : Option Lexer := do
  let ready ← lexer.dropCandidate
  let (text, next) ← readBlock folded lexer.indent lexer.bound lexer.cursor.skip
  some ((ready.allowKey true).addRead (.scalar (String.ofList text) false, next))

/-- A scalar in quotes. -/
def readQuotedScalar (quote : Char) (lexer : Lexer) : Option Lexer :=
  lexer.readNode fun cursor =>
    (readQuoted quote lexer.bound cursor.skip).map fun (text, next) =>
      (.scalar (String.ofList text) false, next)

/-- A plain scalar. A name may follow if it has reached the end of its line. -/
def readPlainScalar (lexer : Lexer) : Option Lexer := do
  let ready ← lexer.saveCandidate
  let (text, ended, next) ←
    readPlain lexer.inFlow (lexer.indent + 1) lexer.bound {} lexer.cursor
  some ((ready.allowKey ended).addRead (.scalar (String.ofList text) true, next))

/-- Whether a plain scalar begins at a place that has no other token. -/
def startsPlain (lexer : Lexer) (character : Char) : Bool :=
  let next := lexer.cursor.peek? 1
  !(isBlank character || isBreak character ||
      ['-', '?', ':', ',', '[', ']', '\x7b', '\x7d', '#', '&', '*', '!', '|', '>', '\'', '"', '%', '@',
        '\x60'].contains character) ||
    (character == '-' && !next.any isBlank) ||
    (!lexer.inFlow && (character == '?' || character == ':') && !endsWord next)

/-- Reads the token that begins with a character. -/
def readToken (lexer : Lexer) (character : Char) : Option Lexer :=
  let ends := endsWord (lexer.cursor.peek? 1)
  if lexer.cursor.facesDocument || (lexer.cursor.column == 0 && character == '%') then
    lexer.readBoundary
  else if character == '[' then lexer.openFlow .flowSequenceStart
  else if character == '\x7b' then lexer.openFlow .flowMappingStart
  else if character == ']' then lexer.closeFlow .flowSequenceEnd
  else if character == '\x7d' then lexer.closeFlow .flowMappingEnd
  else if character == ',' then lexer.readFlowEntry
  else if character == '-' && ends then lexer.readBlockEntry
  else if character == '?' && (lexer.inFlow || ends) then lexer.readKey
  else if character == ':' && (lexer.inFlow || ends) then lexer.readValue
  else if character == '*' then
    lexer.readNode fun cursor => (readName cursor.skip).map fun (name, next) => (.reference name, next)
  else if character == '&' then
    lexer.readNode fun cursor => (readName cursor.skip).map fun (name, next) => (.anchor name, next)
  else if character == '!' then lexer.readNode (readTag lexer.inFlow lexer.bound)
  else if character == '|' && !lexer.inFlow then lexer.readBlockScalar false
  else if character == '>' && !lexer.inFlow then lexer.readBlockScalar true
  else if character == '\'' || character == '"' then lexer.readQuotedScalar character
  else if lexer.startsPlain character then lexer.readPlainScalar
  else none

/-- The end of the text, where all blocks end. -/
def finish (lexer : Lexer) : Option Lexer :=
  (lexer.closeBlocks (-1)).dropCandidate

/-- Reads on to the end of the text. -/
def run : Nat → Lexer → Option Lexer
  | 0, _ => none
  | bound + 1, lexer => do
    let ready ← (skipToToken lexer.bound lexer).dropStale
    let level := ready.closeBlocks ready.cursor.column
    match level.cursor.peek? with
    | none => level.finish
    | some character => run bound (← level.readToken character)

end Lexer

/-- The tokens of a text. -/
def scan (text : List Char) : Option (List Token) :=
  if text.all isAllowed then
    (Lexer.run (text.length + 1) { cursor := { rest := text }, bound := text.length + 1 }).map
      fun lexer => lexer.tokens.reverse
  else none

end Token
end Yaml
end Testbed
