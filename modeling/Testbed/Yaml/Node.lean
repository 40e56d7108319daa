import Testbed.Yaml.Token

namespace Testbed
namespace Yaml

/-!
Documents as trees. Blocks and brackets give the same sequences and mappings; an empty place is an empty plain
scalar. Anchors are known by numbers, which a name takes on when it is met: the number of the names that
are known by then. A name that is met again therefore shares the number of the next new one, and of
nodes with one number the last counts. Reading nests no more than two calls for each token, so a bound
computed from their number never cuts it short.
-/

/-- A part of a document. -/
inductive Node where
  | reference (anchor : Nat)
  | scalar (anchor : Option Nat) (tag : Option String) (text : String) (plain : Bool)
  | sequence (anchor : Option Nat) (tag : Option String) (items : List Node)
  | mapping (anchor : Option Nat) (tag : Option String) (members : List (Node × Node))
  deriving Inhabited

namespace Node

/-- An empty place. -/
def empty : Node := scalar none none "" true

mutual

/-- How much a node counts towards the size of a document: those with brackets for both of them. -/
def size : Node → Nat
  | reference _ | scalar .. => 1
  | sequence _ _ items => 2 + itemSize items
  | mapping _ _ members => 2 + memberSize members

/-- How much items count. -/
def itemSize : List Node → Nat
  | [] => 0
  | item :: rest => size item + itemSize rest

/-- How much members count. -/
def memberSize : List (Node × Node) → Nat
  | [] => 0
  | (name, value) :: rest => size name + size value + memberSize rest

end

/-- A node under its anchor, if it has one. -/
def underAnchor (anchor : Option Nat) (node : Node) : List (Nat × Node) :=
  (anchor.map fun number => (number, node)).toList

mutual

/-- The nodes with anchors, in the order in which they begin. -/
def anchored : Node → List (Nat × Node)
  | reference _ => []
  | scalar anchor tag text plain => underAnchor anchor (scalar anchor tag text plain)
  | sequence anchor tag items =>
    underAnchor anchor (sequence anchor tag items) ++ anchoredItems items
  | mapping anchor tag members =>
    underAnchor anchor (mapping anchor tag members) ++ anchoredMembers members

/-- The nodes with anchors among items. -/
def anchoredItems : List Node → List (Nat × Node)
  | [] => []
  | item :: rest => anchored item ++ anchoredItems rest

/-- The nodes with anchors among members. -/
def anchoredMembers : List (Node × Node) → List (Nat × Node)
  | [] => []
  | (name, value) :: rest => anchored name ++ anchored value ++ anchoredMembers rest

end

/-! ## Reading tokens -/

/-- What is known while a document is read. -/
structure Reading where
  /-- The tokens to come. -/
  rest : List Token
  /-- What handles of tags stand for. -/
  handles : List (String × String)
  /-- The numbers of anchors. -/
  names : List (String × Nat) := []

/-- A part of a reading. -/
abbrev Read := StateT Reading Option

/-- The token that comes next. -/
def peek : Read (Option Token) := do
  return (← get).rest.head?

def skip : Read Unit :=
  modify fun reading => { reading with rest := reading.rest.tail }

/-- Skips a token if it comes next. -/
def accept (token : Token) : Read Bool := do
  if (← peek) = some token then
    skip
    return true
  else return false

/-- Skips a token that has to come next. -/
def expect (token : Token) : Read Unit := do
  if !(← accept token) then failure

/-- Whether one of some tokens comes next. -/
def facesOne (tokens : List Token) : Read Bool := do
  return (← peek).any tokens.contains

/-- Gives a name to the node that begins. -/
def bindName (name : String) : Read Nat := do
  let reading ← get
  let number := reading.names.length
  let others := reading.names.filter fun entry => entry.1 != name
  set { reading with names := (name, number) :: others }
  return number

/-- The tag that a handle and a suffix stand for. -/
def resolveTag (handle suffix : String) : Read String := do
  if handle.isEmpty then return suffix
  else
    match (← get).handles.lookup handle with
    | some expansion => return expansion ++ suffix
    | none => failure

/-- An anchor, if one comes next. -/
def readAnchor : Read (Option String) := do
  match ← peek with
  | some (.anchor name) =>
    skip
    return some name
  | _ => return none

/-- A tag, if one comes next. -/
def readTag : Read (Option String) := do
  match ← peek with
  | some (.tag handle suffix) =>
    skip
    return some (← resolveTag handle suffix)
  | _ => return none

/-- An anchor and a tag, in either order. -/
def readProperties : Read (Option String × Option String) := do
  let first ← readAnchor
  let tag ← readTag
  let anchor ← if first.isSome then pure first else readAnchor
  return (anchor, tag)

/-- Whether a token ends an empty place among the members of a block. -/
def endsMember : List Token := [.key, .value, .blockEnd]

/-- Whether a node begins with a token, which may also be preceded by an anchor or a tag. -/
def beginsNode (indentless : Bool) : Option Token → Bool
  | some (.scalar ..) | some .blockSequenceStart | some .blockMappingStart
  | some .flowSequenceStart | some .flowMappingStart => true
  | some .blockEntry => indentless
  | _ => false

mutual

/-- A node. Items of a sequence that is the value of a member need not be indented. -/
def read (indentless : Bool) : Nat → Read Node
  | 0 => failure
  | bound + 1 => do
    match ← peek with
    | some (.reference name) =>
      skip
      match (← get).names.lookup name with
      | some number => return reference number
      | none => failure
    | _ =>
      let (name, tag) ← readProperties
      let next ← peek
      if !beginsNode indentless next && name.isNone && tag.isNone then failure
      let anchor ← name.mapM bindName
      match next with
      | some (.scalar text plain) =>
        skip
        return scalar anchor (tag.filter (· != "!")) text plain
      | some .blockEntry =>
        if indentless then return sequence anchor tag (← readIndentless bound)
        else return scalar anchor tag "" true
      | some .blockSequenceStart =>
        skip
        return sequence anchor tag (← readBlockItems bound)
      | some .blockMappingStart =>
        skip
        return mapping anchor tag (← readBlockMembers bound)
      | some .flowSequenceStart =>
        skip
        return sequence anchor tag (← readFlowItems true bound)
      | some .flowMappingStart =>
        skip
        return mapping anchor tag (← readFlowMembers true bound)
      | _ => return scalar anchor tag "" true

/-- A node, or an empty place before certain tokens. -/
def readUnless (ends : List Token) (indentless : Bool) : Nat → Read Node
  | 0 => failure
  | bound + 1 => do
    if ← facesOne ends then return empty else read indentless bound

/-- The items of a block. -/
def readBlockItems : Nat → Read (List Node)
  | 0 => failure
  | bound + 1 => do
    if ← accept .blockEntry then
      let item ← readUnless [.blockEntry, .blockEnd] false bound
      return item :: (← readBlockItems bound)
    else
      expect .blockEnd
      return []

/-- The items of a sequence that is not indented. -/
def readIndentless : Nat → Read (List Node)
  | 0 => failure
  | bound + 1 => do
    if ← accept .blockEntry then
      let item ← readUnless (.blockEntry :: endsMember) false bound
      return item :: (← readIndentless bound)
    else return []

/-- The members of a block. -/
def readBlockMembers : Nat → Read (List (Node × Node))
  | 0 => failure
  | bound + 1 => do
    if ← accept .key then
      let name ← readUnless endsMember true bound
      let value ←
        if ← accept .value then readUnless endsMember true bound else pure empty
      return (name, value) :: (← readBlockMembers bound)
    else
      expect .blockEnd
      return []

/-- The items of a sequence in brackets, with the comma before them unless they are the first. -/
def readFlowItems (first : Bool) : Nat → Read (List Node)
  | 0 => failure
  | bound + 1 => do
    if ← accept .flowSequenceEnd then return []
    else
      if !first then expect .flowEntry
      if ← accept .key then
        let item ← readPair bound
        return item :: (← readFlowItems false bound)
      else if ← accept .flowSequenceEnd then return []
      else
        let item ← read false bound
        return item :: (← readFlowItems false bound)

/-- A mapping of one member that is an item in brackets. A token in the place of its name is skipped. -/
def readPair : Nat → Read Node
  | 0 => failure
  | bound + 1 => do
    let name ←
      if ← facesOne [.value, .flowEntry, .flowSequenceEnd] then
        skip
        pure empty
      else read false bound
    let value ←
      if ← accept .value then readUnless [.flowEntry, .flowSequenceEnd] false bound
      else pure empty
    return mapping none none [(name, value)]

/-- The members of a mapping in braces, with the comma before them unless they are the first. -/
def readFlowMembers (first : Bool) : Nat → Read (List (Node × Node))
  | 0 => failure
  | bound + 1 => do
    if ← accept .flowMappingEnd then return []
    else
      if !first then expect .flowEntry
      if ← accept .key then
        let name ← readUnless [.value, .flowEntry, .flowMappingEnd] false bound
        let value ←
          if ← accept .value then readUnless [.flowEntry, .flowMappingEnd] false bound
          else pure empty
        return (name, value) :: (← readFlowMembers false bound)
      else if ← accept .flowMappingEnd then return []
      else
        let name ← read false bound
        return (name, empty) :: (← readFlowMembers false bound)

end

/-! ## Documents -/

/-- The handles that every document knows. -/
def standardHandles : List (String × String) :=
  [("!", "!"), ("!!", "tag:yaml.org,2002:")]

/-- The directives before a document: whether its version is given, and what handles stand for. Neither may be
said twice. -/
def readDirectives (version : Bool) (handles : List (String × String)) :
    List Token → Option (List (String × String) × List Token)
  | .versionDirective :: rest => if version then none else readDirectives true handles rest
  | .tagDirective handle expansion :: rest =>
    if (handles.lookup handle).isSome then none
    else readDirectives version (handles ++ [(handle, expansion)]) rest
  | rest => some (handles, rest)

/-- A document after its beginning, and the tokens behind it. -/
def readContent (explicit : Bool) (handles : List (String × String)) (tokens : List Token) :
    Option (Node × List Token) := do
  let isBoundary : Token → Bool
    | .versionDirective | .tagDirective .. | .documentStart | .documentEnd => true
    | _ => false
  if explicit && tokens.head?.all isBoundary then some (empty, tokens)
  else
    let (document, reading) ←
      (read false (2 * tokens.length + 2)).run { rest := tokens, handles := handles ++ standardHandles }
    some (document, reading.rest)

/-- The documents of a text. The first one needs no mark at its beginning, nor does any at its end. -/
def readDocuments : Nat → Bool → List Token → Option (List Node)
  | 0, _, _ => none
  | bound + 1, first, tokens => do
    let start := if first then tokens else tokens.dropWhile (· = .documentEnd)
    if start.isEmpty then some []
    else
      let (handles, next) ← readDirectives false [] start
      let explicit := next.head? = some .documentStart
      if !explicit && !(first && next.length = start.length) then none
      else
        let (document, rest) ← readContent explicit handles (if explicit then next.tail else next)
        let behind := if rest.head? = some .documentEnd then rest.tail else rest
        let others ← readDocuments bound false behind
        some (document :: others)

/-- The documents of a list of tokens. -/
def ofTokens (tokens : List Token) : Option (List Node) :=
  readDocuments (tokens.length + 2) true tokens

end Node
end Yaml
end Testbed
