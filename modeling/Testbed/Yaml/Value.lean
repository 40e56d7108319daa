import Testbed.Json.Double
import Testbed.Text.Basic
import Testbed.Yaml.Node
import Testbed.Yaml.Token.Lexer

namespace Testbed
namespace Yaml

/-!
What documents say. A plain scalar without a tag can be nothing, a truth value or a number; every other one is a
text, unless its tag says what it has to be. A tag of the document's own is kept with what it stands
before. Aliases stand for the nodes that they name. Limits on nesting and on aliases keep a short text from
saying too much.
-/

/-- A number that is no integer. -/
inductive Floating where
  | finite (negative : Bool) (size : Double)
  | infinite (negative : Bool)
  | undefined
  deriving DecidableEq

/-- What a node says. -/
inductive Value where
  | null
  | bool (value : Bool)
  | integer (value : Int)
  | floating (value : Floating)
  | string (text : String)
  | sequence (items : List Value)
  | mapping (members : List (Value × Value))
  | tagged (tag : String) (value : Value)
  deriving Inhabited

/-! ## Plain scalars -/

/-- Words that say nothing. -/
def isNull (text : String) : Bool :=
  ["null", "Null", "NULL", "~"].contains text

/-- The truth value that a word says. -/
def bool? (text : String) : Option Bool :=
  if ["true", "True", "TRUE"].contains text then some true
  else if ["false", "False", "FALSE"].contains text then some false
  else none

/-- The value of a nonempty run of digits of a base. -/
def digitsOf? (base : Nat) (text : List Char) : Option Nat :=
  if text.isEmpty then none
  else
    text.foldlM
      (fun value character =>
        ((Text.hexValue? character).filter (· < base)).map fun digit => value * base + digit)
      0

/-- Whether digits begin with a zero that does not count, so that they are no number. -/
def isPadded : List Char → Bool
  | '0' :: digit :: rest => (digit :: rest).all Text.isDigit
  | _ => false

/-- A natural number, to the base that its first characters say. -/
def magnitude? (text : List Char) : Option Nat :=
  match text with
  | '0' :: 'x' :: digits => digitsOf? 16 digits
  | '0' :: 'o' :: digits => digitsOf? 8 digits
  | '0' :: 'b' :: digits => digitsOf? 2 digits
  | digits => if isPadded digits then none else digitsOf? 10 digits

/-- The integer that a word says, if it has no more than 128 bits. -/
def integer? (text : List Char) : Option Int :=
  match text with
  | '-' :: digits =>
    ((magnitude? digits).filter (· ≤ Nat.pow 2 127)).map fun magnitude => -(magnitude : Int)
  | '+' :: digits => ((magnitude? digits).filter (· < Nat.pow 2 128)).map Int.ofNat
  | digits => ((magnitude? digits).filter (· < Nat.pow 2 128)).map Int.ofNat

/-- Whether an integer is between the least and the greatest one of 64 bits, with a sign or without. -/
def isShort (value : Int) : Bool :=
  -(Nat.pow 2 63 : Int) ≤ value && value < Nat.pow 2 64

/-- A number that digits stand for, with a point or an exponent or neither. -/
def size? (text : List Char) : Option Double :=
  let whole := text.takeWhile Text.isDigit
  let afterWhole := text.dropWhile Text.isDigit
  let afterPoint := if afterWhole.head? = some '.' then afterWhole.tail else []
  let fraction := afterPoint.takeWhile Text.isDigit
  let behind := if afterWhole.head? = some '.' then afterPoint.dropWhile Text.isDigit else afterWhole
  let exponent? : Option Int :=
    match behind with
    | [] => some 0
    | letter :: signed =>
      if letter != 'e' && letter != 'E' then none
      else
        match signed with
        | '-' :: digits => (Text.digits? digits).map fun value => -(value : Int)
        | '+' :: digits => (Text.digits? digits).map Int.ofNat
        | digits => (Text.digits? digits).map Int.ofNat
  if whole.isEmpty && fraction.isEmpty then none
  else
    exponent?.bind fun exponent =>
      sized (Text.digitsValue (whole ++ fraction)) (exponent - fraction.length)
where
  /-- The number nearest to a natural number times a power of ten. -/
  sized (digits : Nat) (exponent : Int) : Option Double :=
    let length : Int := (Nat.toDigits 10 digits).length
    if digits = 0 ∨ length + exponent < -400 then Double.ofRatio 0 1
    else if 400 < length + exponent then none
    else if 0 ≤ exponent then Double.ofRatio (digits * Nat.pow 10 exponent.toNat) 1
    else Double.ofRatio digits (Nat.pow 10 exponent.natAbs)

/-- The number that a word says, when it says no integer. -/
def floating? (text : List Char) : Option Floating :=
  let word := String.ofList text
  if [".nan", ".NaN", ".NAN"].contains word then some .undefined
  else if [".inf", ".Inf", ".INF", "+.inf", "+.Inf", "+.INF"].contains word then
    some (.infinite false)
  else if ["-.inf", "-.Inf", "-.INF"].contains word then some (.infinite true)
  else
    match text with
    | '-' :: digits => (size? digits).map fun size => .finite true size
    | '+' :: digits => (size? digits).map fun size => .finite false size
    | digits => (size? digits).map fun size => .finite false size

/-- Whether a word is digits that begin with a zero that does not count, after a sign or without one. -/
def isPaddedWord : List Char → Bool
  | '-' :: digits | '+' :: digits => isPadded digits
  | digits => isPadded digits

/-- What a plain scalar says. An integer that is too long for 64 bits says nothing that can be used. -/
def plainValue? (text : String) : Option Value :=
  if text.isEmpty || isNull text then some .null
  else
    match bool? text, integer? text.toList with
    | some value, _ => some (.bool value)
    | none, some value => if isShort value then some (.integer value) else none
    | none, none =>
      if isPaddedWord text.toList then some (.string text)
      else
        match floating? text.toList with
        | some value => some (.floating value)
        | none => some (.string text)

/-! ## Tags -/

/-- The name of a tag of the document's own, which begins with an exclamation mark. -/
def ownTag? (tag : Option String) : Option String :=
  match tag.map String.toList with
  | some ['!'] => some "!"
  | some ('!' :: name) => some (String.ofList name)
  | _ => none

/-- What a scalar says under a tag that is not the document's own. -/
def taggedValue? (tag text : String) : Option Value :=
  if tag = "tag:yaml.org,2002:bool" then (bool? text).map .bool
  else if tag = "tag:yaml.org,2002:int" then
    ((integer? text.toList).filter isShort).map .integer
  else if tag = "tag:yaml.org,2002:float" then (floating? text.toList).map .floating
  else if tag = "tag:yaml.org,2002:null" then if isNull text then some .null else none
  else some (.string text)

/-- What a scalar says. -/
def scalarValue? (tag : Option String) (text : String) (plain : Bool) : Option Value :=
  let said := if plain then plainValue? text else some (.string text)
  match tag, ownTag? tag with
  | none, _ => said
  | _, some own => said.map (.tagged own)
  | some other, none => taggedValue? other text

namespace Value

/-! ## Comparing -/

mutual

/-- Whether two values are the same, whatever the order of their members. -/
def same : Value → Value → Bool
  | null, null => true
  | bool first, bool second => first == second
  | integer first, integer second => first == second
  | floating (.finite negative size), floating (.finite other size') =>
    size == size' && (negative == other || size.significand == 0)
  | floating first, floating second => first == second
  | string first, string second => first == second
  | sequence first, sequence second => sameItems first second
  | mapping first, mapping second => first.length == second.length && sameMembers first second
  | tagged tag first, tagged other second => tag == other && same first second
  | _, _ => false

/-- Whether two lists have the same items. -/
def sameItems : List Value → List Value → Bool
  | [], [] => true
  | first :: rest, second :: others => same first second && sameItems rest others
  | _, _ => false

/-- Whether members are among others. -/
def sameMembers : List (Value × Value) → List (Value × Value) → Bool
  | [], _ => true
  | (name, value) :: rest, others =>
    others.any (fun other => same name other.1 && same value other.2) && sameMembers rest others

end

/-! ## Reading nodes -/

/-- What aliases stand for, and how many of them may be followed. -/
structure Targets where
  nodes : List (Nat × Node)
  limit : Nat

/-- The targets in a document. Of nodes with one number the last one comes first. -/
def Targets.ofDocument (document : Node) : Targets :=
  ⟨document.anchored.reverse, 100 * document.size⟩

/-- The node that a node stands for. An alias counts towards the number of those that have been followed. -/
def follow (targets : Targets) : Node → StateT Nat Option Node
  | .reference anchor => do
    let followed ← get
    set (followed + 1)
    match targets.nodes.lookup anchor with
    | some node => if followed < targets.limit then return node else failure
    | none => failure
  | node => return node

/-- Reads members one by one, none of which may have the name of an earlier one. -/
def readMembers (read : Node → StateT Nat Option Value) :
    List (Value × Value) → List (Node × Node) → StateT Nat Option (List (Value × Value))
  | seen, [] => return seen.reverse
  | seen, (name, value) :: rest => do
    let readName ← read name
    if seen.any fun entry => same entry.1 readName then failure
    else readMembers read ((readName, ← read value) :: seen) rest

/-- A value with a tag before it, if that is the document's own. -/
def underTag (tag : Option String) (value : Value) : Value :=
  match ownTag? tag with
  | some own => tagged own value
  | none => value

/-- What a node of a document says, when sequences and mappings are nested no deeper than allowed. -/
def ofNode (targets : Targets) : Nat → Node → StateT Nat Option Value
  | depth, node => do
    match depth, ← follow targets node with
    | _, .scalar _ tag text plain => scalarValue? tag text plain
    | depth + 1, .sequence _ tag items =>
      return underTag tag (sequence (← items.mapM (ofNode targets depth)))
    | depth + 1, .mapping _ tag members =>
      return underTag tag (mapping (← readMembers (ofNode targets depth) [] members))
    | _, _ => failure

/-- How deep sequences and mappings may be nested. -/
def maxDepth : Nat := 128

/-- What a document says. -/
def ofDocument (document : Node) : Option Value :=
  ((ofNode (.ofDocument document) maxDepth document).run 0).map Prod.fst

/-- What the documents of a text say. A byte order mark at the beginning does not belong to the text. -/
def ofText (text : List Char) : Option (List Value) := do
  let content :=
    match text with
    | first :: rest => if first.toNat = 0xFEFF then rest else text
    | [] => []
  let documents ← Node.ofTokens (← Token.scan content)
  documents.mapM ofDocument

end Value
end Yaml
end Testbed
