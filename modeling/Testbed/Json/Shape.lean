import Testbed.Json.Printer
import Testbed.Json.Raw
import Testbed.Text.Base64
import Testbed.Time.Timestamp

namespace Testbed

/-!
Shapes of documents. A shape says what a document has to look like. Reading a document through a shape gives
what the shape sees of it: unknown members of a record are skipped, whatever they are, and null takes a member
away; required members that are missing stand with an empty value. A member that is given repeatedly is
read every time, and the last time counts.
-/

/-- What a document has to look like. -/
inductive Shape where
  | anything
  | string
  /-- A text that has to be this one. -/
  | exactly (expected : String)
  | flag
  /-- A signed integer of so many bits. -/
  | integer (bits : Nat)
  | natural (bits : Nat)
  | number
  /-- An integer or a text. -/
  | integerOrText
  | instant
  /-- Bytes as base 64 text. -/
  | bytes
  | list (item : Shape)
  | map (value : Shape)
  /-- An object with these members. A member with an empty value is required. -/
  | record (name : String) (members : List (String × Option Json × Shape))
  /-- The first of some shapes that fits. -/
  | either (name : String) (shapes : List Shape)

namespace Shape

/-- What a document is, as messages say it. -/
def describe : RawJson → String
  | .null => "null"
  | .bool true => "boolean " ++ "\x60true\x60"
  | .bool false => "boolean " ++ "\x60false\x60"
  | .number (some (.decimal value)) => "floating point " ++ "\x60" ++ Json.decimalText value ++ "\x60"
  | .number (some value) => "integer " ++ "\x60" ++ Json.atomText value ++ "\x60"
  | .string (some text) => "string " ++ Text.quoted text
  | .array _ => "sequence"
  | .object _ => "map"
  | .number none | .string none => "nothing"

/-- The message that a document is not what was expected. -/
def mismatch (document : RawJson) (expected : String) : String :=
  "invalid type: " ++ describe document ++ ", expected " ++ expected

/-- The message that a document is not one of the values that were expected. -/
def misvalue (document : RawJson) (expected : String) : String :=
  "invalid value: " ++ describe document ++ ", expected " ++ expected

/-- The message that documents are nested too deep. -/
def tooDeep : String := "recursion limit exceeded"

/-- Reads an integer within bounds. -/
def readInteger (low high : Int) (expected : String) (document : RawJson) : Except String Json :=
  match document with
  | .number (some (.integer value)) =>
    if low ≤ value ∧ value ≤ high then .ok (.integer value) else .error (misvalue document expected)
  | other => .error (mismatch other expected)

/-- Reads a text that has to pass a test. -/
def readText (expected : String) (read : String → Except String String) :
    RawJson → Except String Json
  | .string (some text) => (read text).map Json.string
  | other => .error (mismatch other expected)

/-- Reads items one by one. -/
def readItems (read : RawJson → Except String Json) : List RawJson → Except String (List Json)
  | [] => .ok []
  | item :: rest => do
    let first ← read item
    return first :: (← readItems read rest)

/-- Reads members one by one, behind those that have been seen. What is read of a member is skipped, or takes
away what was seen under its name, or stands in its place. -/
def readMembers (read : String → RawJson → Except String (Option (Option Json))) :
    List (String × Json) → List (Option String × RawJson) → Except String (List (String × Json))
  | seen, [] => .ok seen
  | _, (none, _) :: _ => .error (mismatch (.string none) "a name")
  | seen, (some name, value) :: rest => do
    match ← read name value with
    | none => readMembers read seen rest
    | some none => readMembers read (seen.filter fun entry => entry.1 != name) rest
    | some (some value) => readMembers read (Json.insertMember name value seen) rest

/-- Adds the required members that are missing. -/
def fillIn (members : List (String × Option Json × Shape)) (seen : List (String × Json)) :
    List (String × Json) :=
  Json.sortMembers
    ((members.filterMap fun (name, empty, _) => empty.map fun value => (name, value)) ++ seen)

/-- Reads an array or an object, inside of which less nesting is allowed. -/
def inside (depth : Option Nat) (read : Option Nat → Except String α) : Except String α :=
  match RawJson.enter? depth with
  | some inner => read inner
  | none => .error tooDeep

mutual

/-- What a shape sees of a document that is nested no deeper than allowed, or why the document does not have
the shape. -/
def readWithin (depth : Option Nat) : Shape → RawJson → Except String Json
  | anything, document =>
    match document.value? depth with
    | some value => .ok value
    | none => .error (mismatch document "a value")
  | string, document => readText "a string" .ok document
  | exactly expected, document =>
    readText "a string"
      (fun text =>
        if text == expected then .ok text
        else .error (misvalue (.string (some text)) expected))
      document
  | flag, document =>
    match document with
    | .bool value => .ok (.bool value)
    | other => .error (mismatch other "a boolean")
  | integer bits, document =>
    readInteger (-(Nat.pow 2 (bits - 1) : Int)) (Nat.pow 2 (bits - 1) - 1) ("i" ++ toString bits)
      document
  | natural bits, document => readInteger 0 (Nat.pow 2 bits - 1) ("u" ++ toString bits) document
  | number, document =>
    match document with
    | .number (some value) => .ok value
    | other => .error (mismatch other "f64")
  | integerOrText, document =>
    match document with
    | .string (some text) => .ok (.string text)
    | other => readInteger (-(Nat.pow 2 31 : Int)) (Nat.pow 2 31 - 1) "enum IntOrString" other
  | instant, document =>
    readText "an RFC 3339 formatted date and time string"
      (fun text =>
        match Timestamp.parse text with
        | .ok moment => .ok moment.text
        | .error fault => .error fault.text)
      document
  | bytes, document =>
    readText "a byte string"
      (fun text =>
        if (Text.Base64.decode text.toList).isSome then .ok text
        else .error (misvalue (.string (some text)) "base64"))
      document
  | list item, document =>
    match document with
    | .array items =>
      inside depth fun inner => (readItems (item.readWithin inner) items).map Json.array
    | other => .error (mismatch other "a sequence")
  | map value, document =>
    match document with
    | .object members =>
      inside depth fun inner =>
        (readMembers (fun _ entry => (value.readWithin inner entry).map fun seen => some (some seen))
          [] members).map Json.object
    | other => .error (mismatch other "a map")
  | record name fields, document =>
    match document with
    | .object members =>
      inside depth fun inner =>
        (readMembers (readField inner fields) [] members).map fun seen =>
          .object (fillIn fields seen)
    | other => .error (mismatch other name)
  | either name shapes, document => readFirst depth name shapes document

/-- What a record sees of a member: nothing if it has no such field. -/
def readField (depth : Option Nat) :
    List (String × Option Json × Shape) → String → RawJson → Except String (Option (Option Json))
  | [], _, _ => .ok none
  | (name, _, shape) :: rest, member, document =>
    if name = member then
      match shape, document with
      | exactly _, .null => .error (mismatch .null "a string")
      | _, .null => .ok (some none)
      | shape, value => (shape.readWithin depth value).map fun seen => some (some seen)
    else readField depth rest member document

/-- What the first fitting shape sees of a document. -/
def readFirst (depth : Option Nat) (name : String) : List Shape → RawJson → Except String Json
  | [], document => .error (mismatch document name)
  | shape :: rest, document =>
    match shape.readWithin depth document with
    | .ok seen => .ok seen
    | .error _ => readFirst depth name rest document

end

/-- What a shape sees of a document, or why the document does not have the shape. -/
def read (shape : Shape) (document : Json) : Except String Json :=
  shape.readWithin none (.ofJson document.sorted)

/-- What a shape sees of a document that came as text, if the document has the shape. -/
def see (shape : Shape) (document : RawJson) : Option Json :=
  (shape.readWithin RawJson.maxDepth document).toOption

/-- Whether a part of a document that came as text has a shape. -/
def fitsPart (shape : Shape) (document : RawJson) : Bool :=
  (shape.readWithin (some 126) document).isOk

/-- A member that may be missing. -/
def optional (name : String) (shape : Shape) : String × Option Json × Shape :=
  (name, none, shape)

/-- A member that stands with an empty value when it is missing. -/
def required (name : String) (empty : Json) (shape : Shape) : String × Option Json × Shape :=
  (name, some empty, shape)

end Shape
end Testbed
