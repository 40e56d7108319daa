import Testbed.Text.Base64
import Testbed.Text.Basic

namespace Testbed
namespace Text

/-!
Bytes as text between two lines that say what they are. Text around such blocks is ignored, and so is a block
that does not end.
-/

/-- A block with what it says it holds. -/
structure PemBlock where
  label : String
  bytes : List UInt8

namespace Pem

/-- A block as it is written. -/
structure Written where
  label : List Char
  body : List Char
  /-- What the line at the end says. -/
  closing : List Char

/-- The first block that ends, and what follows it. -/
def first? (text : List Char) : Option (Written × List Char) := do
  let (_, afterBegin) ← cutAt "-----BEGIN ".toList text
  let (label, afterLabel) ← cutAt "-----".toList afterBegin
  let isGap (character : Char) : Bool := [' ', '\t', '\n', '\r'].contains character
  let (body, afterBody) ← cutAt "-----END ".toList (afterLabel.dropWhile isGap)
  let (closing, rest) ← cutAt "-----".toList afterBody
  some (⟨label, body, closing⟩, rest)

/-- All blocks that end. Each is shorter than the text, so a bound computed from its length never leaves one
out. -/
def all : Nat → List Char → List Written
  | 0, _ => []
  | bound + 1, text =>
    match first? text with
    | some (block, rest) => block :: all bound rest
    | none => []

/-- The lines of a text, without blanks and returns at their ends. -/
def lines (text : List Char) : List (List Char) :=
  (text.splitOn '\n').map fun line => dropTrailing isBlank line

/-- Headers and data of a block, which an empty line separates. -/
def parts (body : List Char) : List Char × List Char :=
  match cutAt ['\n', '\n'] body with
  | some (headers, data) => (headers, data)
  | none => (cutAt ['\r', '\n', '\r', '\n'] body).getD ([], body)

/-- The block that has been written, if its two lines agree and everything between them is in order. -/
def Written.block? (written : Written) : Option PemBlock :=
  let (headers, data) := parts written.body
  if written.label.isEmpty || written.label != written.closing ||
      !(headers.isEmpty || (lines headers).all (·.contains ':')) then none
  else
    (Base64.decode (lines data).flatten).map fun bytes => ⟨String.ofList written.label, bytes⟩

end Pem

/-- The blocks of a text. -/
def pemBlocks? (text : String) : Option (List PemBlock) :=
  (Pem.all text.length text.toList).mapM Pem.Written.block?

end Text
end Testbed
