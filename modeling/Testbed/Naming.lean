import Testbed.Error
import Testbed.Text.Basic
import Testbed.Text.Lowercase

namespace Testbed
namespace Naming

/-!
Names in the cluster. A human name is folded into letters, digits and single dashes, short enough that
a suffix of eight digits and the names derived from the result stay within the 63 characters of a
label. `labelValue` folds a human name more gently, for use as the value of a label.
-/

/-- The greatest length of a generated name. -/
def maxLength : Nat := 48

/-- The number of digits that make a generated name unique. -/
def suffixLength : Nat := 8

/-- The greatest length of a label's value. -/
def maxLabelLength : Nat := 63

/-- Letters and digits of ASCII. -/
def isAlphanumeric (character : Char) : Bool :=
  ('a' ≤ character && character ≤ 'z') || ('A' ≤ character && character ≤ 'Z') ||
    ('0' ≤ character && character ≤ '9')

/-- Drops every dash after a dash, and also a first one if `afterDash` says that one came before. -/
def collapseDashes (afterDash : Bool) : List Char → List Char
  | [] => []
  | character :: rest =>
    if character = '-' then
      if afterDash then collapseDashes true rest else '-' :: collapseDashes true rest
    else character :: collapseDashes false rest

/-- The characters of a human name that a cluster name can carry. -/
def sanitizeChars (name : List Char) : List Char :=
  let folded := (name.flatMap Text.lowercase).map fun character =>
    if isAlphanumeric character then character else '-'
  Text.dropTrailing (· == '-') ((collapseDashes true folded).take (maxLength - suffixLength - 1))

/-- The part of a cluster name that comes from the human name. -/
def sanitize (name : String) : String :=
  String.ofList (sanitizeChars name.toList)

/-- A cluster name from a human name and the digits that make it unique. -/
def generate (suffix : String) (name : String) : Except Error String :=
  let base := sanitize name
  if base.isEmpty then .error (.validation name .emptyName)
  else .ok (base ++ "-" ++ suffix)

/-- The characters of a human name that a label's value can carry. -/
def labelChars (name : List Char) : List Char :=
  let folded := name.map fun character =>
    if isAlphanumeric character || character == '_' || character == '.' then character else '-'
  let shortened := (collapseDashes false folded).take maxLabelLength
  Text.dropTrailing (fun character => !isAlphanumeric character)
    (shortened.dropWhile fun character => !isAlphanumeric character)

/-- A human name as the value of a label. It may be empty. -/
def labelValue (name : String) : String :=
  String.ofList (labelChars name.toList)

/-- The claim behind the volume of an instance, and the volume itself. -/
def volume (clusterName : String) : String :=
  clusterName ++ "-volume"

/-- The config map that carries the files of an instance, and its volume. -/
def config (clusterName : String) : String :=
  clusterName ++ "-config"

/-- The container that hands a volume to its owner. -/
def ownerContainer (clusterName : String) : String :=
  clusterName ++ "-init"

/-- Where the proxy exposes a port of an instance. -/
def hostPrefix (clusterName : String) (port : UInt16) : String :=
  clusterName ++ "-" ++ toString port

end Naming
end Testbed
