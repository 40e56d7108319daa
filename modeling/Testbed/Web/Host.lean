import Testbed.Text.Basic

namespace Testbed
namespace Web
namespace Host

/-!
What a server can be called: a name of labels between points, or a number of 32 or of 128 bits. The last label
of a name may be missing, and is more than digits otherwise, so that no name looks like a number.
-/

/-- Whether a text is a label: letters, digits, underscores, and hyphens that do not stand at its ends. -/
def isLabel (label : List Char) : Bool :=
  !label.isEmpty && label.length ≤ 63 && label.head? != some '-' && label.getLast? != some '-' &&
    label.all fun character => character.isAlphanum || character == '_' || character == '-'

/-- Whether a text is a name. -/
def isName (text : List Char) : Bool :=
  let labels := text.splitOn '.'
  let named := if labels.getLast? = some [] then labels.dropLast else labels
  text.length ≤ 253 && !named.isEmpty && named.all isLabel &&
    !(named.getLast?.any fun label => label.all Text.isDigit)

/-- Whether a text is a number below 256 without leading zeros. -/
def isOctet (text : List Char) : Bool :=
  (Text.digits? text).any (· < 256) && text.length ≤ 3 && (text.length = 1 || text.head? != some '0')

/-- Whether a text is a number of 32 bits, as four decimal parts. -/
def isShortNumber (text : List Char) : Bool :=
  let parts := text.splitOn '.'
  parts.length == 4 && parts.all isOctet

/-- Whether a text is 16 bits of a longer number. -/
def isGroup (text : List Char) : Bool :=
  !text.isEmpty && text.length ≤ 4 && text.all fun character => (Text.hexValue? character).isSome

/-- How many groups of 16 bits a text has. At its end a number of 32 bits can stand for two. -/
def groupCount? (shortAtEnd : Bool) (text : List Char) : Option Nat :=
  if text.isEmpty then some 0
  else
    let groups := text.splitOn ':'
    if groups.all isGroup then some groups.length
    else if shortAtEnd && groups.dropLast.all isGroup && groups.getLast?.any isShortNumber then
      some (groups.length + 1)
    else none

/-- Whether a text is a number of 128 bits, of which two colons stand for groups that are left out. -/
def isLongNumber (text : List Char) : Bool :=
  match Text.cutAt [':', ':'] text with
  | none => groupCount? true text == some 8
  | some (before, after) =>
    match groupCount? false before, groupCount? true after with
    | some first, some last => first + last ≤ 7
    | _, _ => false

/-- Whether a server can be called so. -/
def isHost (text : String) : Bool :=
  isName text.toList || isShortNumber text.toList || isLongNumber text.toList

end Host
end Web
end Testbed
