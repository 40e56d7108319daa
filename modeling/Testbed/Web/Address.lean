import Testbed.Web.Target

namespace Testbed
namespace Web
namespace Address

/-!
Addresses of servers. An address has a scheme, an authority (who is asked) and a target, or only an authority, or
only a target. Of the authority just the characters and the balance of its parts are looked at: there need
be no such host or port.
-/

/-- Whether a character may occur in an authority. -/
def isAuthorityChar (character : Char) : Bool :=
  character.isAlphanum ||
    ['!', '$', '&', '\'', '(', ')', '*', '+', ',', '-', '.', ':', ';', '=', '@', '[', ']', '_',
      '~'].contains character

/-- Whether an authority ends before a character. -/
def endsAuthority (character : Char) : Bool :=
  character == '/' || character == '?' || character == '#'

/-- What has been read of an authority. -/
structure Authority where
  colons : Nat := 0
  opened : Bool := false
  closed : Bool := false
  /-- Whether there are escapes, which only a user or an address in brackets may have. -/
  escaped : Bool := false
  /-- Whether the last character ended a user. -/
  atEnd : Bool := false

/-- Reads a character. -/
def Authority.advance (so : Authority) (character : Char) : Option Authority :=
  let passed : Authority := { so with atEnd := false }
  if character = ':' then
    if so.colons < 8 then some { passed with colons := so.colons + 1 } else none
  else if character = '[' then
    if so.escaped || so.opened then none else some { passed with opened := true }
  else if character = ']' then
    if so.closed || !so.opened then none
    else some { passed with closed := true, colons := 0, escaped := false }
  else if character = '@' then
    some { passed with colons := 0, escaped := false, atEnd := true }
  else if character = '%' then some { passed with escaped := true }
  else if isAuthorityChar character then some passed
  else none

/-- Whether an authority may end. One colon may stand before a port. -/
def Authority.mayEnd (so : Authority) : Bool :=
  so.opened == so.closed && so.colons ≤ 1 && !so.atEnd && !so.escaped

/-- Whether a text is an authority. -/
def isAuthority (text : List Char) : Bool :=
  (text.foldlM Authority.advance {}).any Authority.mayEnd

/-- Whether a character may occur in a scheme. -/
def isSchemeChar (character : Char) : Bool :=
  character.isAlphanum || ['+', '-', '.', '~'].contains character

/-- What follows the scheme and its two slashes, if there is a scheme. It may be empty, and has no more than 64
characters. -/
def afterScheme? (text : List Char) : Option (List Char) :=
  let scheme := text.takeWhile isSchemeChar
  match text.dropWhile isSchemeChar with
  | ':' :: '/' :: '/' :: rest => if scheme.length ≤ 64 then some rest else none
  | _ => none

/-- Whether a text is an address. -/
def isAddress (text : String) : Bool :=
  let characters := text.toList
  if Target.maxLength < text.utf8ByteSize then false
  else if characters = ['/'] ∨ characters = ['*'] then true
  else if characters.head? = some '/' then (Target.read? text).isSome
  else
    match afterScheme? characters with
    | some rest =>
      let authority := rest.takeWhile fun character => !endsAuthority character
      let behind := String.ofList (rest.dropWhile fun character => !endsAuthority character)
      !authority.isEmpty && isAuthority authority && (Target.read? behind).isSome
    | none => !characters.isEmpty && isAuthority characters

end Address
end Web
end Testbed
