import Testbed.Web.Form

namespace Testbed
namespace Web

/-!
Targets of requests. The text of a target is a path, which a question mark separates from parameters and
a number sign from a part that is not sent. What is inserted into the text unescaped can therefore
end the path early. Characters that may not stand where they stand make the text no target.

Which characters may stand where is not told by the standard but by the `http` library, version 1.3 and
later, through which the client sends: it lets everything beyond ASCII stand, and of ASCII also some
characters that the standard wants to be escaped.
-/

/-- What a request is about. -/
structure Target where
  path : String
  /-- Parameters in the order of their names, and those of one name in the order of the text. -/
  parameters : List (String × String)
  deriving DecidableEq

namespace Target

/-- How many bytes a target may have. -/
def maxLength : Nat := 65534

/-- Whether a character may stand in a path. Of ASCII the library refuses blanks, control characters (DEL
is one), angle brackets and the grave accent; a question mark or a number sign ends the path. Braces and
quotation marks stand although they should be escaped. -/
def isPathChar (character : Char) : Bool :=
  32 < character.toNat && character.toNat != 127 && character != '#' && character != '<' &&
    character != '>' && character != '?' && character.toNat != 96

/-- Whether a character may stand among parameters. Of ASCII the library refuses blanks, control characters
(DEL is one), angle brackets and the quotation mark; a number sign ends the parameters. Unlike in a path,
question marks and grave accents stand. -/
def isQueryChar (character : Char) : Bool :=
  32 < character.toNat && character.toNat != 127 && character != '"' && character != '#' &&
    character != '<' && character != '>'

/-- Whether a character belongs to the path of a text. -/
def staysInPath (character : Char) : Bool :=
  character != '?' && character != '#'

/-- Puts a parameter behind those whose names do not come after its own. -/
def insert (parameter : String × String) : List (String × String) → List (String × String)
  | [] => [parameter]
  | first :: rest =>
    if parameter.1 < first.1 then parameter :: first :: rest
    else first :: insert parameter rest

/-- Parameters in the order of their names. -/
def inOrder (parameters : List (String × String)) : List (String × String) :=
  parameters.foldl (fun sorted parameter => insert parameter sorted) []

/-- The target that a text stands for. -/
def read? (text : String) : Option Target :=
  let path := text.toList.takeWhile staysInPath
  if maxLength < text.utf8ByteSize || !path.all isPathChar then none
  else
    match text.toList.dropWhile staysInPath with
    | '?' :: rest =>
      let query := rest.takeWhile (· != '#')
      if query.all isQueryChar then some ⟨String.ofList path, inOrder (Form.read query)⟩ else none
    | _ => some ⟨String.ofList path, []⟩

/-- The text of a target that has parameters. -/
def question (path : String) (parameters : List (String × String)) : String :=
  path ++ "?" ++ String.ofList (parameters.flatMap Form.append)

end Target
end Web
end Testbed
