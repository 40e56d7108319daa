import Testbed.LogFilter.Pattern
import Testbed.Text.Alphanumeric
import Testbed.Text.Basic

namespace Testbed
namespace LogFilter

/-!
Directives of filters: a level, a target, or a target with a level; the target may go with a span in brackets,
and the span with fields in braces. A directive is read one character at a time. Places are counted
without the blanks around a directive, but what stands between two places is taken from the directive as
it was written.
-/

/-- The names of levels, in lower case. -/
def levels : List (List Char) :=
  ["off", "error", "warn", "info", "debug", "trace"].map String.toList

/-- A text with its ASCII letters in lower case. -/
def lowered (text : List Char) : List Char :=
  text.map fun character =>
    if 'A' ≤ character ∧ character ≤ 'Z' then Char.ofNat (character.toNat + 32) else character

/-- Whether a text names a level, in letters of either case, or is the number of one. -/
def isLevel (text : List Char) : Bool :=
  (Text.natural? 6 text).isSome || levels.contains (lowered text)

/-- Whether a text is a finite number without a sign, perhaps with a fraction or an exponent. -/
def isFinite (text : List Char) : Bool :=
  let fraction := text.dropWhile Text.isDigit
  let afterPoint := if fraction.head? = some '.' then fraction.drop 1 else fraction
  let exponent := afterPoint.dropWhile Text.isDigit
  let digits := text.takeWhile Text.isDigit ++
    (if fraction.head? = some '.' then afterPoint.takeWhile Text.isDigit else [])
  !digits.isEmpty &&
    match if fraction.head? = some '.' then exponent else fraction with
    | [] => true
    | letter :: rest =>
      (letter == 'e' || letter == 'E') &&
        (Text.digits? (match rest with
          | '+' :: more | '-' :: more => more
          | more => more)).isSome

/-- Whether a text is a number without a sign. -/
def isNumber (text : List Char) : Bool :=
  isFinite text || (["inf", "infinity", "nan"].map String.toList).contains (lowered text)

/-- Whether a text stands for a value that fields can be compared with: a number with a plus sign, or a
pattern, which every other value is too. -/
def isFieldValue : List Char → Bool
  | '+' :: rest => isNumber rest
  | text => isPattern text

/-- Whether a text is a field, with or without a value. -/
def isField (text : List Char) : Bool :=
  !text.isEmpty &&
    match text.dropWhile (· != '=') with
    | _ :: value => isFieldValue (value.takeWhile (· != '='))
    | [] => true

/-- What has been read of a directive. Numbers are the places where texts begin that matter. -/
inductive Stage where
  | start
  | target
  | span
  | field (first : Nat)
  | fields
  | afterSpan
  | level (first : Nat)
  deriving DecidableEq

/-- Whether a character can begin a target or a level. -/
def isDirectiveStart (character : Char) : Bool :=
  character == '-' || character == ':' || character == '_' || Text.isAlphanumeric character

/-- Reads the character at a place. -/
def Stage.advance (written : List Char) (place : Nat) (character : Char) : Stage → Option Stage
  | start =>
    if character = '[' then some span
    else if isDirectiveStart character then some target
    else none
  | target =>
    if character = '=' then some (level (place + 1))
    else if character = '[' then some span
    else some target
  | span =>
    if character = ']' then some afterSpan
    else if character = '\x7b' then some (field (place + 1))
    else some span
  | field first =>
    if character = '\x7d' then
      if isField ((written.drop first).take (place - first)) then some fields else none
    else some (field first)
  | fields => if character = ']' then some afterSpan else none
  | afterSpan => if character = '=' then some (level (place + 1)) else none
  | level first => some (level first)

/-- Whether a directive may end at a stage. A level may be empty. -/
def Stage.mayEnd (written : List Char) : Stage → Bool
  | target | afterSpan => true
  | level first => (written.drop first).isEmpty || isLevel (written.drop first)
  | start | span | field _ | fields => false

/-- Whether a directive is well formed. -/
def isDirective (directive : List Char) : Bool :=
  let reached :=
    (Text.trimBy Text.isBlank directive).zipIdx.foldlM
      (fun stage (character, place) => stage.advance directive place character) Stage.start
  reached.any fun stage => stage.mayEnd directive

end LogFilter
end Testbed
