import Testbed.Text.Basic

namespace Testbed
namespace LogFilter

/-!
Patterns that values of fields have to match: well-formed regular expressions without counted repetitions
and without word boundaries. Only whether a text is such a pattern is decided here.
-/

namespace Pattern

/-- So many hexadecimal digits that name a character, and what follows them. -/
def readHex (width : Nat) (text : List Char) : Option (Char × List Char) := do
  let digits ← (text.take width).mapM Text.hexValue?
  let point := digits.foldl (fun value digit => value * 16 + digit) 0
  if digits.length = width ∧ point.isValidChar then some (Char.ofNat point, text.drop width) else none

/-- What an escape stands for: a character, or a class of characters. -/
def readEscape : List Char → Option (Option Char × List Char)
  | 'x' :: rest => (readHex 2 rest).map fun (character, after) => (some character, after)
  | 'u' :: rest => (readHex 4 rest).map fun (character, after) => (some character, after)
  | 'U' :: rest => (readHex 8 rest).map fun (character, after) => (some character, after)
  | 'p' :: category :: rest | 'P' :: category :: rest =>
    if ['C', 'L', 'M', 'N', 'P', 'S', 'Z'].contains category then some (none, rest) else none
  | letter :: rest =>
    if ['d', 'D', 's', 'S', 'w', 'W'].contains letter then some (none, rest)
    else if ['a', 'f', 'n', 'r', 't', 'v'].contains letter then
      -- the order of control characters decides whether a range is one
      let point := (([('a', 7), ('t', 9), ('n', 10), ('v', 11), ('f', 12)] : List (Char × Nat)).lookup
        letter).getD 13
      some (some (Char.ofNat point), rest)
    else if 128 ≤ letter.toNat || letter.isAlphanum || letter == '<' || letter == '>' then none
    else some (some letter, rest)
  | [] => none

/-- An item of a class: a character, or a class by itself. -/
def readItem : List Char → Option (Option Char × List Char)
  | '\\' :: rest => readEscape rest
  | character :: rest => some (some character, rest)
  | [] => none

/-- What follows an item of a class, or a range of characters, whose ends have to be in order. -/
def skipRange (text : List Char) : Option (List Char) := do
  let (low, rest) ← readItem text
  match rest with
  | '-' :: next :: more =>
    if next = ']' ∨ next = '-' then some rest
    else
      let (high, after) ← readItem (next :: more)
      if (← low) ≤ (← high) then some after else none
  | _ => some rest

/-- The beginning of a class after its bracket: a negation, hyphens, and a closing bracket may stand there for
themselves. -/
def skipOpening (text : List Char) : List Char :=
  let afterNegation := if text.head? = some '^' then text.drop 1 else text
  let afterHyphens := afterNegation.dropWhile (· == '-')
  if afterHyphens.head? = some ']' && afterHyphens.length = afterNegation.length then
    afterHyphens.drop 1
  else afterHyphens

/-- The names of classes that are written between colons. -/
def classNames : List String :=
  ["alnum", "alpha", "ascii", "blank", "cntrl", "digit", "graph", "lower", "print", "punct", "space",
    "upper", "word", "xdigit"]

/-- What follows a named class whose bracket and colon have been read. -/
def skipNamed (text : List Char) : Option (List Char) :=
  let unsigned := if text.head? = some '^' then text.drop 1 else text
  let name := unsigned.takeWhile (· != ':')
  match unsigned.drop name.length with
  | ':' :: ']' :: rest => if classNames.contains (String.ofList name) then some rest else none
  | _ => none

/-- What follows a class, of which so many brackets are open. -/
def skipClass : Nat → Nat → List Char → Option (List Char)
  | 0, _, _ => none
  | _ + 1, 0, text => some text
  | bound + 1, depth + 1, text =>
    match text with
    | ']' :: rest => skipClass bound depth rest
    | '[' :: ':' :: rest =>
      match skipNamed rest with
      | some after => skipClass bound (depth + 1) after
      | none => skipClass bound (depth + 2) (skipOpening (':' :: rest))
    | '[' :: rest => skipClass bound (depth + 2) (skipOpening rest)
    | '&' :: '&' :: rest | '-' :: '-' :: rest | '~' :: '~' :: rest =>
      skipClass bound (depth + 1) rest
    | other => (skipRange other).bind fun rest => skipClass bound (depth + 1) rest

/-- Whether letters are options, each given once, of which some may be switched off. -/
def areOptions (letters : List Char) : Bool :=
  let options := letters.filter (· != '-')
  options.all ['i', 'm', 's', 'U', 'u', 'x', 'R'].contains && decide options.Nodup &&
    letters.count '-' ≤ 1 && letters.getLast? != some '-'

/-- Whether a text is the name of a group. -/
def isGroupName : List Char → Bool
  | first :: rest =>
    (first == '_' || first.isAlpha) &&
      rest.all fun character =>
        character == '_' || character == '.' || character == '[' || character == ']' ||
          character.isAlphanum
  | [] => false

/-- What follows the beginning of a group, and whether it begins one at all. -/
def skipGroupStart : List Char → Option (Bool × List Char)
  | '?' :: 'P' :: '<' :: rest | '?' :: '<' :: rest =>
    let name := rest.takeWhile (· != '>')
    match rest.drop name.length with
    | _ :: after => if isGroupName name then some (true, after) else none
    | [] => none
  | '?' :: rest =>
    let letters := rest.takeWhile fun character => character != ':' && character != ')'
    match rest.drop letters.length with
    | ':' :: after => if areOptions letters then some (true, after) else none
    | _ :: after => if areOptions letters && !letters.isEmpty then some (false, after) else none
    | [] => none
  | rest => some (true, rest)

/-- Whether the rest of a pattern is well formed, given how many groups are open and whether there is something
to repeat. -/
def isRest : Nat → Nat → Bool → List Char → Bool
  | 0, _, _, _ => false
  | _ + 1, groups, _, [] => groups == 0
  | bound + 1, groups, repeatable, character :: rest =>
    match character with
    | '(' =>
      match skipGroupStart rest with
      | some (true, after) => isRest bound (groups + 1) false after
      | some (false, after) => isRest bound groups false after
      | none => false
    | ')' => 0 < groups && isRest bound (groups - 1) true rest
    | '|' => isRest bound groups false rest
    | '*' | '+' | '?' => repeatable && isRest bound groups true rest
    | '\x7b' => false
    | '[' =>
      match skipClass (rest.length + 1) 1 (skipOpening rest) with
      | some after => isRest bound groups true after
      | none => false
    | '\\' =>
      match rest with
      | 'A' :: after | 'z' :: after => isRest bound groups true after
      | _ =>
        match readEscape rest with
        | some (_, after) => isRest bound groups true after
        | none => false
    | _ => isRest bound groups true rest

end Pattern

/-- Whether a text is a pattern. -/
def isPattern (text : List Char) : Bool :=
  Pattern.isRest (text.length + 1) 0 false text

end LogFilter
end Testbed
