import Testbed.Text.Basic
import Testbed.Time.Duration

namespace Testbed

/-!
Instants of the calendar, as documents write them: a date and a time of day, perhaps with a fraction of a
second, and an offset from universal time. Reading is generous about blanks between the parts and about
leading zeros; years of more than four digits need a sign. Instants are written back in universal time, in
whole seconds.
-/

/-- An instant of the calendar, in universal time. -/
structure Timestamp where
  /-- Minutes since the first of March of the year zero. -/
  minutes : Int
  /-- Seconds within the minute; sixty only in a leap second. -/
  seconds : Nat
  deriving DecidableEq

namespace Timestamp

/-- Why a text is no instant. -/
inductive Fault where
  | premature
  | invalid
  | outOfRange
  | trailing
  | impossible
  deriving DecidableEq

/-- The wording of a fault. -/
def Fault.text : Fault → String
  | premature => "premature end of input"
  | invalid => "input contains invalid characters"
  | outOfRange => "input is out of range"
  | trailing => "trailing input"
  | impossible => "no possible date and time matching input"

/-- Days from the first of March of the year zero to a date. -/
def dayNumber (year : Int) (month day : Nat) : Int :=
  let shifted := if month ≤ 2 then year - 1 else year
  let fromMarch := (month + 9) % 12
  365 * shifted + shifted / 4 - shifted / 100 + shifted / 400 + ((153 * fromMarch + 2) / 5 : Nat) +
    (day : Int) - 1

/-- Year, month and day of a number of days. -/
def dateOf (days : Int) : Int × Nat × Nat :=
  let era := days / 146097
  let dayOfEra := (days % 146097).toNat
  let yearOfEra := (dayOfEra - dayOfEra / 1460 + dayOfEra / 36524 - dayOfEra / 146096) / 365
  let dayOfYear := dayOfEra - (365 * yearOfEra + yearOfEra / 4 - yearOfEra / 100)
  let fromMarch := (5 * dayOfYear + 2) / 153
  let month := if fromMarch < 10 then fromMarch + 3 else fromMarch - 9
  let year := era * 400 + yearOfEra + (if month ≤ 2 then 1 else 0)
  (year, month, dayOfYear - (153 * fromMarch + 2) / 5 + 1)

def isLeapYear (year : Int) : Bool :=
  (year % 4 == 0 && year % 100 != 0) || year % 400 == 0

/-- The number of days in a month. -/
def daysInMonth (year : Int) (month : Nat) : Nat :=
  if month = 2 then if isLeapYear year then 29 else 28
  else if month = 4 ∨ month = 6 ∨ month = 9 ∨ month = 11 then 30
  else 31

/-- The first year of the calendar. -/
def firstYear : Int := -262143

/-- The last year of the calendar. -/
def lastYear : Int := 262142

def skipBlanks (text : List Char) : List Char :=
  text.dropWhile Text.isBlank

/-- The number at the head of a text, of as many digits as there are, but no more than a width. -/
def readDigits (width : Option Nat) (text : List Char) : Except Fault (Nat × List Char) :=
  let digits := ((width.map fun most => text.take most).getD text).takeWhile Text.isDigit
  if text.isEmpty then .error .premature
  else if digits.isEmpty then .error .invalid
  else if Nat.pow 2 63 ≤ Text.digitsValue digits then .error .outOfRange
  else .ok (Text.digitsValue digits, text.drop digits.length)

/-- A number of one or two digits after blanks, within bounds. -/
def readNumber (low high : Nat) (text : List Char) : Except Fault (Nat × List Char) := do
  let (value, rest) ← readDigits (some 2) (skipBlanks text)
  if low ≤ value ∧ value ≤ high then .ok (value, rest) else .error .outOfRange

/-- A year after blanks. Only one with a sign may have more than four digits. -/
def readYear (text : List Char) : Except Fault (Int × List Char) := do
  match skipBlanks text with
  | '-' :: digits =>
    let (value, rest) ← readDigits none digits
    if value ≤ Nat.pow 2 31 then .ok (-(value : Int), rest) else .error .outOfRange
  | '+' :: digits =>
    let (value, rest) ← readDigits none digits
    if value < Nat.pow 2 31 then .ok (value, rest) else .error .outOfRange
  | digits =>
    let (value, rest) ← readDigits (some 4) digits
    .ok (value, rest)

/-- One of the given characters at the head of a text. -/
def readMark (marks : List Char) : List Char → Except Fault (List Char)
  | [] => .error .premature
  | character :: rest => if marks.contains character then .ok rest else .error .invalid

/-- Drops a fraction of a second. -/
def dropFraction : List Char → Except Fault (List Char)
  | '.' :: [] => .error .premature
  | '.' :: digit :: rest =>
    if Text.isDigit digit then .ok (rest.dropWhile Text.isDigit) else .error .invalid
  | rest => .ok rest

/-- The two digits at the head of a text. A single character is too short for them only if it takes a
single byte. -/
def readPair : List Char → Except Fault (Nat × Nat × List Char)
  | [] => .error .premature
  | [character] => .error (if character.toNat < 128 then .premature else .invalid)
  | first :: second :: rest =>
    if Text.isDigit first && Text.isDigit second then
      .ok (first.toNat - 48, second.toNat - 48, rest)
    else .error .invalid

/-- The minutes by which a time is ahead of universal time, after the sign. Colons and blanks may stand
between hours and minutes. -/
def readAhead (text : List Char) : Except Fault (Nat × List Char) := do
  let (tens, ones, rest) ← readPair text
  let (minuteTens, minuteOnes, rest) ←
    readPair (rest.dropWhile fun character => character == ':' || Text.isBlank character)
  if minuteTens < 6 then .ok ((tens * 10 + ones) * 60 + minuteTens * 10 + minuteOnes, rest)
  else .error .outOfRange

/-- Whether a text begins with the name of universal time, in letters of either case. -/
def namesUniversal : List Char → Bool
  | u :: t :: c :: _ =>
    (u == 'U' || u == 'u') && (t == 'T' || t == 't') && (c == 'C' || c == 'c')
  | _ => false

/-- The minutes by which a time is ahead of universal time, and what follows them. -/
def readOffset (text : List Char) : Except Fault (Int × List Char) :=
  if namesUniversal text then .ok (0, text.drop 3)
  else
    match text with
    | [] => .error .premature
    | sign :: rest =>
      if sign = 'Z' ∨ sign = 'z' then .ok (0, rest)
      else if sign = '+' then (readAhead rest).map fun (ahead, rest) => (ahead, rest)
      else if sign = '-' ∨ sign.toNat = 0x2212 then
        (readAhead rest).map fun (ahead, rest) => (-ahead, rest)
      else .error .invalid

/-- The instant of a date and a time of day that are so many minutes ahead of universal time. -/
def ofLocal (year : Int) (month day hour minute second : Nat) (ahead : Int) :
    Except Fault Timestamp :=
  if year < firstYear ∨ lastYear < year ∨ daysInMonth year month < day then .error .outOfRange
  else if ahead ≤ -1440 ∨ 1440 ≤ ahead then .error .outOfRange
  else
    let minutes := dayNumber year month day * 1440 + (hour * 60 + minute : Nat) - ahead
    if minutes < dayNumber firstYear 1 1 * 1440 ∨ dayNumber (lastYear + 1) 1 1 * 1440 ≤ minutes then
      .error .impossible
    else .ok { minutes, seconds := second }

/-- The instant that a text names. -/
def parse (text : String) : Except Fault Timestamp := do
  let (year, rest) ← readYear text.toList
  let rest ← readMark ['-'] (skipBlanks rest)
  let (month, rest) ← readNumber 1 12 rest
  let rest ← readMark ['-'] (skipBlanks rest)
  let (day, rest) ← readNumber 1 31 rest
  let rest ← readMark ['T', 't', ' '] rest
  let (hour, rest) ← readNumber 0 23 rest
  let rest ← readMark [':'] (skipBlanks rest)
  let (minute, rest) ← readNumber 0 59 rest
  let rest ← readMark [':'] (skipBlanks rest)
  let (second, rest) ← readNumber 0 60 rest
  let (ahead, rest) ← readOffset (skipBlanks (← dropFraction rest))
  if !(skipBlanks rest).isEmpty then .error .trailing
  else ofLocal year month day hour minute second ahead

/-- A number with zeros in front, up to a width. -/
def padded (width value : Nat) : String :=
  String.ofList (Duration.fractionDigits width value)

/-- The writing of a year: four digits, or a sign and at least four digits. -/
def yearText (year : Int) : String :=
  if 0 ≤ year ∧ year ≤ 9999 then padded 4 year.toNat
  else
    let magnitude := toString year.natAbs
    (if year < 0 then "-" else "+") ++
      String.ofList (List.replicate (4 - magnitude.length) '0') ++ magnitude

/-- The writing of an instant. -/
def text (instant : Timestamp) : String :=
  let (year, month, day) := dateOf (instant.minutes / 1440)
  let minuteOfDay := (instant.minutes % 1440).toNat
  yearText year ++ "-" ++ padded 2 month ++ "-" ++ padded 2 day ++ "T" ++
    padded 2 (minuteOfDay / 60) ++ ":" ++ padded 2 (minuteOfDay % 60) ++ ":" ++
    padded 2 instant.seconds ++ "Z"

end Timestamp
end Testbed
