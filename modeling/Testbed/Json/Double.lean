import Testbed.Json.Basic

namespace Testbed

/-!
Numbers of double precision, without their signs, and the decimals that stand for them. A number is known by
the shortest decimal that rounds to it, and of several such by the nearest. Reading a decimal takes as
many of its digits as 64 bits hold and scales them by powers of ten, rounding after each step, so that
a result may be a neighbour of the nearest number.
-/

/-- The number `significand * 2 ^ (exponent - 1074)`. -/
structure Double where
  significand : Nat
  exponent : Nat
  deriving DecidableEq

namespace Double

/-- The nearest integer to a quotient, a tie to the even one. -/
def roundQuotient (numerator denominator : Nat) : Nat :=
  let quotient := numerator / denominator
  let twice := 2 * (numerator % denominator)
  if denominator < twice ∨ (twice = denominator ∧ quotient % 2 = 1) then quotient + 1 else quotient

/-- The number nearest to a quotient, unless that is beyond all numbers. -/
def ofRatio (numerator denominator : Nat) : Option Double :=
  let scaled := numerator * Nat.pow 2 1074
  let exponent := (scaled / denominator).log2 - 52
  let significand := roundQuotient scaled (denominator * Nat.pow 2 exponent)
  let rounded : Double :=
    if significand = Nat.pow 2 53 then ⟨Nat.pow 2 52, exponent + 1⟩ else ⟨significand, exponent⟩
  if rounded.exponent ≤ 2045 then some rounded else none

/-- A number in units of `2 ^ (-1074)`. -/
def units (number : Double) : Nat :=
  number.significand * Nat.pow 2 number.exponent

/-- The number that stands for a power of ten. -/
def powerOfTen (exponent : Nat) : Option Double :=
  ofRatio (Nat.pow 10 exponent) 1

def multiply (first second : Double) : Option Double :=
  ofRatio (first.units * second.units) (Nat.pow 2 2148)

def divide (first second : Double) : Option Double :=
  ofRatio first.units second.units

/-- A number times ten to an exponent. Greater exponents than 308 have no number; smaller ones than -308 are
reached in steps. -/
def scale (number : Double) (exponent : Int) : Option Double :=
  if exponent < -308 then
    if number.significand = 0 then some number
    else (((powerOfTen 308).bind number.divide).bind fun reduced => reduced.scale (exponent + 308))
  else if exponent < 0 then (powerOfTen exponent.natAbs).bind number.divide
  else if exponent ≤ 308 then (powerOfTen exponent.natAbs).bind number.multiply
  else if number.significand = 0 then some number
  else none
termination_by exponent.natAbs

/-- Appends digits to a natural number while the result fits into 64 bits, and tells how many are left. -/
def appendDigits : Nat → List Char → Nat × Nat
  | value, [] => (value, 0)
  | value, digit :: rest =>
    let longer := value * 10 + (digit.toNat - 48)
    if longer < Nat.pow 2 64 then appendDigits longer rest else (value, rest.length + 1)

/-- The number that digits before and after a point stand for, times ten to an exponent. -/
def ofDigits (whole fraction : List Char) (exponent : Int) : Option Double :=
  let (integral, dropped) := appendDigits 0 whole
  let (significand, ignored) := appendDigits integral fraction
  (ofRatio significand 1).bind fun number =>
    number.scale (exponent + dropped - (fraction.length - ignored : Nat))

/-- Whether `value` times ten to an exponent, or one over it, rounds to a number. -/
def roundsTo (number : Double) (value : Nat) (exponent : Int) : Bool :=
  let grid := Nat.pow 2 number.exponent
  -- in quarters of a unit: the number, and how far its neighbourhood goes
  let centre := 4 * number.units
  let above := centre + 2 * grid
  let below :=
    if number.significand = Nat.pow 2 52 ∧ 0 < number.exponent then centre - grid
    else centre - 2 * grid
  let (candidate, factor) : Nat × Nat :=
    if 0 ≤ exponent then (value * Nat.pow 10 exponent.toNat * Nat.pow 2 1076, 1)
    else (value * Nat.pow 2 1076, Nat.pow 10 exponent.natAbs)
  if number.significand % 2 = 0 then below * factor ≤ candidate && candidate ≤ above * factor
  else below * factor < candidate && candidate < above * factor

/-- The two decimals with a unit of ten to an exponent that enclose a number, and whether the upper one is
nearer; of two that are equally near, the even one. -/
def enclosing (number : Double) (exponent : Int) : Nat × Bool :=
  let (numerator, denominator) : Nat × Nat :=
    if 0 ≤ exponent then (number.units, Nat.pow 2 1074 * Nat.pow 10 exponent.toNat)
    else (number.units * Nat.pow 10 exponent.natAbs, Nat.pow 2 1074)
  let lower := numerator / denominator
  let twice := 2 * (numerator % denominator)
  (lower, denominator < twice || (twice == denominator && lower % 2 == 1))

/-- The decimal with a unit of ten to an exponent that is nearest among those that round to a number. -/
def decimalAt (number : Double) (exponent : Int) : Option Nat :=
  let (lower, upperFirst) := number.enclosing exponent
  let candidates := if upperFirst then [lower + 1, lower] else [lower, lower + 1]
  candidates.find? fun value => number.roundsTo value exponent

/-- How many digits a number has before its point; where that is none, how many zeros follow the point, as
a negative number. -/
def magnitude (number : Double) : Int :=
  (Nat.toDigits 10 (number.units * Nat.pow 10 400 / Nat.pow 2 1074)).length - 400

/-- The first decimal that rounds to a number as the digits become more. -/
def shortestFrom (number : Double) (magnitude : Int) : Nat → Nat → Nat × Int
  | _, 0 => (0, 0)
  | digits, bound + 1 =>
    match number.decimalAt (magnitude - digits) with
    | some value => (value, magnitude - digits)
    | none => shortestFrom number magnitude (digits + 1) bound

/-- The shortest decimal that rounds to a number. Seventeen digits are always enough. -/
def shortest (number : Double) : Nat × Int :=
  if number.significand = 0 then (0, 0) else number.shortestFrom number.magnitude 1 17

end Double
end Testbed
