namespace Testbed

/-!
Spans of time in nanoseconds, and how messages show them: in the largest unit of which there is at
least one, with as many decimal places as are needed.
-/

/-- A span of time. -/
structure Duration where
  nanoseconds : Nat
  deriving DecidableEq, Repr

namespace Duration

def ofSeconds (seconds : Nat) : Duration :=
  ⟨seconds * 1000000000⟩

def ofMilliseconds (milliseconds : Nat) : Duration :=
  ⟨milliseconds * 1000000⟩

/-- The first whole millisecond at which a timer of this length fires. -/
def milliseconds (duration : Duration) : Nat :=
  (duration.nanoseconds + 999999) / 1000000

/-- Decimal digits padded with zeros to a width. -/
def fractionDigits (width value : Nat) : List Char :=
  let digits := Nat.toDigits 10 value
  List.replicate (width - digits.length) '0' ++ digits

/-- A whole part and a fraction of the given width, without trailing zeros. -/
def decimalText (whole width fraction : Nat) : String :=
  let digits := ((fractionDigits width fraction).reverse.dropWhile (· == '0')).reverse
  toString whole ++ (if fraction = 0 then "" else "." ++ String.ofList digits)

/-- The wording of a span of time. -/
def text (duration : Duration) : String :=
  let nanoseconds := duration.nanoseconds
  if 1000000000 ≤ nanoseconds then
    decimalText (nanoseconds / 1000000000) 9 (nanoseconds % 1000000000) ++ "s"
  else if 1000000 ≤ nanoseconds then
    decimalText (nanoseconds / 1000000) 6 (nanoseconds % 1000000) ++ "ms"
  else if 1000 ≤ nanoseconds then
    decimalText (nanoseconds / 1000) 3 (nanoseconds % 1000) ++ "µs"
  else toString nanoseconds ++ "ns"

/-!
Multiplying a span of time by a number of double precision. The span is taken in seconds, the product is
rounded as double precision does, and the result to the nearest nanosecond, a tie to the even one.
-/

/-- The nearest integer to a quotient, a tie to the even one. -/
def roundDiv (numerator denominator : Nat) : Nat :=
  let quotient := numerator / denominator
  let twice := 2 * (numerator % denominator)
  if denominator < twice ∨ (twice = denominator ∧ quotient % 2 = 1) then quotient + 1 else quotient

/-- The nanoseconds in a nonnegative finite number of seconds. -/
def ofFloatSeconds (seconds : Float) : Duration :=
  let bits := seconds.toBits.toNat
  let biased := bits / Nat.pow 2 52 % Nat.pow 2 11
  let fraction := bits % Nat.pow 2 52
  let mantissa := if biased = 0 then fraction else fraction + Nat.pow 2 52
  let exponent := max biased 1
  -- the number is `mantissa * 2 ^ (exponent - 1075)`
  if 1075 ≤ exponent then ⟨mantissa * Nat.pow 2 (exponent - 1075) * 1000000000⟩
  else ⟨roundDiv (mantissa * 1000000000) (Nat.pow 2 (1075 - exponent))⟩

/-- The seconds in a span of time. -/
def floatSeconds (duration : Duration) : Float :=
  Float.ofNat (duration.nanoseconds / 1000000000) +
    Float.ofNat (duration.nanoseconds % 1000000000) / 1000000000.0

/-- A span of time multiplied by a factor. -/
def scale (duration : Duration) (factor : Float) : Duration :=
  ofFloatSeconds (factor * duration.floatSeconds)

end Duration
end Testbed
