namespace Testbed
namespace Text
namespace Base64

/-!
Base 64 text with padding: three bytes become four letters, and a short last group is filled up with
equals signs. `decode` reads exactly the texts that `encode` writes.
-/

/-- The letter of a value below 64. -/
def letter (value : Nat) : Char :=
  if value < 26 then Char.ofNat (65 + value)
  else if value < 52 then Char.ofNat (71 + value)
  else if value < 62 then Char.ofNat (value - 4)
  else if value = 62 then '+'
  else '/'

/-- The value of a letter. -/
def value? (character : Char) : Option Nat :=
  let point := character.toNat
  if 65 ≤ point ∧ point ≤ 90 then some (point - 65)
  else if 97 ≤ point ∧ point ≤ 122 then some (point - 71)
  else if 48 ≤ point ∧ point ≤ 57 then some (point + 4)
  else if character = '+' then some 62
  else if character = '/' then some 63
  else none

/-- The letters of a list of bytes. -/
def encode : List UInt8 → List Char
  | [] => []
  | [a] =>
    let bits := a.toNat * 16
    [letter (bits / 64), letter (bits % 64), '=', '=']
  | [a, b] =>
    let bits := (a.toNat * 256 + b.toNat) * 4
    [letter (bits / 4096), letter (bits / 64 % 64), letter (bits % 64), '=']
  | a :: b :: c :: rest =>
    let bits := a.toNat * 65536 + b.toNat * 256 + c.toNat
    letter (bits / 262144) :: letter (bits / 4096 % 64) :: letter (bits / 64 % 64) ::
      letter (bits % 64) :: encode rest

/-- The bytes that letters stand for. -/
def decode : List Char → Option (List UInt8)
  | [] => some []
  | [p, q, '=', '='] => do
    let bits := (← value? p) * 64 + (← value? q)
    if bits % 16 = 0 then some [UInt8.ofNat (bits / 16)] else none
  | [p, q, r, '='] => do
    let bits := (← value? p) * 4096 + (← value? q) * 64 + (← value? r)
    if bits % 4 = 0 then some [UInt8.ofNat (bits / 1024), UInt8.ofNat (bits / 4 % 256)] else none
  | p :: q :: r :: s :: rest => do
    let bits := (← value? p) * 262144 + (← value? q) * 4096 + (← value? r) * 64 + (← value? s)
    let bytes ← decode rest
    some (UInt8.ofNat (bits / 65536) :: UInt8.ofNat (bits / 256 % 256) :: UInt8.ofNat (bits % 256) ::
      bytes)
  | _ => none

end Base64

/-- Bytes as base 64 text. -/
def base64 (bytes : List UInt8) : String :=
  String.ofList (Base64.encode bytes)

end Text
end Testbed
