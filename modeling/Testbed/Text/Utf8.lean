namespace Testbed
namespace Text
namespace Utf8

/-!
Texts as bytes and back. Bytes that are no text are reported by the place of the first fault and, when
the fault is not the end of the input, by the number of bytes that no text can continue.
-/

/-- The bytes of a text. -/
def encode (text : String) : List UInt8 :=
  text.toUTF8.data.toList

/-- Where bytes stop being text. -/
structure Fault where
  /-- How many bytes before the fault are text. -/
  index : Nat
  /-- How many bytes are faulty; absent when the input ends inside a character. -/
  length : Option Nat
  deriving DecidableEq

/-- The wording of a fault. -/
def Fault.message (fault : Fault) : String :=
  match fault.length with
  | some length =>
    "invalid utf-8 sequence of " ++ toString length ++ " bytes from index " ++ toString fault.index
  | none => "incomplete utf-8 byte sequence from index " ++ toString fault.index

/-- How many bytes follow a first byte, and the least and greatest that the second may be. -/
def shape? (first : Nat) : Option (Nat × Nat × Nat) :=
  if first < 0x80 then some (0, 0x80, 0xBF)
  else if first < 0xC2 then none
  else if first < 0xE0 then some (1, 0x80, 0xBF)
  else if first = 0xE0 then some (2, 0xA0, 0xBF)
  else if first = 0xED then some (2, 0x80, 0x9F)
  else if first < 0xF0 then some (2, 0x80, 0xBF)
  else if first = 0xF0 then some (3, 0x90, 0xBF)
  else if first < 0xF4 then some (3, 0x80, 0xBF)
  else if first = 0xF4 then some (3, 0x80, 0x8F)
  else none

/-- Reads the bytes owed to a character: its code point, or how many bytes are faulty. -/
def readTail (low high : Nat) : Nat → Nat → Nat → List UInt8 → Except (Option Nat) Nat
  | 0, _, point, _ => .ok point
  | _ + 1, _, _, [] => .error none
  | owed + 1, seen, point, byte :: rest =>
    if low ≤ byte.toNat ∧ byte.toNat ≤ high then
      readTail 0x80 0xBF owed (seen + 1) (point * 64 + byte.toNat % 64) rest
    else .error (some seen)

/-- The characters of bytes, from a place in the input on. The first number bounds the characters. -/
def decodeFrom : Nat → Nat → List UInt8 → Except Fault (List Char)
  | 0, _, _ => .ok []
  | _ + 1, _, [] => .ok []
  | bound + 1, index, byte :: rest =>
    match shape? byte.toNat with
    | none => .error ⟨index, some 1⟩
    | some (owed, low, high) =>
      let lead := if owed = 0 then byte.toNat else byte.toNat % Nat.pow 2 (6 - owed)
      match readTail low high owed 1 lead rest with
      | .error length => .error ⟨index, length⟩
      | .ok point => do
        let characters ← decodeFrom bound (index + owed + 1) (rest.drop owed)
        .ok (Char.ofNat point :: characters)

/-- The text that bytes stand for. -/
def decode (bytes : List UInt8) : Except Fault String :=
  (decodeFrom (bytes.length + 1) 0 bytes).map String.ofList

/-- The characters of bytes, with a replacement character for what is faulty. The number bounds them. -/
def decodeLossyFrom : Nat → List UInt8 → List Char
  | 0, _ => []
  | _ + 1, [] => []
  | bound + 1, byte :: rest =>
    match shape? byte.toNat with
    | none => Char.ofNat 0xFFFD :: decodeLossyFrom bound rest
    | some (owed, low, high) =>
      let lead := if owed = 0 then byte.toNat else byte.toNat % Nat.pow 2 (6 - owed)
      match readTail low high owed 1 lead rest with
      | .ok point => Char.ofNat point :: decodeLossyFrom bound (rest.drop owed)
      | .error (some length) =>
        Char.ofNat 0xFFFD :: decodeLossyFrom bound (rest.drop (length - 1))
      | .error none => [Char.ofNat 0xFFFD]

/-- The text that bytes stand for, with a replacement character for what is faulty. -/
def decodeLossy (bytes : List UInt8) : String :=
  String.ofList (decodeLossyFrom bytes.length bytes)

end Utf8
end Text
end Testbed
