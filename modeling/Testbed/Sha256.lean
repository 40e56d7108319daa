namespace Testbed
namespace Sha256

/-!
The SHA-256 digest of a list of bytes: padding to blocks of 64 bytes, a schedule of 64 words for each
block, and 64 rounds over eight registers.
-/

/-- The eight working registers. -/
structure Registers where
  a : UInt32
  b : UInt32
  c : UInt32
  d : UInt32
  e : UInt32
  f : UInt32
  g : UInt32
  h : UInt32

/-- The fractional parts of the square roots of the first eight primes. -/
def start : Registers :=
  ⟨0x6a09e667, 0xbb67ae85, 0x3c6ef372, 0xa54ff53a,
    0x510e527f, 0x9b05688c, 0x1f83d9ab, 0x5be0cd19⟩

/-- The fractional parts of the cube roots of the first 64 primes. -/
def roundConstants : List UInt32 := [
    0x428a2f98, 0x71374491, 0xb5c0fbcf, 0xe9b5dba5, 0x3956c25b, 0x59f111f1, 0x923f82a4, 0xab1c5ed5,
    0xd807aa98, 0x12835b01, 0x243185be, 0x550c7dc3, 0x72be5d74, 0x80deb1fe, 0x9bdc06a7, 0xc19bf174,
    0xe49b69c1, 0xefbe4786, 0x0fc19dc6, 0x240ca1cc, 0x2de92c6f, 0x4a7484aa, 0x5cb0a9dc, 0x76f988da,
    0x983e5152, 0xa831c66d, 0xb00327c8, 0xbf597fc7, 0xc6e00bf3, 0xd5a79147, 0x06ca6351, 0x14292967,
    0x27b70a85, 0x2e1b2138, 0x4d2c6dfc, 0x53380d13, 0x650a7354, 0x766a0abb, 0x81c2c92e, 0x92722c85,
    0xa2bfe8a1, 0xa81a664b, 0xc24b8b70, 0xc76c51a3, 0xd192e819, 0xd6990624, 0xf40e3585, 0x106aa070,
    0x19a4c116, 0x1e376c08, 0x2748774c, 0x34b0bcb5, 0x391c0cb3, 0x4ed8aa4a, 0x5b9cca4f, 0x682e6ff3,
    0x748f82ee, 0x78a5636f, 0x84c87814, 0x8cc70208, 0x90befffa, 0xa4506ceb, 0xbef9a3f7, 0xc67178f2]

/-- Rotation to the right, for amounts between 1 and 31. -/
def rotate (word : UInt32) (amount : UInt32) : UInt32 :=
  (word >>> amount) ||| (word <<< (32 - amount))

/-- The bytes of a number, most significant first. -/
def bigEndian (width : Nat) (value : Nat) : List UInt8 :=
  (List.range width).map fun index => UInt8.ofNat (value >>> (8 * (width - 1 - index)))

/-- A message with a mark, zeros up to eight bytes before a block's end, and its length in bits. -/
def padded (message : List UInt8) : List UInt8 :=
  let zeros := (119 - message.length % 64) % 64
  message ++ 0x80 :: List.replicate zeros 0 ++ bigEndian 8 (8 * message.length)

/-- The 32-bit words of bytes, most significant byte first. -/
def words : List UInt8 → List UInt32
  | a :: b :: c :: d :: rest =>
    ((a.toUInt32 <<< 24) ||| (b.toUInt32 <<< 16) ||| (c.toUInt32 <<< 8) ||| d.toUInt32) :: words rest
  | _ => []

/-- The 16 words of a block followed by 48 mixed ones. -/
def schedule (block : List UInt32) : Array UInt32 :=
  (List.range 48).foldl
    (fun filled index =>
      let at_ (back : Nat) := filled.getD (index + 16 - back) 0
      let near := at_ 2
      let far := at_ 15
      let nearMix := rotate near 17 ^^^ rotate near 19 ^^^ (near >>> 10)
      let farMix := rotate far 7 ^^^ rotate far 18 ^^^ (far >>> 3)
      filled.push (at_ 16 + farMix + at_ 7 + nearMix))
    block.toArray

/-- One round with its constant and its word of the schedule. -/
def round (r : Registers) (constant word : UInt32) : Registers :=
  let mixE := rotate r.e 6 ^^^ rotate r.e 11 ^^^ rotate r.e 25
  let choice := (r.e &&& r.f) ^^^ ((r.e ^^^ 0xFFFFFFFF) &&& r.g)
  let first := r.h + mixE + choice + constant + word
  let mixA := rotate r.a 2 ^^^ rotate r.a 13 ^^^ rotate r.a 22
  let majority := (r.a &&& r.b) ^^^ (r.a &&& r.c) ^^^ (r.b &&& r.c)
  ⟨first + (mixA + majority), r.a, r.b, r.c, r.d + first, r.e, r.f, r.g⟩

/-- The registers after one block. -/
def compress (r : Registers) (block : List UInt32) : Registers :=
  let mixed :=
    (roundConstants.zip (schedule block).toList).foldl (fun state pair => round state pair.1 pair.2) r
  ⟨r.a + mixed.a, r.b + mixed.b, r.c + mixed.c, r.d + mixed.d,
    r.e + mixed.e, r.f + mixed.f, r.g + mixed.g, r.h + mixed.h⟩

/-- The registers after the given number of blocks. -/
def absorb : Nat → Registers → List UInt32 → Registers
  | 0, registers, _ => registers
  | blocks + 1, registers, rest => absorb blocks (compress registers (rest.take 16)) (rest.drop 16)

/-- The digest of a message, 32 bytes. -/
def digest (message : List UInt8) : List UInt8 :=
  let all := words (padded message)
  let r := absorb (all.length / 16) start all
  [r.a, r.b, r.c, r.d, r.e, r.f, r.g, r.h].flatMap fun word => bigEndian 4 word.toNat

end Sha256
end Testbed
