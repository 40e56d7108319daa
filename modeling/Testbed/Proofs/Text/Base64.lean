import Testbed.Text.Base64

namespace Testbed
namespace Text

/-!
# Base 64 loses nothing

Whatever bytes are written in base 64, reading the text gives them back.  A group of letters has the bits
of its bytes, six to a letter, so the reader puts together the number that the writer has taken apart.  An
equals sign is no letter, so a full group is not taken for a short one.
-/

namespace Base64

/-- Every value below 64 has a letter, and the letter has that value. -/
theorem value?_letter {value : Nat} (small : value < 64) : value? (letter value) = some value := by
  have each : ∀ value : Fin 64, value? (letter value) = some value.val := by decide
  exact each ⟨value, small⟩

theorem letter_ne_padding {value : Nat} (small : value < 64) : letter value ≠ '=' := by
  intro same
  have known := value?_letter small
  rw [same] at known
  cases known

/-- Groups of six bits make up the number again that they have been taken from. -/
theorem regrouped (bits : Nat) :
    bits / 262144 * 262144 + bits / 4096 % 64 * 4096 + bits / 64 % 64 * 64 + bits % 64 = bits := by
  omega

theorem decode_full {p q r s : Char} {rest : List Char} (full : s ≠ '=') :
    decode (p :: q :: r :: s :: rest) = (do
      let bits := (← value? p) * 262144 + (← value? q) * 4096 + (← value? r) * 64 + (← value? s)
      let bytes ← decode rest
      some (UInt8.ofNat (bits / 65536) :: UInt8.ofNat (bits / 256 % 256) ::
        UInt8.ofNat (bits % 256) :: bytes)) := by
  rw [decode]
  · intro _ same
    exact absurd same full
  · intro same
    exact absurd same full

theorem decode_short {p q r : Char} (full : r ≠ '=') :
    decode [p, q, r, '='] = (do
      let bits := (← value? p) * 4096 + (← value? q) * 64 + (← value? r)
      if bits % 4 = 0 then some [UInt8.ofNat (bits / 1024), UInt8.ofNat (bits / 4 % 256)] else none) := by
  rw [decode]
  intro same
  exact absurd same full

/-- What is written is read back. -/
theorem decode_encode (bytes : List UInt8) : decode (encode bytes) = some bytes := by
  induction bytes using encode.induct with
  | case1 => rfl
  | case2 a =>
      have byte := a.toNat_lt
      have first : a.toNat * 16 / 64 < 64 := by omega
      have second : a.toNat * 16 % 64 < 64 := by omega
      have whole : a.toNat * 16 / 64 * 64 + a.toNat * 16 % 64 = a.toNat * 16 := by omega
      simp only [encode, decode, value?_letter first, value?_letter second, Option.bind_eq_bind,
        Option.bind_some, whole]
      rw [if_pos (Nat.mul_mod_left _ _), Nat.mul_div_cancel _ (by decide), UInt8.ofNat_toNat]
  | case3 a b =>
      have high := a.toNat_lt
      have low := b.toNat_lt
      generalize known : (a.toNat * 256 + b.toNat) * 4 = bits
      have first : bits / 4096 < 64 := by omega
      have second : bits / 64 % 64 < 64 := by omega
      have third : bits % 64 < 64 := by omega
      have whole : bits / 4096 * 4096 + bits / 64 % 64 * 64 + bits % 64 = bits := by omega
      have upper : bits / 1024 = a.toNat := by omega
      have lower : bits / 4 % 256 = b.toNat := by omega
      have even : bits % 4 = 0 := by omega
      simp only [encode, known]
      rw [decode_short (letter_ne_padding third)]
      simp only [value?_letter first, value?_letter second, value?_letter third, Option.bind_eq_bind,
        Option.bind_some, whole, upper, lower, even, if_true, UInt8.ofNat_toNat]
  | case4 a b c rest inductionHypothesis =>
      have high := a.toNat_lt
      have middle := b.toNat_lt
      have low := c.toNat_lt
      generalize known : a.toNat * 65536 + b.toNat * 256 + c.toNat = bits
      have first : bits / 262144 < 64 := by omega
      have second : bits / 4096 % 64 < 64 := by omega
      have third : bits / 64 % 64 < 64 := by omega
      have fourth : bits % 64 < 64 := by omega
      have upper : bits / 65536 = a.toNat := by omega
      have centre : bits / 256 % 256 = b.toNat := by omega
      have lower : bits % 256 = c.toNat := by omega
      simp only [encode, known]
      rw [decode_full (letter_ne_padding fourth)]
      simp only [value?_letter first, value?_letter second, value?_letter third, value?_letter fourth,
        Option.bind_eq_bind, Option.bind_some, regrouped, upper, centre, lower, UInt8.ofNat_toNat,
        inductionHypothesis]

end Base64

theorem decode_base64 (bytes : List UInt8) : Base64.decode (base64 bytes).toList = some bytes := by
  rw [base64, String.toList_ofList]
  exact Base64.decode_encode bytes

end Text
end Testbed
