import Mathlib.Data.List.DropRight
import Testbed.Text.Basic

namespace Testbed
namespace Text

/-!
# What a numeral says

A numeral is read with blanks around it and a plus sign before it, or without.  Nothing else is read as a number,
and of a number that is too large nothing is read.  Where an integer is expected, the sign may also be a minus, and
blanks are no part of it.
-/

/-! ## Trimming -/

variable {test : Char → Bool} {character : Char} {core text : List Char}

theorem dropTrailing_eq_rdropWhile : dropTrailing test text = text.rdropWhile test :=
  rfl

/-- What is dropped at the end is what the test accepts. -/
theorem exists_dropTrailing_append (test : Char → Bool) (text : List Char) :
    ∃ after, text = dropTrailing test text ++ after ∧ ∀ character ∈ after, test character = true := by
  refine ⟨text.rtakeWhile test, List.rdropWhile_append_rtakeWhile.symm, fun character listed => ?_⟩
  exact List.mem_rtakeWhile_imp listed

theorem dropTrailing_append {after : List Char} (dropped : ∀ character ∈ after, test character = true) :
    dropTrailing test (text ++ after) = dropTrailing test text := by
  have all : ∀ character ∈ after.reverse, test character = true := fun character listed =>
    dropped character (List.mem_reverse.mp listed)
  rw [dropTrailing, dropTrailing, List.reverse_append, List.dropWhile_append_of_pos all]

/-- Nothing that the test accepts is left at the end. -/
theorem last_dropTrailing (last : character ∈ (dropTrailing test text).getLast?) :
    test character = false := by
  rw [dropTrailing_eq_rdropWhile] at last
  have nonempty : text.rdropWhile test ≠ [] := by
    intro none
    rw [none] at last
    exact Option.not_mem_none _ last
  rw [List.getLast?_eq_some_getLast nonempty, Option.mem_some] at last
  exact Bool.eq_false_iff.mpr (last ▸ List.rdropWhile_last_not test text nonempty)

theorem dropTrailing_eq_self (stays : ∀ character ∈ text.getLast?, test character = false) :
    dropTrailing test text = text := by
  rw [dropTrailing_eq_rdropWhile, List.rdropWhile_eq_self_iff]
  intro nonempty
  exact Bool.eq_false_iff.mp (stays _ (List.getLast?_eq_some_getLast nonempty))

/-- Whether a text is another one, with blanks around it or without. -/
def IsPadded (core text : List Char) : Prop :=
  ∃ before after, text = before ++ core ++ after ∧
    (∀ character ∈ before, isBlank character = true) ∧ ∀ character ∈ after, isBlank character = true

theorem isPadded_trimBy (text : List Char) : IsPadded (trimBy isBlank text) text := by
  rcases exists_dropTrailing_append isBlank (text.dropWhile isBlank) with ⟨after, split, dropped⟩
  refine ⟨text.takeWhile isBlank, after, ?_, fun character listed => List.mem_takeWhile_imp listed, dropped⟩
  rw [List.append_assoc, trimBy, ← split, List.takeWhile_append_dropWhile]

/-- Trimming gives back what has no blank in it. -/
theorem IsPadded.trimBy_eq (padded : IsPadded core text)
    (solid : ∀ character ∈ core, isBlank character = false) : trimBy isBlank text = core := by
  rcases padded with ⟨before, after, rfl, leading, trailing⟩
  rw [trimBy, List.append_assoc, List.dropWhile_append_of_pos leading]
  cases core with
  | nil =>
      rw [List.nil_append, List.dropWhile_eq_nil_iff.mpr trailing]
      rfl
  | cons first rest =>
      have stays : List.dropWhile isBlank (first :: rest ++ after) = first :: rest ++ after :=
        List.dropWhile_cons_of_neg (Bool.eq_false_iff.mp (solid first List.mem_cons_self))
      rw [stays, dropTrailing_append trailing]
      exact dropTrailing_eq_self fun character last => solid character (List.mem_of_mem_getLast? last)

/-! ## Numerals -/

/-- Whether a text is a decimal numeral for a number: digits, and maybe a plus sign before them. -/
inductive IsNumeral : List Char → Nat → Prop where
  | plain {digits : List Char} (nonempty : digits ≠ []) (decimal : ∀ digit ∈ digits, digit.isDigit = true) :
      IsNumeral digits (Nat.ofDigitChars 10 digits 0)
  | signed {digits : List Char} (nonempty : digits ≠ []) (decimal : ∀ digit ∈ digits, digit.isDigit = true) :
      IsNumeral ('+' :: digits) (Nat.ofDigitChars 10 digits 0)

variable {number other bound : Nat}

theorem isDigit_eq : isDigit character = character.isDigit :=
  rfl

theorem digitsValue_eq : digitsValue text = Nat.ofDigitChars 10 text 0 := by
  rw [digitsValue, Nat.ofDigitChars_eq_foldl]
  simp only [Nat.mul_comm]
  rfl

theorem isBlank_of_isDigit (digit : character.isDigit = true) : isBlank character = false := by
  have bounds : 48 ≤ character.toNat ∧ character.toNat ≤ 57 := by
    simpa [Char.isDigit, UInt32.le_iff_toNat_le] using digit
  simp only [isBlank, Bool.or_eq_false_iff, Bool.and_eq_false_imp, beq_eq_false_iff_ne, decide_eq_true_eq,
    decide_eq_false_iff_not]
  omega

theorem digits?_eq_some_iff :
    digits? text = some number ↔
      text ≠ [] ∧ (∀ digit ∈ text, digit.isDigit = true) ∧ Nat.ofDigitChars 10 text 0 = number := by
  simp only [digits?, Option.ite_none_right_eq_some, Bool.and_eq_true, Bool.not_eq_true', List.isEmpty_eq_false_iff,
    List.all_eq_true, isDigit_eq, digitsValue_eq, Option.some.injEq, and_assoc]

/-- A numeral is read as its number, if this is below the bound, and nothing else is read. -/
theorem natural?_eq_some_iff : natural? bound text = some number ↔ IsNumeral text number ∧ number < bound := by
  unfold natural?
  rw [Option.filter_eq_some_iff, decide_eq_true_eq]
  refine and_congr_left fun _ => ?_
  split
  · rename_i digits
    rw [digits?_eq_some_iff]
    constructor
    · rintro ⟨nonempty, decimal, rfl⟩
      exact .signed nonempty decimal
    · rintro (⟨_, decimal⟩ | ⟨nonempty, decimal⟩)
      · exact absurd (decimal '+' List.mem_cons_self) (by decide)
      · exact ⟨nonempty, decimal, rfl⟩
  · rename_i unsigned
    rw [digits?_eq_some_iff]
    constructor
    · rintro ⟨nonempty, decimal, rfl⟩
      exact .plain nonempty decimal
    · rintro (⟨nonempty, decimal⟩ | ⟨_, _⟩)
      · exact ⟨nonempty, decimal, rfl⟩
      · exact absurd rfl (unsigned _)

namespace IsNumeral

theorem ofNat (number : Nat) : IsNumeral (toString number).toList number := by
  have decimal : ∀ digit ∈ Nat.toDigits 10 number, digit.isDigit = true := fun _ listed =>
    Nat.isDigit_of_mem_toDigits (by decide) (by decide) listed
  have numeral := IsNumeral.plain Nat.toDigits_ne_nil decimal
  rw [Nat.toString_eq_ofList_toDigits, String.toList_ofList]
  rwa [Nat.ofDigitChars_ten_toDigits] at numeral

/-- There is no blank in a numeral. -/
theorem solid (numeral : IsNumeral text number) : ∀ character ∈ text, isBlank character = false := by
  cases numeral with
  | plain _ decimal => exact fun character listed => isBlank_of_isDigit (decimal character listed)
  | signed _ decimal =>
      intro character listed
      rcases List.mem_cons.mp listed with rfl | digit
      · rfl
      · exact isBlank_of_isDigit (decimal character digit)

end IsNumeral

/-- What is read of a text that is trimmed first. -/
theorem natural?_trimBy_eq_some_iff :
    natural? bound (trimBy isBlank text) = some number ↔
      (∃ core, IsPadded core text ∧ IsNumeral core number) ∧ number < bound := by
  rw [natural?_eq_some_iff]
  refine and_congr_left fun _ => ⟨fun numeral => ⟨_, isPadded_trimBy text, numeral⟩, ?_⟩
  rintro ⟨core, padded, numeral⟩
  rwa [padded.trimBy_eq numeral.solid]

/-! ## Hexadecimal digits -/

theorem hexValue?_hexDigit {value : Nat} (small : value < 16) : hexValue? (hexDigit value) = some value := by
  have each : ∀ value : Fin 16, hexValue? (hexDigit value) = some value.val := by decide
  exact each ⟨value, small⟩

/-! ## Integers -/

/-- Whether a text is a decimal numeral for an integer: digits, and maybe a sign before them. -/
inductive IsInteger : List Char → Int → Prop where
  | natural {text : List Char} {number : Nat} (numeral : IsNumeral text number) : IsInteger text number
  | negative {digits : List Char} (nonempty : digits ≠ []) (decimal : ∀ digit ∈ digits, digit.isDigit = true) :
      IsInteger ('-' :: digits) (-(Nat.ofDigitChars 10 digits 0 : Nat))

variable {integer : Int} {word : Int64} {digits : List Char}

/-- A minus sign is no part of a numeral for a natural number. -/
theorem not_isNumeral_minus : ¬IsNumeral ('-' :: digits) number := by
  intro numeral
  generalize signed : '-' :: digits = text at numeral
  cases numeral with
  | plain _ decimal => exact absurd (decimal '-' (signed ▸ List.mem_cons_self)) (by decide)
  | signed _ _ => exact absurd (List.cons.inj signed).1 (by decide)

theorem isInteger_minus_iff :
    IsInteger ('-' :: digits) integer ↔
      ∃ magnitude, digits? digits = some magnitude ∧ integer = -(magnitude : Int) := by
  simp only [digits?_eq_some_iff]
  constructor
  · rintro (numeral | ⟨nonempty, decimal⟩)
    · exact absurd numeral not_isNumeral_minus
    · exact ⟨_, ⟨nonempty, decimal, rfl⟩, rfl⟩
  · rintro ⟨_, ⟨nonempty, decimal, rfl⟩, rfl⟩
    exact .negative nonempty decimal

theorem isInteger_iff_isNumeral (unsigned : text.head? ≠ some '-') :
    IsInteger text integer ↔ ∃ number : Nat, IsNumeral text number ∧ integer = number := by
  constructor
  · rintro (numeral | ⟨_, _⟩)
    · exact ⟨_, numeral, rfl⟩
    · exact absurd rfl unsigned
  · rintro ⟨number, numeral, rfl⟩
    exact .natural numeral

/-- Nothing but digits is in the numeral of an integer, apart from its sign. -/
theorem IsInteger.mem (numeral : IsInteger text integer) :
    ∀ character ∈ text, character.isDigit = true ∨ character = '+' ∨ character = '-' := by
  rcases numeral with (⟨_, decimal⟩ | ⟨_, decimal⟩) | ⟨_, decimal⟩
  · exact fun character listed => Or.inl (decimal character listed)
  · intro character listed
    rcases List.mem_cons.mp listed with sign | digit
    · exact Or.inr (Or.inl sign)
    · exact Or.inl (decimal character digit)
  · intro character listed
    rcases List.mem_cons.mp listed with sign | digit
    · exact Or.inr (Or.inr sign)
    · exact Or.inl (decimal character digit)

/-- The value of digits is zero exactly if all of them are zeros. -/
theorem ofDigitChars_eq_zero_iff (decimal : ∀ digit ∈ digits, digit.isDigit = true) :
    Nat.ofDigitChars 10 digits 0 = 0 ↔ ∀ digit ∈ digits, digit = '0' := by
  induction digits with
  | nil => exact iff_of_true rfl (List.forall_mem_nil _)
  | cons first rest inductionHypothesis =>
      rcases List.forall_mem_cons.mp decimal with ⟨digit, others⟩
      have head : first.toNat - '0'.toNat = 0 ↔ first = '0' := by
        have lower : 48 ≤ first.toNat := (Char.isDigit_iff_toNat.mp digit).1
        rw [← Char.toNat_inj]
        change first.toNat - 48 = 0 ↔ first.toNat = 48
        omega
      rw [Nat.ofDigitChars_cons, Nat.ofDigitChars_eq_ofDigitChars_zero, Nat.add_eq_zero_iff,
        inductionHypothesis others, List.forall_mem_cons, Nat.mul_zero, Nat.zero_add, Nat.mul_eq_zero, head,
        or_iff_right (Nat.pow_pos (by decide)).ne']

/-- The integers of 64 bits are told apart by their values. -/
theorem ofInt_eq_iff (above : -(Nat.pow 2 63 : Int) ≤ integer) (below : integer < Nat.pow 2 63) :
    Int64.ofInt integer = word ↔ word.toInt = integer := by
  rw [← Int64.toInt_inj, Int64.toInt_ofInt_of_le above below, eq_comm]

/-- Behind a minus sign the magnitude is read as a natural number, and may be one more than without. -/
theorem int64?_minus :
    int64? ('-' :: digits) =
      ((digits? digits).filter (· ≤ Nat.pow 2 63)).map fun magnitude : Nat => Int64.ofInt (-magnitude) := by
  rw [int64?]
  cases (digits? digits).filter (· ≤ Nat.pow 2 63) <;> rfl

theorem int64?_eq_natural? (unsigned : text.head? ≠ some '-') :
    int64? text = (natural? (Nat.pow 2 63) text).map fun number : Nat => Int64.ofInt number := by
  unfold int64? natural?
  split
  · exact absurd rfl unsigned
  · rename_i digits
    change _ = ((digits? digits).filter (· < Nat.pow 2 63)).map _
    cases (digits? digits).filter (· < Nat.pow 2 63) <;> rfl
  · rename_i plain
    split
    · exact absurd rfl (plain _)
    · cases (digits? text).filter (· < Nat.pow 2 63) <;> rfl

/-- An integer is read as its value, if this fits into 64 bits, and nothing else is read. -/
theorem int64?_eq_some_iff : int64? text = some word ↔ IsInteger text word.toInt := by
  have lowest : -(Nat.pow 2 63 : Int) ≤ word.toInt := word.le_toInt
  have highest : word.toInt < Nat.pow 2 63 := word.toInt_lt
  -- Behind a minus sign there is room for one magnitude more, so the two bounds are not the same.
  by_cases signed : text.head? = some '-'
  · rcases List.head?_eq_some_iff.mp signed with ⟨digits, rfl⟩
    rw [isInteger_minus_iff, int64?_minus, Option.map_eq_some_iff]
    refine exists_congr fun magnitude => ?_
    rw [Option.filter_eq_some_iff, decide_eq_true_eq, and_assoc]
    refine and_congr_right fun _ => ⟨?_, fun known => ?_⟩
    · rintro ⟨fits, same⟩
      exact (ofInt_eq_iff (by omega) (by omega)).mp same
    · exact ⟨by omega, (ofInt_eq_iff (by omega) (by omega)).mpr known⟩
  · rw [isInteger_iff_isNumeral signed, int64?_eq_natural? signed, Option.map_eq_some_iff]
    refine exists_congr fun number => ?_
    rw [natural?_eq_some_iff, and_assoc]
    refine and_congr_right fun _ => ⟨?_, fun known => ?_⟩
    · rintro ⟨fits, same⟩
      exact (ofInt_eq_iff (by omega) (by omega)).mp same
    · exact ⟨by omega, (ofInt_eq_iff (by omega) (by omega)).mpr known⟩

end Text
end Testbed
