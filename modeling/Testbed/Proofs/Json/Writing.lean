import Testbed.Json.Printer
import Testbed.Json.Raw
import Testbed.Proofs.Text.Numeral

namespace Testbed

/-!
# Documents that are written on one line

What is written of a document is read back, member by member and character by character, as long as its numbers
are whole and fit into 64 bits.  Whatever follows a value in a document ends it: the reader stops where the writer
did.
-/

namespace Text

/-- No number but zero is written with a zero at its head. -/
theorem eq_zero_of_head?_toDigits {number : Nat} (zero : (Nat.toDigits 10 number).head? = some '0') :
    number = 0 := by
  induction number using Nat.strong_induction_on with
  | _ number inductionHypothesis =>
      rw [Nat.toDigits_eq_if (by decide)] at zero
      split at zero
      · rename_i small
        rw [List.head?_cons, Option.some.injEq] at zero
        have each : ∀ digit : Fin 10, Nat.digitChar digit.val = '0' → digit.val = 0 := by decide
        exact each ⟨number, small⟩ zero
      · rename_i large
        rw [List.head?_append_of_ne_nil _ Nat.toDigits_ne_nil] at zero
        have none := inductionHypothesis (number / 10) (by omega) zero
        omega

end Text

namespace Json

mutual

/-- Whether all numbers of a document are whole and fit into 64 bits, with a sign or without. -/
def IsExact : Json → Prop
  | integer value => -(Nat.pow 2 63 : Int) ≤ value ∧ value < Nat.pow 2 64
  | decimal _ => False
  | array items => AreExact items
  | object members => HaveExactValues members
  | _ => True

/-- Whether this holds of all items. -/
def AreExact : List Json → Prop
  | [] => True
  | item :: rest => item.IsExact ∧ AreExact rest

/-- Whether this holds of the values of all members. -/
def HaveExactValues : List (String × Json) → Prop
  | [] => True
  | (_, value) :: rest => value.IsExact ∧ HaveExactValues rest

end

end Json

namespace RawJson

/-- Whether a text can follow a value in a document: it is empty, or begins with a comma or a closing bracket. -/
inductive Follows : List Char → Prop where
  | nothing : Follows []
  | comma (rest : List Char) : Follows (',' :: rest)
  | bracket (rest : List Char) : Follows (']' :: rest)
  | brace (rest : List Char) : Follows ('\x7d' :: rest)

variable {bound : Nat} {rest : List Char}

/-! ## Texts -/

/-- Two zeros and two digits are the code of a character below 256. -/
theorem readUnit_hexDigits {code : Nat} (small : code < 256) (input : List Char) :
    readUnit ('0' :: '0' :: Text.hexDigit (code / 16) :: Text.hexDigit (code % 16) :: input) =
      some (code, input) := by
  have zero : Text.hexValue? '0' = some 0 := rfl
  have high : Text.hexValue? (Text.hexDigit (code / 16)) = some (code / 16) := Text.hexValue?_hexDigit (by omega)
  have low : Text.hexValue? (Text.hexDigit (code % 16)) = some (code % 16) := Text.hexValue?_hexDigit (by omega)
  have whole : (0 * 16 + 0) * 256 + (code / 16 * 16 + code % 16) = code := by omega
  simp only [readUnit, zero, high, low, Option.bind_eq_bind, Option.bind_some, whole]

theorem readScalar_of_lt {code : Nat} (small : code < 0xD800) (input : List Char) :
    readScalar code input = some (some (Char.ofNat code), input) := by
  unfold readScalar
  rw [if_neg (by omega), if_neg (by omega)]

/-- A character that stands for itself is read as it is. -/
theorem readText_of_plain {character : Char} (quote : character ≠ '"') (backslash : character ≠ '\\')
    (printable : 32 ≤ character.toNat) (input : List Char) :
    readText (bound + 1) (character :: input) =
      (readText bound input).bind fun found => some (prepend (some character) found.1, found.2) := by
  rw [readText, if_neg (Nat.not_lt.mpr printable)]
  · rfl
  · exact quote
  · exact fun _ same => absurd same backslash
  · exact fun _ _ same => absurd same backslash

/-- What is written of a character is read as this character. -/
theorem readText_escapeChar (character : Char) (input : List Char) :
    readText (bound + 1) (Json.escapeChar character ++ input) =
      (readText bound input).bind fun found => some (prepend (some character) found.1, found.2) := by
  rw [Json.escapeChar]
  split
  · subst_vars; rfl
  split
  · subst_vars; rfl
  split
  · subst_vars; rfl
  split
  · subst_vars; rfl
  split
  · subst_vars; rfl
  split
  · rename_i code
    obtain rfl : character = Char.ofNat 8 := by rw [← code, Char.ofNat_toNat]
    rfl
  split
  · rename_i code
    obtain rfl : character = Char.ofNat 12 := by rw [← code, Char.ofNat_toNat]
    rfl
  split
  · rename_i control
    have unit := readUnit_hexDigits (show character.toNat < 256 by omega) input
    have scalar := readScalar_of_lt (show character.toNat < 0xD800 by omega) input
    rw [Char.ofNat_toNat] at scalar
    simp only [List.cons_append, List.nil_append, readText, unit, scalar, Option.bind_eq_bind, Option.bind_some]
  · rename_i quote backslash _ _ _ _ _ printable
    exact readText_of_plain quote backslash (Nat.not_lt.mp printable) input

/-- What is written of a text is read as this text, to its closing quote. -/
theorem readText_escaped (text : List Char) (short : (text.flatMap Json.escapeChar).length < bound) :
    readText bound (text.flatMap Json.escapeChar ++ '"' :: rest) = some (some text, rest) := by
  induction text generalizing bound with
  | nil =>
      cases bound with
      | zero => cases short
      | succ bound => rfl
  | cons first others inductionHypothesis =>
      have taken : 0 < (Json.escapeChar first).length := by
        rw [Json.escapeChar]
        repeat' split
        all_goals exact Nat.zero_lt_succ _
      rw [List.flatMap_cons, List.length_append] at short
      cases bound with
      | zero => cases short
      | succ bound =>
          rw [List.flatMap_cons, List.append_assoc, readText_escapeChar, inductionHypothesis (by omega)]
          rfl

theorem toList_escaped (text : String) :
    (Json.escaped text).toList = '"' :: (text.toList.flatMap Json.escapeChar ++ ['"']) := by
  rw [Json.escaped, String.toList_ofList]
  rfl

/-- What is left of a text is a bound for reading it. -/
theorem readText_within (text : String) (rest : List Char) :
    readText ((text.toList.flatMap Json.escapeChar ++ '"' :: rest).length + 1)
      (text.toList.flatMap Json.escapeChar ++ '"' :: rest) = some (some text.toList, rest) := by
  refine readText_escaped text.toList ?_
  rw [List.length_append]
  omega

/-! ## Numbers -/

/-- A number without a sign ends with its last digit. -/
theorem readNumber_toDigits (negative : Bool) (magnitude : Nat) (follows : Follows rest) :
    readNumber negative (Nat.toDigits 10 magnitude ++ rest) =
      some (number (numberOf negative (Nat.toDigits 10 magnitude) [] none), rest) := by
  have digits : ∀ digit ∈ Nat.toDigits 10 magnitude, Text.isDigit digit = true := fun digit listed =>
    Nat.isDigit_of_mem_toDigits (by decide) (by decide) listed
  have some : (Nat.toDigits 10 magnitude).isEmpty = false := List.isEmpty_eq_false_iff.mpr Nat.toDigits_ne_nil
  have stops : rest.takeWhile Text.isDigit = [] ∧ rest.dropWhile Text.isDigit = rest := by
    cases follows <;> exact ⟨rfl, rfl⟩
  have taken : readDigits (Nat.toDigits 10 magnitude ++ rest) = Option.some (Nat.toDigits 10 magnitude, rest) := by
    simp only [readDigits, List.takeWhile_append_of_pos digits, List.dropWhile_append_of_pos digits, stops,
      List.append_nil, some, Bool.false_eq_true, if_false]
  have leading : ¬((Nat.toDigits 10 magnitude).head? = Option.some '0' ∧
      (Nat.toDigits 10 magnitude).length ≠ 1) := by
    rintro ⟨zero, long⟩
    rw [Text.eq_zero_of_head?_toDigits zero] at long
    exact long rfl
  have fraction : readFraction rest = Option.some ([], rest) := by cases follows <;> rfl
  have exponent : readExponent rest = Option.some (none, rest) := by cases follows <;> rfl
  simp only [readNumber, taken, Option.bind_eq_bind, Option.bind_some, if_neg leading, fraction, exponent]

theorem numberOf_toDigits {magnitude : Nat} (fits : magnitude < Nat.pow 2 64) :
    numberOf false (Nat.toDigits 10 magnitude) [] none = some (.integer magnitude) := by
  simp [numberOf, Text.digitsValue_eq, Nat.ofDigitChars_ten_toDigits, fits]

theorem numberOf_negative_toDigits {magnitude : Nat} (positive : 0 < magnitude)
    (fits : magnitude ≤ Nat.pow 2 63) :
    numberOf true (Nat.toDigits 10 magnitude) [] none = some (.integer (-(magnitude : Int))) := by
  simp [numberOf, Text.digitsValue_eq, Nat.ofDigitChars_ten_toDigits, positive, fits]

theorem ne_of_isDigit {digit : Char} (decimal : digit.isDigit = true) (other : Char)
    (special : other.isDigit = false) : digit ≠ other := by
  rintro rfl
  rw [decimal] at special
  cases special

theorem skipBlanks_of_isDigit {digit : Char} (decimal : digit.isDigit = true) (input : List Char) :
    skipBlanks (digit :: input) = digit :: input := by
  refine List.dropWhile_cons_of_neg ?_
  simp [ne_of_isDigit decimal ' ' rfl, ne_of_isDigit decimal '\n' rfl, ne_of_isDigit decimal '\t' rfl,
    ne_of_isDigit decimal '\r' rfl]

/-- What begins with a digit is a number, as no other value does. -/
theorem readValue_of_isDigit {digit : Char} (decimal : digit.isDigit = true) (input : List Char) :
    readValue (bound + 1) (digit :: input) = readNumber false (digit :: input) := by
  rw [readValue, skipBlanks_of_isDigit decimal]
  split
  all_goals
    first
    | rfl
    | rename_i same
      exact absurd (List.cons.inj same).1 (ne_of_isDigit decimal _ rfl)

theorem exists_head_toDigits (number : Nat) :
    ∃ digit others, Nat.toDigits 10 number = digit :: others ∧ digit.isDigit = true := by
  rcases List.exists_cons_of_ne_nil (Nat.toDigits_ne_nil (n := number) (b := 10)) with ⟨digit, others, parts⟩
  have listed : digit ∈ Nat.toDigits 10 number := by
    rw [parts]
    exact List.mem_cons_self
  exact ⟨digit, others, parts, Nat.isDigit_of_mem_toDigits (by decide) (by decide) listed⟩

/-! ## Values -/

theorem toList_compact_ofNat (magnitude : Nat) :
    (Json.compact (.integer (Int.ofNat magnitude))).toList = Nat.toDigits 10 magnitude := by
  have shown : Json.compact (.integer (Int.ofNat magnitude)) = toString magnitude := by
    rw [Json.compact, Json.atomText]
    rfl
  rw [shown, Nat.toString_eq_ofList_toDigits, String.toList_ofList]

theorem toList_compact_negSucc (magnitude : Nat) :
    (Json.compact (.integer (Int.negSucc magnitude))).toList = '-' :: Nat.toDigits 10 (magnitude + 1) := by
  rw [Json.compact, Json.atomText, Int.toString_eq_repr, Int.repr]
  simp [Nat.repr_eq_ofList_toDigits]

/-- Whether a text begins with neither a blank nor a bracket that closes an array. -/
def StartsValue (text : List Char) : Prop :=
  ∃ first others, text = first :: others ∧ skipBlanks (first :: others) = first :: others ∧ first ≠ ']'

theorem startsValue_compact {document : Json} (exact : document.IsExact) (rest : List Char) :
    StartsValue ((Json.compact document).toList ++ rest) := by
  cases document with
  | null => exact ⟨'n', _, by rw [Json.compact]; rfl, rfl, by decide⟩
  | bool value => cases value <;> exact ⟨_, _, by rw [Json.compact]; rfl, rfl, by decide⟩
  | integer value =>
      cases value with
      | ofNat magnitude =>
          rcases exists_head_toDigits magnitude with ⟨digit, others, parts, decimal⟩
          rw [toList_compact_ofNat, parts]
          exact ⟨digit, _, rfl, skipBlanks_of_isDigit decimal _, ne_of_isDigit decimal _ rfl⟩
      | negSucc magnitude =>
          rw [toList_compact_negSucc]
          exact ⟨'-', _, rfl, rfl, by decide⟩
  | decimal value => exact exact.elim
  | string text => 
      rw [Json.compact, Json.atomText, Json.escaped, String.toList_ofList]
      exact ⟨'"', _, rfl, rfl, by decide⟩
  | array items => 
      cases items with
      | nil => exact ⟨'[', _, by rw [Json.compact]; rfl, rfl, by decide⟩
      | cons first others =>
          rw [Json.compact]
          simp only [String.toList_append]
          exact ⟨'[', _, rfl, rfl, by decide⟩
  | object members => 
      cases members with
      | nil => exact ⟨'\x7b', _, by rw [Json.compact]; rfl, rfl, by decide⟩
      | cons first others =>
          rw [Json.compact]
          simp only [String.toList_append]
          exact ⟨'\x7b', _, rfl, rfl, by decide⟩

/-- Whether a document is read back from what is written of it, whatever follows. -/
def IsRead (document : Json) : Prop :=
  ∀ (bound : Nat) (rest : List Char), Follows rest → 2 * (Json.compact document).length ≤ bound →
    readValue bound ((Json.compact document).toList ++ rest) = some (.ofJson document, rest)

/-- What holds no other values is read in one step. -/
theorem isRead_of_atom {document : Json} (long : 0 < (Json.compact document).length)
    (reads : ∀ bound rest, Follows rest →
      readValue (bound + 1) ((Json.compact document).toList ++ rest) = some (.ofJson document, rest)) :
    IsRead document := by
  intro bound rest follows enough
  cases bound with
  | zero => omega
  | succ bound => exact reads bound rest follows

theorem isRead_null : IsRead .null := by
  refine isRead_of_atom ?_ fun bound rest _ => ?_
  · rw [Json.compact]; decide
  · rw [Json.compact]; rfl

theorem isRead_bool (value : Bool) : IsRead (.bool value) := by
  refine isRead_of_atom ?_ fun bound rest _ => ?_
  · rw [Json.compact]
    cases value <;> decide
  · rw [Json.compact]
    cases value <;> rfl

theorem isRead_string (text : String) : IsRead (.string text) := by
  have shown : (Json.compact (.string text)).toList = (Json.escaped text).toList := by
    rw [Json.compact, Json.atomText]
  rw [toList_escaped] at shown
  refine isRead_of_atom ?_ fun bound rest _ => ?_
  · rw [← String.length_toList, shown]
    exact Nat.zero_lt_succ _
  · have step (input : List Char) : readValue (bound + 1) ('"' :: input) =
        (readText (input.length + 1) input).map fun found =>
          (string (found.1.map String.ofList), found.2) := by
      rw [readValue]
      rfl
    rw [shown, List.cons_append, List.append_assoc, List.singleton_append, step, readText_within, ofJson]
    exact congrArg (fun content => some (string (some content), rest)) String.ofList_toList

theorem isRead_integer {value : Int} (low : -(Nat.pow 2 63 : Int) ≤ value) (high : value < Nat.pow 2 64) :
    IsRead (.integer value) := by
  cases value with
  | ofNat magnitude =>
      rcases exists_head_toDigits magnitude with ⟨digit, others, parts, decimal⟩
      have fits : magnitude < Nat.pow 2 64 := Int.ofNat_lt.mp high
      refine isRead_of_atom ?_ fun bound rest follows => ?_
      · rw [← String.length_toList, toList_compact_ofNat]
        exact Nat.length_toDigits_pos
      · have read := readNumber_toDigits false magnitude follows
        rw [numberOf_toDigits fits] at read
        rw [toList_compact_ofNat, parts, List.cons_append, readValue_of_isDigit decimal, ← List.cons_append,
          ← parts, read]
        rfl
  | negSucc magnitude =>
      have fits : magnitude + 1 ≤ Nat.pow 2 63 := by
        rw [Int.negSucc_eq] at low
        omega
      refine isRead_of_atom ?_ fun bound rest follows => ?_
      · rw [← String.length_toList, toList_compact_negSucc]
        exact Nat.zero_lt_succ _
      · have read := readNumber_toDigits true (magnitude + 1) follows
        rw [numberOf_negative_toDigits (Nat.zero_lt_succ magnitude) fits] at read
        have step (input : List Char) : readValue (bound + 1) ('-' :: input) = readNumber true input := by
          rw [readValue]
          rfl
        rw [toList_compact_negSucc, List.cons_append, step, read]
        rfl

/-! ## Arrays and objects -/

theorem follows_compactItems (items : List Json) (rest : List Char) :
    Follows ((Json.compactItems items).toList ++ ']' :: rest) := by
  cases items with
  | nil =>
      rw [Json.compactItems]
      exact .bracket rest
  | cons first others =>
      rw [Json.compactItems]
      simp only [String.toList_append]
      exact .comma _

theorem follows_compactMembers (members : List (String × Json)) (rest : List Char) :
    Follows ((Json.compactMembers members).toList ++ '\x7d' :: rest) := by
  cases members with
  | nil =>
      rw [Json.compactMembers]
      exact .brace rest
  | cons first others =>
      rw [Json.compactMembers]
      simp only [String.toList_append]
      exact .comma _

/-- Items that are read one by one are read in a row, to the bracket that closes their array. -/
theorem readItems_of_isRead (rest : List Char) {first : Json} {items : List Json} (read : IsRead first)
    (others : ∀ item ∈ items, IsRead item)
    (enough : 2 * ((Json.compact first).length + (Json.compactItems items).length) < bound) :
    readItems bound ((Json.compact first).toList ++ ((Json.compactItems items).toList ++ ']' :: rest)) =
      some (ofJson first :: ofItems items, rest) := by
  induction items generalizing first bound with
  | nil =>
      cases bound with
      | zero => cases enough
      | succ bound =>
          rw [readItems, read bound _ (follows_compactItems [] rest) (by omega)]
          rw [Json.compactItems]
          rfl
  | cons second more inductionHypothesis =>
      rcases List.forall_mem_cons.mp others with ⟨next, later⟩
      cases bound with
      | zero => cases enough
      | succ bound =>
          have shown : (Json.compactItems (second :: more)).toList =
              ',' :: ((Json.compact second).toList ++ (Json.compactItems more).toList) := by
            rw [Json.compactItems, String.toList_append, String.toList_append]
            rfl
          have length := congrArg List.length shown
          rw [List.length_cons, List.length_append, String.length_toList, String.length_toList,
            String.length_toList] at length
          have onward := inductionHypothesis next later (show _ < bound by omega)
          rw [readItems, read bound _ (follows_compactItems (second :: more) rest) (by omega), shown,
            List.cons_append, List.append_assoc]
          change (readItems bound _).bind (fun found => some (ofJson first :: found.1, found.2)) = _
          rw [onward]
          rfl

/-- A name that is read goes before the value under it. -/
theorem readMembers_cons {name : String} {value : Json} (read : IsRead value)
    (enough : 2 * (Json.compact value).length ≤ bound) (follows : Follows rest) :
    readMembers (bound + 1) ((Json.escaped name).toList ++ ':' :: ((Json.compact value).toList ++ rest)) =
      match skipBlanks rest with
      | '\x7d' :: after => some ([(some name, ofJson value)], after)
      | ',' :: more =>
        (readMembers bound more).bind fun found => some ((some name, ofJson value) :: found.1, found.2)
      | _ => none := by
  rw [toList_escaped, List.cons_append, List.append_assoc, List.singleton_append, readMembers]
  change (readText _ _).bind _ = _
  rw [readText_within]
  change (readValue bound _).bind _ = _
  rw [read bound rest follows enough, Option.map_some, String.ofList_toList]
  rfl

/-- Members that are read one by one are read in a row, to the brace that closes their object. -/
theorem readMembers_of_isRead (rest : List Char) (name : String) {first : Json} {members : List (String × Json)}
    (read : IsRead first) (others : ∀ entry ∈ members, IsRead entry.2)
    (enough : 2 * ((Json.compact first).length + (Json.compactMembers members).length) < bound) :
    readMembers bound ((Json.escaped name).toList ++
        (':' :: ((Json.compact first).toList ++ ((Json.compactMembers members).toList ++ '\x7d' :: rest)))) =
      some ((some name, ofJson first) :: ofMembers members, rest) := by
  induction members generalizing name first bound with
  | nil =>
      cases bound with
      | zero => cases enough
      | succ bound =>
          rw [readMembers_cons read (by omega) (follows_compactMembers [] rest), Json.compactMembers]
          rfl
  | cons second more inductionHypothesis =>
      rcases List.forall_mem_cons.mp others with ⟨next, later⟩
      cases bound with
      | zero => cases enough
      | succ bound =>
          have shown : (Json.compactMembers (second :: more)).toList =
              ',' :: ((Json.escaped second.1).toList ++
                ':' :: ((Json.compact second.2).toList ++ (Json.compactMembers more).toList)) := by
            rw [Json.compactMembers]
            simp only [String.toList_append, List.append_assoc]
            rfl
          have length := congrArg List.length shown
          simp only [List.length_cons, List.length_append, String.length_toList] at length
          have onward := inductionHypothesis second.1 next later (show _ < bound by omega)
          rw [readMembers_cons read (by omega) (follows_compactMembers (second :: more) rest), shown]
          simp only [List.cons_append, List.append_assoc]
          change (readMembers bound _).bind
            (fun found => some ((some name, ofJson first) :: found.1, found.2)) = _
          rw [onward]
          rfl

theorem readValue_bracket {first : Char} {others : List Char}
    (solid : skipBlanks (first :: others) = first :: others) (apart : first ≠ ']') :
    readValue (bound + 1) ('[' :: first :: others) =
      (readItems bound (first :: others)).map fun found => (array found.1, found.2) := by
  have bracket : skipBlanks ('[' :: first :: others) = '[' :: first :: others := rfl
  simp only [readValue, bracket, solid]
  split
  · rename_i same
    exact absurd (List.cons.inj same).1 apart
  · rfl

theorem isRead_array {items : List Json} (exact : Json.AreExact items) (read : ∀ item ∈ items, IsRead item) :
    IsRead (.array items) := by
  cases items with
  | nil =>
      refine isRead_of_atom ?_ fun bound rest _ => ?_
      · rw [Json.compact]; decide
      · rw [Json.compact]; rfl
  | cons first others =>
      rcases List.forall_mem_cons.mp read with ⟨head, tail⟩
      have shown : (Json.compact (.array (first :: others))).toList =
          '[' :: ((Json.compact first).toList ++ ((Json.compactItems others).toList ++ [']'])) := by
        rw [Json.compact]
        simp only [String.toList_append, List.append_assoc]
        rfl
      have length := congrArg List.length shown
      simp only [List.length_cons, List.length_append, String.length_toList, List.length_nil] at length
      intro bound rest _ enough
      cases bound with
      | zero => omega
      | succ bound =>
          rcases startsValue_compact exact.1 ((Json.compactItems others).toList ++ ']' :: rest) with
            ⟨start, more, text, solid, apart⟩
          have inner := readItems_of_isRead rest head tail (show _ < bound by omega)
          rw [text] at inner
          rw [shown]
          simp only [List.cons_append, List.append_assoc, List.nil_append, text]
          rw [readValue_bracket solid apart, inner]
          rfl

theorem isRead_object {members : List (String × Json)} (read : ∀ entry ∈ members, IsRead entry.2) :
    IsRead (.object members) := by
  cases members with
  | nil =>
      refine isRead_of_atom ?_ fun bound rest _ => ?_
      · rw [Json.compact]; decide
      · rw [Json.compact]; rfl
  | cons first others =>
      rcases List.forall_mem_cons.mp read with ⟨head, tail⟩
      have shown : (Json.compact (.object (first :: others))).toList =
          '\x7b' :: ((Json.escaped first.1).toList ++
            ':' :: ((Json.compact first.2).toList ++ ((Json.compactMembers others).toList ++ ['\x7d']))) := by
        rw [Json.compact]
        simp only [String.toList_append, List.append_assoc]
        rfl
      have length := congrArg List.length shown
      simp only [List.length_cons, List.length_append, String.length_toList, List.length_nil] at length
      intro bound rest _ enough
      cases bound with
      | zero => omega
      | succ bound =>
          have inner := readMembers_of_isRead rest first.1 head tail (show _ < bound by omega)
          rw [toList_escaped] at inner
          rw [shown, toList_escaped]
          simp only [List.cons_append, List.append_assoc, List.nil_append] at inner ⊢
          rw [readValue]
          change (readMembers bound _).map _ = _
          rw [inner]
          rfl

mutual

/-- A document with exact numbers is read back. -/
theorem isRead_of_isExact : ∀ document : Json, document.IsExact → IsRead document
  | .null, _ => isRead_null
  | .bool value, _ => isRead_bool value
  | .integer _, exact => isRead_integer exact.1 exact.2
  | .decimal _, exact => exact.elim
  | .string text, _ => isRead_string text
  | .array items, exact => isRead_array exact (isRead_of_areExact items exact)
  | .object members, exact => isRead_object (isRead_of_haveExactValues members exact)

/-- And so are all items. -/
theorem isRead_of_areExact : ∀ items : List Json, Json.AreExact items → ∀ item ∈ items, IsRead item
  | [], _ => List.forall_mem_nil _
  | first :: rest, exact =>
    List.forall_mem_cons.mpr ⟨isRead_of_isExact first exact.1, isRead_of_areExact rest exact.2⟩

/-- And the values of all members. -/
theorem isRead_of_haveExactValues : ∀ members : List (String × Json), Json.HaveExactValues members →
    ∀ entry ∈ members, IsRead entry.2
  | [], _ => List.forall_mem_nil _
  | (_, value) :: rest, exact =>
    List.forall_mem_cons.mpr ⟨isRead_of_isExact value exact.1, isRead_of_haveExactValues rest exact.2⟩

end

/-- What is written of a document with exact numbers is a text that holds this document. -/
theorem parse_compact {document : Json} (exact : document.IsExact) :
    parse (Json.compact document) = some (.ofJson document) := by
  have read := isRead_of_isExact document exact (2 * (Json.compact document).length + 2) [] .nothing (by omega)
  rw [List.append_nil] at read
  rw [parse, read]
  rfl

end RawJson
end Testbed
