import Testbed.Instance.Files
import Testbed.Proofs.Text.Numeral

namespace Testbed

/-!
# Owners in words

The owner of a file is a user and a group, both as numbers, with a colon between them.  Such a number may have a
sign and any number of zeros before it, so one owner can be spelled in many ways; but nothing else is taken for an
owner.  A number that needs more than 64 bits is refused like a text that is no number at all.
-/

namespace Owner

variable {owner : String} {text before after digits : List Char} {user group : Int64} {number : Int64} {value : Int}

/-! ## Numbers of users and groups -/

/-- Whether a text is the number of a user or of a group: an integer that is not negative and fits into 64 bits
with a sign. -/
structure IsId (text : List Char) (value : Int) : Prop where
  numeral : Text.IsInteger text value
  natural : 0 ≤ value
  small : value < Nat.pow 2 63

theorem number?_eq_some_iff : number? text = some number ↔ IsId text number.toInt := by
  have small : number.toInt < Nat.pow 2 63 := number.toInt_lt
  rw [number?, Option.filter_eq_some_iff, Text.int64?_eq_some_iff, decide_eq_true_eq, Int64.le_iff_toInt_le]
  exact ⟨fun read => ⟨read.1, read.2, small⟩, fun id => ⟨id.numeral, id.natural⟩⟩

namespace IsId

/-- Numbers of users and groups fit into their type. -/
theorem exists_word (id : IsId text value) : ∃ number : Int64, number.toInt = value := by
  have natural := id.natural
  exact ⟨Int64.ofInt value, Int64.toInt_ofInt_of_le (by omega) id.small⟩

/-- The usual numeral of a number, without a sign or zeros before it. -/
theorem toString (natural : 0 ≤ value) (small : value < Nat.pow 2 63) : IsId (toString value).toList value := by
  rcases Int.eq_ofNat_of_zero_le natural with ⟨count, rfl⟩
  exact ⟨.natural (Text.IsNumeral.ofNat count), natural, small⟩

theorem colon_not_mem (id : IsId text value) : ':' ∉ text := by
  intro listed
  rcases id.numeral.mem ':' listed with digit | sign | sign
  · exact absurd digit (by decide)
  · exact absurd sign (by decide)
  · exact absurd sign (by decide)

end IsId

/-- A minus sign stands before zeros only. -/
theorem isId_minus_iff :
    IsId ('-' :: digits) value ↔ value = 0 ∧ digits ≠ [] ∧ ∀ digit ∈ digits, digit = '0' := by
  constructor
  · rintro ⟨numeral, natural, _⟩
    rcases Text.isInteger_minus_iff.mp numeral with ⟨magnitude, read, rfl⟩
    rcases Text.digits?_eq_some_iff.mp read with ⟨nonempty, decimal, same⟩
    obtain rfl : magnitude = 0 := by omega
    exact ⟨rfl, nonempty, (Text.ofDigitChars_eq_zero_iff decimal).mp same⟩
  · rintro ⟨rfl, nonempty, zeros⟩
    have decimal : ∀ digit ∈ digits, digit.isDigit = true := fun digit listed => zeros digit listed ▸ rfl
    have zero := (Text.ofDigitChars_eq_zero_iff decimal).mpr zeros
    have read : Text.digits? digits = some 0 := Text.digits?_eq_some_iff.mpr ⟨nonempty, decimal, zero⟩
    exact ⟨Text.isInteger_minus_iff.mpr ⟨0, read, rfl⟩, Int.le_refl 0, by decide⟩

/-! ## Pairs of numbers -/

/-- Whether a text names a user and a group, which its first colon separates. -/
def Names (owner : String) (user group : Int) : Prop :=
  ∃ before after, owner.toList = before ++ ':' :: after ∧ ':' ∉ before ∧ IsId before user ∧ IsId after group

theorem bne_colon_of_mem (absent : ':' ∉ text) : ∀ character ∈ text, (character != ':') = true :=
  fun _ listed => bne_iff_ne.mpr fun same => absent (same ▸ listed)

theorem parse_of_split (parts : owner.toList = before ++ ':' :: after) (first : ':' ∉ before) :
    parse owner = (do
      let user ← number? before
      let group ← number? after
      some (user, group)) := by
  have stays := bne_colon_of_mem first
  have taken : owner.toList.takeWhile (· != ':') = before := by
    rw [parts, List.takeWhile_append_of_pos stays, List.takeWhile_cons_of_neg (by decide), List.append_nil]
  have left : owner.toList.dropWhile (· != ':') = ':' :: after := by
    rw [parts, List.dropWhile_append_of_pos stays, List.dropWhile_cons_of_neg (by decide)]
  rw [parse, left, taken]

theorem parse_of_absent (absent : ':' ∉ owner.toList) : parse owner = none := by
  rw [parse, List.dropWhile_eq_nil_iff.mpr (bne_colon_of_mem absent)]

/-- Reading an owner gives the user and the group that it names. -/
theorem parse_eq_some_iff : parse owner = some (user, group) ↔ Names owner user.toInt group.toInt := by
  constructor
  · intro read
    by_cases separated : ':' ∈ owner.toList
    · rcases List.eq_append_cons_of_mem separated with ⟨before, after, parts, first⟩
      rw [parse_of_split parts first] at read
      rcases Option.bind_eq_some_iff.mp read with ⟨_, named, also⟩
      rcases Option.bind_eq_some_iff.mp also with ⟨_, grouped, ⟨⟩⟩
      exact ⟨before, after, parts, first, number?_eq_some_iff.mp named, number?_eq_some_iff.mp grouped⟩
    · rw [parse_of_absent separated] at read
      cases read
  · rintro ⟨before, after, parts, first, named, grouped⟩
    rw [parse_of_split parts first, number?_eq_some_iff.mpr named, number?_eq_some_iff.mpr grouped]
    rfl

/-- Of what names no user and group, nothing is read. -/
theorem parse_eq_none_iff : parse owner = none ↔ ∀ user group, ¬Names owner user group := by
  constructor
  · rintro unread user group ⟨before, after, parts, first, named, grouped⟩
    rcases named.exists_word with ⟨user, rfl⟩
    rcases grouped.exists_word with ⟨group, rfl⟩
    have read := parse_eq_some_iff.mpr ⟨before, after, parts, first, named, grouped⟩
    rw [unread] at read
    cases read
  · intro nameless
    rw [Option.eq_none_iff_forall_ne_some]
    exact fun pair read => nameless _ _ (parse_eq_some_iff.mp read)

namespace Names

variable {user group : Int}

/-- There is one colon in the name of an owner. -/
theorem count_colon (names : Names owner user group) : owner.toList.count ':' = 1 := by
  rcases names with ⟨before, after, parts, first, _, grouped⟩
  rw [parts, List.count_append, List.count_cons_self, List.count_eq_zero.mpr first,
    List.count_eq_zero.mpr grouped.colon_not_mem]

/-- Digits, signs and the colon are all there is in the name of an owner. -/
theorem mem (names : Names owner user group) :
    ∀ character ∈ owner.toList, character.isDigit = true ∨ character ∈ ['+', '-', ':'] := by
  rcases names with ⟨before, after, parts, _, named, grouped⟩
  have part {text : List Char} {value : Int} (id : IsId text value) :
      ∀ character ∈ text, character.isDigit = true ∨ character ∈ ['+', '-', ':'] := by
    intro character listed
    refine (id.numeral.mem character listed).imp_right ?_
    rintro (rfl | rfl)
    · exact List.mem_cons_self
    · exact List.mem_cons_of_mem _ List.mem_cons_self
  intro character listed
  rw [parts] at listed
  rcases List.mem_append.mp listed with front | back
  · exact part named character front
  · rcases List.mem_cons.mp back with rfl | behind
    · exact Or.inr (by decide)
    · exact part grouped character behind

end Names

/-- The usual name of an owner has neither signs nor zeros before its numbers. -/
theorem names_toString {user group : Int} (natural : 0 ≤ user) (small : user < Nat.pow 2 63) (also : 0 ≤ group)
    (little : group < Nat.pow 2 63) : Names (toString user ++ ":" ++ toString group) user group := by
  have named := IsId.toString natural small
  refine ⟨_, _, ?_, named.colon_not_mem, named, IsId.toString also little⟩
  rw [String.toList_append, String.toList_append, List.append_assoc]
  rfl

end Owner

namespace Instance

variable {workload : Instance} {owner : String}

theorem parseOwner_eq_ok_iff {user group : Int64} :
    workload.parseOwner owner = .ok (user, group) ↔ Owner.Names owner user.toInt group.toInt := by
  rw [← Owner.parse_eq_some_iff, parseOwner]
  cases Owner.parse owner with
  | none => simp only [reduceCtorEq]
  | some pair => simp only [Except.ok.injEq, Option.some.injEq]

theorem parseOwner_of_nameless (nameless : ∀ user group, ¬Owner.Names owner user group) :
    workload.parseOwner owner = .error (.validation workload.name (.badOwner owner)) := by
  rw [parseOwner, Owner.parse_eq_none_iff.mpr nameless]
  rfl

end Instance

/-- The owner of a file is read as a user and a group exactly if it names them: as two integers between zero and
the greatest of 64 bits with a sign, in decimal digits that may have a sign before them, with the first colon
between them.  So there is no other colon in it and no blank, and a minus sign stands before zeros only.
Every other text is refused as invalid input, whatever the reason.  The usual spelling of a user and a group is
read as the two numbers that it is made of. -/
theorem owners_are_read :
    (∀ (workload : Instance) (owner : String) (user group : Int64),
      workload.parseOwner owner = .ok (user, group) ↔ Owner.Names owner user.toInt group.toInt) ∧
    (∀ (workload : Instance) (owner : String),
      (∃ user group : Int64,
        Owner.Names owner user.toInt group.toInt ∧ workload.parseOwner owner = .ok (user, group)) ∨
      (∀ user group, ¬Owner.Names owner user group) ∧
        workload.parseOwner owner = .error (.validation workload.name (.badOwner owner))) ∧
    (∀ owner user group, Owner.Names owner user group →
      owner.toList.count ':' = 1 ∧
        ∀ character ∈ owner.toList, character.isDigit = true ∨ character ∈ ['+', '-', ':']) ∧
    (∀ digits value, Owner.IsId ('-' :: digits) value ↔
      value = 0 ∧ digits ≠ [] ∧ ∀ digit ∈ digits, digit = '0') ∧
    ∀ (workload : Instance) (user group : Int64), 0 ≤ user → 0 ≤ group →
      workload.parseOwner (toString user.toInt ++ ":" ++ toString group.toInt) = .ok (user, group) := by
  refine ⟨fun _ _ _ _ => Instance.parseOwner_eq_ok_iff, fun workload owner => ?_,
    fun _ _ _ names => ⟨names.count_colon, names.mem⟩, fun _ _ => Owner.isId_minus_iff, ?_⟩
  · cases read : Owner.parse owner with
    | none =>
        have nameless := Owner.parse_eq_none_iff.mp read
        exact Or.inr ⟨nameless, Instance.parseOwner_of_nameless nameless⟩
    | some pair =>
        have names := Owner.parse_eq_some_iff.mp read
        exact Or.inl ⟨pair.1, pair.2, names, Instance.parseOwner_eq_ok_iff.mpr names⟩
  · intro workload user group natural also
    rw [Int64.le_iff_toInt_le] at natural also
    exact Instance.parseOwner_eq_ok_iff.mpr (Owner.names_toString natural user.toInt_lt also group.toInt_lt)

/-- An instance that is given files. -/
def Instance.filed : Instance :=
  { id := ⟨0⟩, name := "web", clusterName := "web-0a1b2c3d" }

/-- Signs and zeros are accepted before numbers, and the greatest number is.  The next one is no number of a user. -/
theorem owners_are_read_at_limit :
    Instance.filed.parseOwner "+007:-00" = .ok (7, 0) ∧ "+007:-00".toList.count ':' = 1 ∧
      Owner.IsId ['-', '0', '0'] 0 ∧
      Instance.filed.parseOwner "9223372036854775807:0" = .ok (9223372036854775807, 0) ∧
      ∀ user group, ¬Owner.Names "9223372036854775808:0" user group := by
  have read : Instance.filed.parseOwner "+007:-00" = .ok (7, 0) := by decide
  have refused : Instance.filed.parseOwner "9223372036854775808:0" =
      .error (.validation "web" (.badOwner "9223372036854775808:0")) := by decide
  have names := (owners_are_read.1 _ _ _ _).mp read
  refine ⟨read, (owners_are_read.2.2.1 _ _ _ names).1, ?_, ?_, ?_⟩
  · have zeros : ∀ digit ∈ ['0', '0'], digit = '0' :=
      List.forall_mem_cons.mpr ⟨rfl, List.forall_mem_singleton.mpr rfl⟩
    exact (owners_are_read.2.2.2.1 _ _).mpr ⟨rfl, List.cons_ne_nil _ _, zeros⟩
  · exact owners_are_read.2.2.2.2 Instance.filed 9223372036854775807 0 (by decide) (by decide)
  · rcases owners_are_read.2.1 Instance.filed "9223372036854775808:0" with ⟨_, _, _, accepted⟩ | ⟨nameless, _⟩
    · rw [refused] at accepted
      cases accepted
    · exact nameless

end Testbed
