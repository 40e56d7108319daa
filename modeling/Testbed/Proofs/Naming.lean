import Mathlib.Data.List.DropRight
import Mathlib.Data.List.Infix
import Mathlib.Data.String.Basic
import Testbed.Naming
import Testbed.Proofs.Text.Numeral
import Testbed.Text.Basic

namespace Testbed

/-!
# Names that the cluster accepts

A human name is folded in two ways.  As the beginning of a cluster name it keeps small letters and digits, as the
value of a label also capitals, dots and underscores.  Both ways give back what already has the form they lead
to: cutting never leaves more than the trimming that follows removes, and nothing that has the form is cut,
trimmed or replaced.  A cluster name adds eight digits, and the names made from it stay labels.
-/

namespace Text

/-! ## Lower case -/

variable {character other : Char}

/-- Whether a character is a capital of ASCII. -/
def IsCapital (character : Char) : Prop :=
  'A' ≤ character ∧ character ≤ 'Z'

theorem lowercase_of_ascii (ascii : character.toNat < 128) (small : ¬IsCapital character) :
    lowercase character = [character] := by
  rw [lowercase]
  exact (if_neg small).trans (if_pos ascii)

/-- A character with a code above that of `Z`, or with none, is not a capital. -/
theorem not_isCapital_ofNat {code : Nat} (above : 90 < code) : ¬IsCapital (Char.ofNat code) := by
  rintro ⟨lower, upper⟩
  have bounds : 65 ≤ (Char.ofNat code).toNat ∧ (Char.ofNat code).toNat ≤ 90 := ⟨lower, upper⟩
  by_cases valid : code.isValidChar
  · have same : (Char.ofNat code).toNat = code := by
      rw [Char.ofNat, dif_pos valid]
      rfl
    omega
  · have zero : (Char.ofNat code).toNat = 0 := by
      rw [Char.ofNat, dif_neg valid]
      rfl
    omega

/-- Every run of characters with a lower-case form is sent behind the capitals. -/
theorem lowercaseRuns_above : ∀ run ∈ lowercaseRuns, 90 < (run.1 : Int) + run.2.2.2 := by
  decide +kernel

/-- No character has a capital in its lower-case form. -/
theorem not_isCapital_of_mem_lowercase (member : other ∈ lowercase character) : ¬IsCapital other := by
  rw [lowercase] at member
  split at member
  · next capital =>
      rw [List.mem_singleton.mp member]
      have code : 65 ≤ character.toNat := capital.1
      exact not_isCapital_ofNat (by omega)
  · next noCapital =>
      split at member
      · exact List.mem_singleton.mp member ▸ noCapital
      · split at member
        · rcases List.mem_pair.mp member with rfl | rfl
          · exact fun capital => absurd capital.2 (by decide)
          · exact not_isCapital_ofNat (by decide)
        · split at member
          · next run found =>
              rw [List.mem_singleton.mp member]
              have above := lowercaseRuns_above run (List.mem_of_find?_eq_some found)
              have within := List.find?_some found
              simp only [Bool.and_eq_true, decide_eq_true_eq] at within
              exact not_isCapital_ofNat (by omega)
          · exact List.mem_singleton.mp member ▸ noCapital

/-! ## Separators -/

/-- What stands behind the last separator of two equal texts is equal. -/
theorem append_separator_inj {separator : Char} {first second another rest : List Char} (free : separator ∉ second)
    (also : separator ∉ rest) (same : first ++ separator :: second = another ++ separator :: rest) :
    first = another ∧ second = rest := by
  have behind {before after : List Char} (none : separator ∉ after) :
      (before ++ separator :: after).reverse.takeWhile (· != separator) = after.reverse := by
    rw [List.reverse_append, List.reverse_cons, List.append_assoc, List.takeWhile_append_of_pos]
    · simp
    · intro character member
      exact bne_iff_ne.mpr fun separates => none (separates ▸ List.mem_reverse.mp member)
  have ends : second = rest := by
    have reversed := congrArg (fun text => text.reverse.takeWhile (· != separator)) same
    rw [behind free, behind also] at reversed
    exact List.reverse_inj.mp reversed
  subst ends
  exact ⟨List.append_cancel_right same, rfl⟩

end Text

namespace Naming

/-! ## Labels -/

/-- Whether a character may stand in a label. -/
def isLabelChar (character : Char) : Bool :=
  ('a' ≤ character && character ≤ 'z') || ('0' ≤ character && character ≤ '9') || character == '-'

/-- Whether a name is a label: small letters, digits, and hyphens that do not stand at its ends. -/
def isLabel (name : String) : Bool :=
  !name.isEmpty && name.length ≤ maxLabelLength && name.toList.head? != some '-' &&
    name.toList.getLast? != some '-' && name.toList.all isLabelChar

variable {name text : String} {character : Char} {characters : List Char}

theorem toNat_of_isLabelChar (plain : isLabelChar character = true) :
    (97 ≤ character.toNat ∧ character.toNat ≤ 122) ∨ (48 ≤ character.toNat ∧ character.toNat ≤ 57) ∨
      character.toNat = 45 := by
  simp only [isLabelChar, Bool.or_eq_true, Bool.and_eq_true, decide_eq_true_eq, beq_iff_eq] at plain
  rcases plain with (letter | digit) | rfl
  · exact Or.inl letter
  · exact Or.inr (Or.inl digit)
  · exact Or.inr (Or.inr rfl)

theorem isLabel_all (label : isLabel name = true) : ∀ character ∈ name.toList, isLabelChar character = true := by
  simp only [isLabel, Bool.and_eq_true, List.all_eq_true] at label
  exact label.2

theorem isLabel_isEmpty (label : isLabel name = true) : name.isEmpty = false := by
  simp only [isLabel, Bool.and_eq_true, Bool.not_eq_true'] at label
  exact label.1.1.1.1

/-- Whether a name is a label of no more bytes than a limit says. -/
def IsLabelWithin (limit : Nat) (name : String) : Prop :=
  isLabel name = true ∧ name.utf8ByteSize ≤ limit

theorem ascii_of_isLabelChar (plain : isLabelChar character = true) : character.toNat < 128 := by
  have code := toNat_of_isLabelChar plain
  omega

/-- A text of ASCII has as many bytes as characters. -/
theorem utf8ByteSize_eq_length (ascii : ∀ character ∈ text.toList, character.toNat < 128) :
    text.utf8ByteSize = text.toList.length := by
  have listed (characters : List Char) (ascii : ∀ character ∈ characters, character.toNat < 128) :
      String.utf8Len characters = characters.length := by
    induction characters with
    | nil => rfl
    | cons first rest inductionHypothesis =>
        rcases List.forall_mem_cons.mp ascii with ⟨firstAscii, restAscii⟩
        have single : first.utf8Size = 1 := by
          rw [Char.utf8Size_eq_one_iff, UInt32.le_iff_toNat_le]
          exact Nat.le_of_lt_succ firstAscii
        rw [String.utf8Len_cons, inductionHypothesis restAscii, single, List.length_cons]
  have whole := listed text.toList ascii
  rwa [← String.utf8ByteSize_ofList, String.ofList_toList] at whole

/-! ## Forms of folded names -/

/-- Whether a character is a small letter or a digit. -/
def isSmallAlphanumeric (character : Char) : Bool :=
  ('a' ≤ character && character ≤ 'z') || ('0' ≤ character && character ≤ '9')

/-- Whether a character may stand in the value of a label. -/
def isValueChar (character : Char) : Bool :=
  isAlphanumeric character || character == '_' || character == '.' || character == '-'

/-- Whether no dash follows a dash. -/
def IsSingle (characters : List Char) : Prop :=
  ¬['-', '-'] <:+: characters

/-- Whether a text has characters of one sort at its ends and characters of another throughout, and not more bytes
than a limit says.  An empty text has this form. -/
structure IsFramed (ends inner : Char → Bool) (limit : Nat) (text : String) : Prop where
  head : ∀ character ∈ text.toList.head?, ends character = true
  last : ∀ character ∈ text.toList.getLast?, ends character = true
  plain : ∀ character ∈ text.toList, inner character = true
  short : text.utf8ByteSize ≤ limit

/-- Whether moreover no dash follows a dash. -/
structure IsTidy (ends inner : Char → Bool) (limit : Nat) (text : String) : Prop
    extends IsFramed ends inner limit text where
  single : IsSingle text.toList

/-- What a human name may be folded into at the beginning of a cluster name. -/
def IsBase (text : String) : Prop :=
  IsTidy isSmallAlphanumeric isLabelChar 39 text

/-- What a human name may be folded into as the value of a label. -/
def IsTidyValue (text : String) : Prop :=
  IsTidy isAlphanumeric isValueChar 63 text

/-- What the cluster accepts as the value of a label. -/
def IsValue (text : String) : Prop :=
  IsFramed isAlphanumeric isValueChar 63 text

instance (ends inner : Char → Bool) (limit : Nat) (text : String) : Decidable (IsFramed ends inner limit text) :=
  decidable_of_iff (text.toList.head?.all ends = true ∧ text.toList.getLast?.all ends = true ∧
      text.toList.all inner = true ∧ text.utf8ByteSize ≤ limit)
    ⟨fun ⟨head, last, plain, short⟩ =>
      ⟨(Option.all_eq_true _ _).mp head, (Option.all_eq_true _ _).mp last, List.all_eq_true.mp plain, short⟩,
      fun framed => ⟨(Option.all_eq_true _ _).mpr framed.head, (Option.all_eq_true _ _).mpr framed.last,
        List.all_eq_true.mpr framed.plain, framed.short⟩⟩

instance (text : String) : Decidable (IsValue text) :=
  inferInstanceAs (Decidable (IsFramed isAlphanumeric isValueChar 63 text))

/-! ## Dashes -/

variable {afterDash : Bool}

theorem IsSingle.within {part : List Char} (single : IsSingle characters) (inside : part <:+: characters) :
    IsSingle part := fun doubled => single (doubled.trans inside)

theorem isSingle_cons {first : Char} {rest : List Char} :
    IsSingle (first :: rest) ↔ ¬(first = '-' ∧ rest.head? = some '-') ∧ IsSingle rest := by
  have doubled : ['-', '-'] <+: first :: rest ↔ first = '-' ∧ rest.head? = some '-' := by
    rw [List.cons_prefix_cons, eq_comm]
    refine and_congr_right fun _ => ?_
    cases rest with
    | nil => simp
    | cons second others => simp [List.cons_prefix_cons, eq_comm]
  rw [IsSingle, List.infix_cons_iff, doubled, not_or, IsSingle]

theorem collapseDashes_sublist (afterDash : Bool) (characters : List Char) :
    (collapseDashes afterDash characters).Sublist characters := by
  fun_induction collapseDashes afterDash characters with
  | case1 => exact List.Sublist.slnil
  | case2 rest inductionHypothesis => exact inductionHypothesis.cons _
  | case3 afterDash rest noDash inductionHypothesis => exact inductionHypothesis.cons_cons _
  | case4 afterDash character rest different inductionHypothesis => exact inductionHypothesis.cons_cons _

/-- After a dash, no dash comes next. -/
theorem head?_collapseDashes (characters : List Char) :
    (collapseDashes true characters).head? ≠ some '-' := by
  induction characters with
  | nil => exact nofun
  | cons first rest inductionHypothesis =>
      rw [collapseDashes]
      split
      · exact inductionHypothesis
      · next different => exact fun same => different (Option.some.inj same)

theorem isSingle_collapseDashes (afterDash : Bool) (characters : List Char) :
    IsSingle (collapseDashes afterDash characters) := by
  fun_induction collapseDashes afterDash characters with
  | case1 => exact fun doubled => absurd (List.infix_nil.mp doubled) (List.cons_ne_nil _ _)
  | case2 rest inductionHypothesis => exact inductionHypothesis
  | case3 afterDash rest noDash inductionHypothesis =>
      exact isSingle_cons.mpr ⟨fun dashes => head?_collapseDashes rest dashes.2, inductionHypothesis⟩
  | case4 afterDash character rest different inductionHypothesis =>
      exact isSingle_cons.mpr ⟨fun dashes => different dashes.1, inductionHypothesis⟩

/-- Single dashes are kept. -/
theorem collapseDashes_eq_self (single : IsSingle characters)
    (starts : afterDash = true → characters.head? ≠ some '-') :
    collapseDashes afterDash characters = characters := by
  induction characters generalizing afterDash with
  | nil => rfl
  | cons first rest inductionHypothesis =>
      rcases isSingle_cons.mp single with ⟨follows, restSingle⟩
      rw [collapseDashes]
      split
      · next dash =>
          have before : afterDash = false := by
            rw [← Bool.not_eq_true]
            exact fun after => starts after (congrArg some dash)
          rw [before, if_neg Bool.false_ne_true, dash]
          exact congrArg _ (inductionHypothesis restSingle fun _ head => follows ⟨dash, head⟩)
      · exact congrArg _ (inductionHypothesis restSingle nofun)

/-! ## Folding -/

variable {ends inner trailing : Char → Bool} {limit : Nat}

theorem ascii_of_isValueChar (plain : isValueChar character = true) : character.toNat < 128 := by
  simp only [isValueChar, isAlphanumeric, Bool.or_eq_true, Bool.and_eq_true, decide_eq_true_eq, beq_iff_eq] at plain
  rcases plain with ((((letter | capital) | digit) | rfl) | rfl) | rfl
  · exact Nat.lt_of_le_of_lt letter.2 (by decide)
  · exact Nat.lt_of_le_of_lt capital.2 (by decide)
  · exact Nat.lt_of_le_of_lt digit.2 (by decide)
  · decide
  · decide
  · decide

/-- Text of ASCII has no more characters than the limit says. -/
theorem IsFramed.length_le (framed : IsFramed ends inner limit text)
    (ascii : ∀ character, inner character = true → character.toNat < 128) : text.toList.length ≤ limit := by
  rw [← utf8ByteSize_eq_length fun character member => ascii character (framed.plain character member)]
  exact framed.short

/-- A text that was cut has the form that its characters allow when it is trimmed at its end. -/
theorem isTidy_dropTrailing (ascii : ∀ character, inner character = true → character.toNat < 128)
    (plain : ∀ character ∈ characters, inner character = true)
    (head : ∀ character ∈ characters.head?, ends character = true)
    (kept : ∀ character, inner character = true → trailing character = false → ends character = true)
    (short : characters.length ≤ limit) (single : IsSingle characters) :
    IsTidy ends inner limit (String.ofList (Text.dropTrailing trailing characters)) := by
  have start : Text.dropTrailing trailing characters <+: characters :=
    List.rdropWhile_prefix trailing characters
  have also : ∀ character ∈ Text.dropTrailing trailing characters, inner character = true :=
    fun character member => plain character (start.subset member)
  refine ⟨⟨fun character first => ?_, fun character last => ?_, ?_, ?_⟩, ?_⟩
  · rcases start with ⟨rest, split⟩
    rw [String.toList_ofList, Option.mem_def] at first
    rw [← split, List.head?_append, first] at head
    exact head character rfl
  · rw [String.toList_ofList] at last
    exact kept character (also character (List.mem_of_mem_getLast? last)) (Text.last_dropTrailing last)
  · rw [String.toList_ofList]
    exact also
  · rw [utf8ByteSize_eq_length, String.toList_ofList]
    · exact Nat.le_trans start.length_le short
    · rw [String.toList_ofList]
      exact fun character member => ascii character (also character member)
  · rw [String.toList_ofList]
    exact single.within start.isInfix

theorem dropWhile_eq_self (stays : ∀ character ∈ characters.head?, trailing character = false) :
    characters.dropWhile trailing = characters := by
  cases characters with
  | nil => rfl
  | cons first rest => exact List.dropWhile_cons_of_neg (Bool.eq_false_iff.mp (stays first rfl))

/-! ## The beginning of a cluster name -/

theorem isSmallAlphanumeric_of_isLabelChar (plain : isLabelChar character = true) (different : character ≠ '-') :
    isSmallAlphanumeric character = true := by
  rw [isLabelChar, Bool.or_eq_true, beq_iff_eq] at plain
  exact plain.resolve_right different

theorem isLabelChar_of_isSmallAlphanumeric (small : isSmallAlphanumeric character = true) :
    isLabelChar character = true := by
  rw [isLabelChar, Bool.or_eq_true]
  exact Or.inl small

/-- A letter that is no capital is a small letter. -/
theorem isSmallAlphanumeric_of_isAlphanumeric (alphanumeric : isAlphanumeric character = true)
    (small : ¬Text.IsCapital character) : isSmallAlphanumeric character = true := by
  simp only [isAlphanumeric, Bool.or_eq_true, Bool.and_eq_true, decide_eq_true_eq] at alphanumeric
  simp only [isSmallAlphanumeric, Bool.or_eq_true, Bool.and_eq_true, decide_eq_true_eq]
  rcases alphanumeric with (letter | capital) | digit
  · exact Or.inl letter
  · exact absurd capital small
  · exact Or.inr digit

theorem isAlphanumeric_of_isSmallAlphanumeric (small : isSmallAlphanumeric character = true) :
    isAlphanumeric character = true := by
  rw [isSmallAlphanumeric, Bool.or_eq_true] at small
  rw [isAlphanumeric, Bool.or_eq_true, Bool.or_eq_true]
  exact small.imp_left Or.inl

theorem not_isCapital_of_isLabelChar (plain : isLabelChar character = true) : ¬Text.IsCapital character := by
  intro capital
  have bounds : 65 ≤ character.toNat ∧ character.toNat ≤ 90 := capital
  have code := toNat_of_isLabelChar plain
  omega

theorem isBase_sanitize (name : String) : IsBase (sanitize name) := by
  rw [sanitize, sanitizeChars]
  generalize folding : (name.toList.flatMap Text.lowercase).map _ = folded
  have plain : ∀ character ∈ folded, isLabelChar character = true := by
    subst folding
    refine List.forall_mem_map.mpr fun character member => ?_
    rcases List.mem_flatMap.mp member with ⟨origin, _, lowered⟩
    split
    · next alphanumeric =>
        exact isLabelChar_of_isSmallAlphanumeric
          (isSmallAlphanumeric_of_isAlphanumeric alphanumeric (Text.not_isCapital_of_mem_lowercase lowered))
    · decide
  -- The cut can lay bare a dash at the end, which is trimmed; at the beginning none has been left.
  have cut := List.take_prefix 39 (collapseDashes true folded)
  have kept : ∀ character ∈ (collapseDashes true folded).take 39, isLabelChar character = true :=
    fun character member => plain character ((collapseDashes_sublist true folded).subset (cut.subset member))
  refine isTidy_dropTrailing (fun character => ascii_of_isLabelChar) kept (fun character head => ?_)
    (fun character label different => ?_) (List.length_take_le _ _)
    ((isSingle_collapseDashes true folded).within cut.isInfix)
  · refine isSmallAlphanumeric_of_isLabelChar (kept character (List.mem_of_mem_head? head)) ?_
    rintro rfl
    rw [List.head?_take, if_neg (by decide)] at head
    exact head?_collapseDashes folded head
  · exact isSmallAlphanumeric_of_isLabelChar label (beq_eq_false_iff_ne.mp different)

theorem sanitize_eq_self (base : IsBase name) : sanitize name = name := by
  have lowered : ∀ character ∈ name.toList, Text.lowercase character = [character] := fun character member =>
    Text.lowercase_of_ascii (ascii_of_isLabelChar (base.plain character member))
      (not_isCapital_of_isLabelChar (base.plain character member))
  have folded : ∀ character ∈ name.toList, (if isAlphanumeric character then character else '-') = character := by
    intro character member
    by_cases dash : character = '-'
    · rw [dash]
      rfl
    · exact if_pos (isAlphanumeric_of_isSmallAlphanumeric
        (isSmallAlphanumeric_of_isLabelChar (base.plain character member) dash))
  have collapsed : collapseDashes true name.toList = name.toList :=
    collapseDashes_eq_self base.single fun _ dash => absurd (base.head '-' dash) (by decide)
  have short : name.toList.length ≤ maxLength - suffixLength - 1 := base.length_le fun _ => ascii_of_isLabelChar
  have trimmed : Text.dropTrailing (· == '-') name.toList = name.toList := by
    refine Text.dropTrailing_eq_self fun character last => beq_eq_false_iff_ne.mpr ?_
    rintro rfl
    exact absurd (base.last '-' last) (by decide)
  rw [sanitize, sanitizeChars, List.flatMap_congr lowered, List.flatMap_singleton', List.map_congr_left folded,
    List.map_id', collapsed, List.take_of_length_le short, trimmed, String.ofList_toList]

/-! ## The value of a label -/

theorem isTidyValue_labelValue (name : String) : IsTidyValue (labelValue name) := by
  rw [labelValue, labelChars]
  generalize folding : name.toList.map _ = folded
  have plain : ∀ character ∈ folded, isValueChar character = true := by
    subst folding
    refine List.forall_mem_map.mpr fun character _ => ?_
    split
    · next kept =>
        rw [isValueChar, Bool.or_eq_true]
        exact Or.inl kept
    · decide
  -- Nothing is joined that stood apart, so cutting and trimming cannot bring two dashes together.
  have cut : ((collapseDashes false folded).take maxLabelLength).dropWhile
      (fun character => !isAlphanumeric character) <:+: collapseDashes false folded :=
    (List.dropWhile_suffix _).isInfix.trans (List.take_prefix _ _).isInfix
  refine isTidy_dropTrailing (fun character => ascii_of_isValueChar)
    (fun character member => plain character ((collapseDashes_sublist false folded).subset (cut.subset member)))
    (fun character head => ?_) (fun character _ alphanumeric => ?_) ?_
    ((isSingle_collapseDashes false folded).within cut)
  · have stays := List.head?_dropWhile_not (fun character => !isAlphanumeric character)
      ((collapseDashes false folded).take maxLabelLength)
    rw [Option.mem_def.mp head] at stays
    exact Bool.not_eq_eq_eq_not.mp stays
  · exact Bool.not_eq_eq_eq_not.mp alphanumeric
  · exact Nat.le_trans (List.dropWhile_suffix _).length_le (List.length_take_le _ _)

theorem labelValue_eq_self (tidy : IsTidyValue name) : labelValue name = name := by
  have folded : ∀ character ∈ name.toList, (if isAlphanumeric character || character == '_' || character == '.'
      then character else '-') = character := by
    intro character member
    have plain := tidy.plain character member
    rw [isValueChar, Bool.or_eq_true, beq_iff_eq] at plain
    rcases plain with kept | rfl
    · exact if_pos kept
    · rfl
  have collapsed : collapseDashes false name.toList = name.toList :=
    collapseDashes_eq_self tidy.single nofun
  have short : name.toList.length ≤ maxLabelLength := tidy.length_le fun _ => ascii_of_isValueChar
  have started : name.toList.dropWhile (fun character => !isAlphanumeric character) = name.toList :=
    dropWhile_eq_self fun character head => Bool.not_eq_eq_eq_not.mpr (tidy.head character head)
  have trimmed : Text.dropTrailing (fun character => !isAlphanumeric character) name.toList = name.toList :=
    Text.dropTrailing_eq_self fun character last => Bool.not_eq_eq_eq_not.mpr (tidy.last character last)
  rw [labelValue, labelChars, List.map_congr_left folded, List.map_id', collapsed, List.take_of_length_le short,
    started, trimmed, String.ofList_toList]

/-- A text has the form of folded names if folding keeps it. -/
theorem isTidyValue_iff : IsTidyValue name ↔ labelValue name = name :=
  ⟨labelValue_eq_self, fun same => same ▸ isTidyValue_labelValue name⟩

/-! ## Generated names -/

/-- Whether a text is made of eight random digits. -/
def IsSuffix (suffix : String) : Prop :=
  ∃ digits : List (Fin 16), digits.length = 8 ∧
    suffix = String.ofList (digits.map fun digit : Fin 16 => Text.hexDigit digit.val)

theorem isLabelWithin_iff {limit : Nat} (bounded : limit ≤ maxLabelLength) :
    IsLabelWithin limit name ↔ name.toList ≠ [] ∧ name.toList.head? ≠ some '-' ∧ name.toList.getLast? ≠ some '-' ∧
      (∀ character ∈ name.toList, isLabelChar character = true) ∧ name.toList.length ≤ limit := by
  have bytes (plain : ∀ character ∈ name.toList, isLabelChar character = true) :=
    utf8ByteSize_eq_length fun character member => ascii_of_isLabelChar (plain character member)
  simp only [IsLabelWithin, isLabel, Bool.and_eq_true, Bool.not_eq_true', decide_eq_true_eq, bne_iff_ne,
    List.all_eq_true, String.isEmpty_eq_false_iff, ← String.length_toList, ne_eq, String.toList_eq_nil_iff]
  constructor
  · rintro ⟨⟨⟨⟨⟨nonempty, _⟩, head⟩, last⟩, plain⟩, short⟩
    exact ⟨nonempty, head, last, plain, bytes plain ▸ short⟩
  · rintro ⟨nonempty, head, last, plain, short⟩
    exact ⟨⟨⟨⟨⟨nonempty, Nat.le_trans short bounded⟩, head⟩, last⟩, plain⟩, (bytes plain).symm ▸ short⟩

theorem toList_dashed (first second : String) :
    (first ++ "-" ++ second).toList = first.toList ++ '-' :: second.toList := by
  simp only [String.toList_append, List.append_assoc]
  rfl

/-- Two labels with a dash between them are a label, unless they are too long. -/
theorem IsLabelWithin.dashed {first second : String} {limit more : Nat} (label : IsLabelWithin limit first)
    (also : IsLabelWithin more second) (bounded : limit + 1 + more ≤ maxLabelLength) :
    IsLabelWithin (limit + 1 + more) (first ++ "-" ++ second) := by
  rcases (isLabelWithin_iff (by omega)).mp label with ⟨nonempty, head, _, plain, short⟩
  rcases (isLabelWithin_iff (by omega)).mp also with ⟨alsoNonempty, _, last, alsoPlain, alsoShort⟩
  rw [isLabelWithin_iff bounded, toList_dashed]
  refine ⟨List.append_ne_nil_of_left_ne_nil nonempty _, ?_, ?_, ?_, ?_⟩
  · rwa [List.head?_append_of_ne_nil _ nonempty]
  · rw [List.getLast?_append_cons, List.getLast?_cons_of_ne_nil alsoNonempty]
    exact last
  · exact List.forall_mem_append.mpr ⟨plain, List.forall_mem_cons.mpr ⟨by decide, alsoPlain⟩⟩
  · rw [List.length_append, List.length_cons]
    omega

/-- A text of small letters and digits is a label, unless it is empty or too long. -/
theorem isLabelWithin_of_small {limit : Nat} (bounded : limit ≤ maxLabelLength) (nonempty : text.toList ≠ [])
    (small : ∀ character ∈ text.toList, isSmallAlphanumeric character = true) (short : text.toList.length ≤ limit) :
    IsLabelWithin limit text := by
  have different : '-' ∉ text.toList := fun member => absurd (small '-' member) (by decide)
  refine (isLabelWithin_iff bounded).mpr
    ⟨nonempty, fun head => ?_, fun last => ?_, fun character member => ?_, short⟩
  · exact different (List.mem_of_mem_head? head)
  · exact different (List.mem_of_mem_getLast? last)
  · exact isLabelChar_of_isSmallAlphanumeric (small character member)

theorem IsBase.isLabelWithin (base : IsBase name) (nonempty : name ≠ "") : IsLabelWithin 39 name := by
  refine (isLabelWithin_iff (by decide)).mpr ⟨?_, fun head => ?_, fun last => ?_, base.plain,
    base.length_le fun _ => ascii_of_isLabelChar⟩
  · rwa [ne_eq, String.toList_eq_nil_iff]
  · exact absurd (base.head '-' head) (by decide)
  · exact absurd (base.last '-' last) (by decide)

theorem IsSuffix.isLabelWithin {suffix : String} (random : IsSuffix suffix) : IsLabelWithin 8 suffix := by
  rcases random with ⟨digits, count, rfl⟩
  have small : ∀ digit : Fin 16, isSmallAlphanumeric (Text.hexDigit digit.val) = true := by decide
  refine isLabelWithin_of_small (by decide) ?_ ?_ ?_
  · rw [String.toList_ofList]
    rintro none
    rw [List.map_eq_nil_iff.mp none] at count
    exact absurd count (by decide)
  · rw [String.toList_ofList]
    exact List.forall_mem_map.mpr fun digit _ => small digit
  · rw [String.toList_ofList, List.length_map, count]

theorem isSmallAlphanumeric_of_isDigit (digit : character.isDigit = true) :
    isSmallAlphanumeric character = true := by
  rw [isSmallAlphanumeric, Bool.or_eq_true]
  exact Or.inr digit

theorem toList_toString_port (port : UInt16) : (toString port).toList = Nat.toDigits 10 port.toNat := by
  rw [← String.toList_ofList (l := Nat.toDigits 10 port.toNat), ← Nat.toString_eq_ofList_toDigits]
  rfl

theorem isSmallAlphanumeric_of_mem_port {port : UInt16} (member : character ∈ (toString port).toList) :
    isSmallAlphanumeric character = true := by
  rw [toList_toString_port] at member
  exact isSmallAlphanumeric_of_isDigit (Nat.isDigit_of_mem_toDigits (by decide) (by decide) member)

theorem isLabelWithin_toString (port : UInt16) : IsLabelWithin 5 (toString port) := by
  refine isLabelWithin_of_small (by decide) ?_ (fun _ => isSmallAlphanumeric_of_mem_port) ?_
  · rw [toList_toString_port]
    exact Nat.toDigits_ne_nil
  · rw [toList_toString_port]
    have small := port.toNat_lt
    refine (Nat.length_toDigits_le_iff (by decide) (by decide)).mpr ?_
    omega

theorem volume_eq (clusterName : String) : volume clusterName = clusterName ++ "-" ++ "volume" := by
  rw [volume, String.append_assoc]
  rfl

theorem config_eq (clusterName : String) : config clusterName = clusterName ++ "-" ++ "config" := by
  rw [config, String.append_assoc]
  rfl

theorem ownerContainer_eq (clusterName : String) : ownerContainer clusterName = clusterName ++ "-" ++ "init" := by
  rw [ownerContainer, String.append_assoc]
  rfl

/-- The names that are made from the name of an instance. -/
inductive IsDerived (clusterName : String) : String → Prop where
  | volume : IsDerived clusterName (volume clusterName)
  | config : IsDerived clusterName (config clusterName)
  | ownerContainer : IsDerived clusterName (ownerContainer clusterName)
  | hostPrefix (port : UInt16) : IsDerived clusterName (hostPrefix clusterName port)

/-- A name of at most 48 bytes leaves room for all names made from it. -/
theorem IsDerived.isLabelWithin {derived : String} (made : IsDerived name derived) (label : IsLabelWithin 48 name) :
    IsLabelWithin 63 derived := by
  have ending (limit : Nat) {tail : String} (bounded : 48 + 1 + limit ≤ 63) (also : IsLabelWithin limit tail) :
      IsLabelWithin 63 (name ++ "-" ++ tail) :=
    ⟨(label.dashed also bounded).1, Nat.le_trans (label.dashed also bounded).2 bounded⟩
  cases made with
  | volume => exact volume_eq name ▸ ending 6 (by decide) ⟨by decide, by decide⟩
  | config => exact config_eq name ▸ ending 6 (by decide) ⟨by decide, by decide⟩
  | ownerContainer => exact ownerContainer_eq name ▸ ending 4 (by decide) ⟨by decide, by decide⟩
  | hostPrefix port => exact ending 5 (by decide) (isLabelWithin_toString port)

/-- Sanitizing leads to the texts that may begin a name and changes none of them.  A name is generated unless
nothing of the human name is left, and then it and all names made from it are labels. -/
theorem generated_names_are_labels (name : String) :
    (IsBase (sanitize name) ∧ (IsBase name → sanitize name = name) ∧ sanitize (sanitize name) = sanitize name) ∧
    ∀ suffix, IsSuffix suffix →
      (sanitize name = "" → generate suffix name = .error (.validation name .emptyName)) ∧
      (sanitize name ≠ "" → ∃ generated, generate suffix name = .ok generated ∧ IsLabelWithin 48 generated ∧
        ∀ derived, IsDerived generated derived → IsLabelWithin 63 derived) := by
  refine ⟨⟨isBase_sanitize name, sanitize_eq_self, sanitize_eq_self (isBase_sanitize name)⟩, fun suffix random => ?_⟩
  constructor
  · intro none
    rw [generate, none]
    rfl
  · intro nonempty
    have label : IsLabelWithin 48 (sanitize name ++ "-" ++ suffix) :=
      ((isBase_sanitize name).isLabelWithin nonempty).dashed random.isLabelWithin (by decide)
    refine ⟨_, ?_, label, fun derived made => made.isLabelWithin label⟩
    have filled : (sanitize name).isEmpty = false := String.isEmpty_eq_false_iff.mpr nonempty
    rw [generate, filled]
    rfl

/-- A long name is cut behind a dash, which goes too; what has the form is kept; and of stars nothing is left. -/
theorem generated_names_are_labels_behind_dash :
    sanitize "A rather long human name, cut off at my dash" = "a-rather-long-human-name-cut-off-at-my" ∧
    sanitize "a-rather-long-human-name-cut-off-at-my" = "a-rather-long-human-name-cut-off-at-my" ∧
    (∃ generated, generate "0a1b2c3d" "A rather long human name, cut off at my dash" = .ok generated ∧
      IsLabelWithin 48 generated ∧ ∀ derived, IsDerived generated derived → IsLabelWithin 63 derived) ∧
    generate "0a1b2c3d" "***" = .error (.validation "***" .emptyName) := by
  have random : IsSuffix "0a1b2c3d" := ⟨[0, 10, 1, 11, 2, 12, 3, 13], by decide, by decide⟩
  have folded : sanitize "A rather long human name, cut off at my dash" =
      "a-rather-long-human-name-cut-off-at-my" := by decide +kernel
  have base : IsBase "a-rather-long-human-name-cut-off-at-my" := folded ▸ isBase_sanitize _
  exact ⟨folded, (generated_names_are_labels _).1.2.1 base,
    ((generated_names_are_labels _).2 _ random).2 (by rw [folded]; decide),
    ((generated_names_are_labels "***").2 _ random).1 (by decide +kernel)⟩

end Naming
end Testbed
