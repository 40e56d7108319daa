namespace Testbed
namespace Shell

/-!
# How a shell reads a line

A shell takes a line apart into commands, and a command into words.  Blanks separate words; a semicolon and
the end of the line end a command; a number sign with which a word would begin makes a comment of what
follows.  Backslashes and quotes take the meaning from what they protect, and are no part of the word
themselves.

Operators, expansions and patterns of file names are left out: what becomes of them depends on more than the
line, so a line that has one of them outside of quotes is not read at all, and neither is one with a quote
or a backslash that protects nothing.
-/

/-- What a character means to a shell where nothing is quoted. -/
inductive Role where
  /-- It stands for itself. -/
  | plain
  /-- It stands for itself unless a word begins with it. -/
  | numberSign
  | tilde
  | blank
  | newline
  | semicolon
  | backslash
  | apostrophe
  | quote
  /-- What comes of it depends on more than the line. -/
  | foreign
  deriving DecidableEq

/-- The character that begins an expansion and ends it, too. -/
def graveAccent : Char :=
  Char.ofNat 96

def role (character : Char) : Role :=
  match character with
  | ' ' | '\t' => .blank
  | '\n' => .newline
  | ';' => .semicolon
  | '\\' => .backslash
  | '"' => .quote
  | '#' => .numberSign
  | '~' => .tilde
  | '&' | '|' | '<' | '>' | '(' | ')' | '$' | '*' | '?' | '[' => .foreign
  | other =>
    if other.toNat = 39 then .apostrophe
    else if other = graveAccent ∨ other.toNat = 0 then .foreign
    else .plain

/-- Whether a character stands for itself in the middle of a word. -/
def isLiteral (character : Char) : Bool :=
  match role character with
  | .plain | .numberSign | .tilde => true
  | _ => false

/-- What protects the next character. -/
inductive Place where
  | outside
  /-- Behind a backslash. -/
  | escaped
  /-- Between apostrophes. -/
  | single
  /-- Between quotes. -/
  | double
  /-- Behind a backslash between quotes. -/
  | doubleEscaped
  | comment
  deriving DecidableEq

/-- What has been read of a line. -/
structure Reading where
  commands : List (List String) := []
  /-- The words of the command that has not ended yet. -/
  words : List String := []
  /-- The word that has not ended yet, if one has begun. -/
  word : Option (List Char) := none
  place : Place := .outside

namespace Reading

def goTo (reading : Reading) (place : Place) : Reading :=
  { reading with place }

/-- Adds characters to the word, which begins if there is none. -/
def take (reading : Reading) (place : Place) (characters : List Char) : Reading :=
  { reading with word := some (reading.word.getD [] ++ characters), place }

def endWord (reading : Reading) : Reading :=
  { reading with words := reading.words ++ reading.word.toList.map String.ofList, word := none }

def endCommand (reading : Reading) : Reading :=
  { reading with commands := reading.commands ++ [reading.words], words := [] }

/-- Ends the command, if there is one. -/
def endLine (reading : Reading) : Reading :=
  let ended := reading.endWord.goTo .outside
  if ended.words = [] then ended else ended.endCommand

/-- Reads a character outside of quotes. -/
def stepOutside (reading : Reading) (character : Char) : Option Reading :=
  match role character with
  | .plain => some (reading.take .outside [character])
  | .numberSign =>
    if reading.word.isSome then some (reading.take .outside [character])
    else some (reading.goTo .comment)
  | .tilde => if reading.word.isSome then some (reading.take .outside [character]) else none
  | .blank => some reading.endWord
  | .newline => some reading.endLine
  | .semicolon =>
    let ended := reading.endWord
    if ended.words = [] then none else some ended.endCommand
  | .backslash => some (reading.goTo .escaped)
  | .apostrophe => some (reading.take .single [])
  | .quote => some (reading.take .double [])
  | .foreign => none

/-- Reads a character. -/
def step (reading : Reading) (character : Char) : Option Reading :=
  match reading.place with
  | .outside => reading.stepOutside character
  | .escaped =>
    if character = '\n' then some (reading.goTo .outside)
    else some (reading.take .outside [character])
  | .single =>
    if role character = .apostrophe then some (reading.goTo .outside)
    else some (reading.take .single [character])
  | .double =>
    if character = '$' ∨ character = graveAccent then none
    else if character = '"' then some (reading.goTo .outside)
    else if character = '\\' then some (reading.goTo .doubleEscaped)
    else some (reading.take .double [character])
  | .doubleEscaped =>
    if character = '\n' then some (reading.goTo .double)
    else if character ∈ ['$', graveAccent, '"', '\\'] then some (reading.take .double [character])
    else some (reading.take .double ['\\', character])
  | .comment => if character = '\n' then some reading.endLine else some reading

/-- The commands of a line that has been read to its end. -/
def finish (reading : Reading) : Option (List (List String)) :=
  if reading.place = .outside ∨ reading.place = .comment then some reading.endLine.commands else none

end Reading

/-- The commands of a line, each with its words. -/
def read (line : String) : Option (List (List String)) :=
  (line.toList.foldlM Reading.step {}).bind Reading.finish

example : read "cat 'a b'; rm -r \"c\\\"\" d\\ e # twice" =
    some [["cat", "a b"], ["rm", "-r", "c\"", "d e"]] := by decide

/-! ## Characters that stand for themselves -/

variable {reading after : Reading} {character : Char} {characters word : List Char}

namespace Reading

theorem step_literal (outside : reading.place = .outside) (begun : reading.word = some word)
    (literal : isLiteral character = true) :
    reading.step character = some { reading with word := some (word ++ [character]) } := by
  cases reading
  cases outside
  cases begun
  unfold isLiteral at literal
  simp only [step, stepOutside]
  split at literal
  · rename_i plain
    rw [plain]
    rfl
  · rename_i sign
    rw [sign]
    rfl
  · rename_i tilde
    rw [tilde]
    rfl
  · cases literal

/-- What stands for itself is added to the word as it is. -/
theorem foldlM_literal (outside : reading.place = .outside) (begun : reading.word = some word)
    (literal : ∀ character ∈ characters, isLiteral character = true) :
    characters.foldlM step reading = some { reading with word := some (word ++ characters) } := by
  induction characters generalizing reading word with
  | nil =>
      cases reading
      cases begun
      simp
  | cons first rest inductionHypothesis =>
      rcases List.forall_mem_cons.mp literal with ⟨here, others⟩
      have onward := @inductionHypothesis { reading with word := some (word ++ [first]) } _ outside rfl others
      rw [List.append_assoc] at onward
      rw [List.foldlM_cons, step_literal outside begun here]
      exact onward

/-- A word may begin with what is plain. -/
theorem step_plain (outside : reading.place = .outside) (between : reading.word = none)
    (plain : role character = .plain) :
    reading.step character = some { reading with word := some [character] } := by
  cases reading
  cases outside
  cases between
  simp only [step, stepOutside, plain]
  rfl

theorem foldlM_word {first : Char} (outside : reading.place = .outside) (between : reading.word = none)
    (plain : role first = .plain) (literal : ∀ character ∈ characters, isLiteral character = true) :
    (first :: characters).foldlM step reading =
      some { reading with word := some (first :: characters) } := by
  rw [List.foldlM_cons, step_plain outside between plain]
  exact @foldlM_literal { reading with word := some [first] } _ _ outside rfl literal

/-! ## The characters of words

No character that is read adds more than one character to the words, and outside of quotes only those that
stand for themselves add one.  A backslash between quotes may turn out to belong to the word only after it
has been read; it is counted at once. -/

/-- The number of characters in words. -/
def letters (reading : Reading) : Nat :=
  (reading.commands.flatten.flatMap String.toList).length + (reading.words.flatMap String.toList).length +
    (reading.word.getD []).length

/-- The number of characters that have been read and may yet become part of a word. -/
def pending : Place → Nat
  | .doubleEscaped => 1
  | _ => 0

/-- The number of characters that are in words or may yet be. -/
def weight (reading : Reading) : Nat :=
  reading.letters + pending reading.place

@[simp]
theorem letters_le_weight : reading.letters ≤ reading.weight :=
  Nat.le_add_right _ _

@[simp]
theorem weight_goTo {place : Place} : (reading.goTo place).weight = reading.letters + pending place :=
  rfl

theorem weight_goTo_le {place : Place} (unescaped : pending place = 0) :
    (reading.goTo place).weight ≤ reading.weight := by
  rw [weight_goTo, unescaped]
  exact letters_le_weight

@[simp]
theorem weight_take {place : Place} :
    (reading.take place characters).weight = reading.letters + characters.length + pending place := by
  simp only [weight, letters, take, Option.getD_some, List.length_append]
  omega

theorem letters_endWord : reading.endWord.letters = reading.letters := by
  cases begun : reading.word with
  | none => simp [letters, endWord, begun]
  | some word =>
      simp only [letters, endWord, begun, Option.toList_some, List.map_cons, List.map_nil,
        List.flatMap_append, List.flatMap_singleton, List.length_append, String.toList_ofList,
        Option.getD_none, Option.getD_some, List.length_nil]
      omega

theorem letters_endCommand : reading.endCommand.letters = reading.letters := by
  simp only [letters, endCommand, List.flatten_append, List.flatten_cons, List.flatten_nil,
    List.append_nil, List.flatMap_append, List.length_append, List.flatMap_nil, List.length_nil]
  omega

theorem letters_endLine : reading.endLine.letters = reading.letters := by
  have ended : (reading.endWord.goTo .outside).letters = reading.letters := @letters_endWord reading
  rw [endLine]
  split
  · exact ended
  · exact letters_endCommand.trans ended

@[simp]
theorem weight_endWord : reading.endWord.weight = reading.weight :=
  congrArg (· + pending reading.place) letters_endWord

@[simp]
theorem weight_endCommand : reading.endCommand.weight = reading.weight :=
  congrArg (· + pending reading.place) letters_endCommand

@[simp]
theorem weight_endLine : reading.endLine.weight = reading.letters := by
  rw [weight, letters_endLine, endLine]
  split
  · rfl
  · rfl

/-- Outside of quotes, what does not stand for itself adds nothing. -/
theorem weight_stepOutside_le (went : reading.stepOutside character = some after) :
    after.weight ≤ reading.weight + if isLiteral character then 1 else 0 := by
  unfold stepOutside at went
  cases meaning : role character with
  | plain =>
      simp only [meaning] at went
      cases went
      simp [isLiteral, meaning, pending]
  | numberSign =>
      simp only [meaning] at went
      split at went
      · cases went
        simp [isLiteral, meaning, pending]
      · cases went
        exact Nat.le_add_right_of_le (weight_goTo_le rfl)
  | tilde =>
      simp only [meaning] at went
      split at went
      · cases went
        simp [isLiteral, meaning, pending]
      · cases went
  | blank | newline | backslash | apostrophe | quote =>
      simp only [meaning] at went
      cases went
      simp [isLiteral, meaning, pending]
  | semicolon =>
      simp only [meaning] at went
      split at went
      · cases went
      · cases went
        simp [isLiteral, meaning]
  | foreign =>
      simp only [meaning] at went
      cases went

/-- No character adds more than one. -/
theorem weight_step_le (went : reading.step character = some after) :
    after.weight ≤ reading.weight + 1 := by
  unfold step at went
  cases here : reading.place with
  | outside =>
      simp only [here] at went
      have added := weight_stepOutside_le went
      split at added
      · exact added
      · exact Nat.le_add_right_of_le added
  | escaped | single =>
      simp only [here] at went
      split at went
      · cases went
        exact Nat.le_add_right_of_le (weight_goTo_le rfl)
      · cases went
        simp [pending]
  | comment =>
      simp only [here] at went
      split at went
      · cases went
        simp [Nat.le_add_right_of_le]
      · cases went
        exact Nat.le_add_right _ _
  | double =>
      simp only [here] at went
      split at went
      · cases went
      split at went
      · cases went
        exact Nat.le_add_right_of_le (weight_goTo_le rfl)
      split at went
      · cases went
        simp [pending]
      · cases went
        simp [pending]
  | doubleEscaped =>
      have counted : reading.weight = reading.letters + 1 := by simp [weight, here, pending]
      simp only [here] at went
      split at went
      · cases went
        rw [weight_goTo, counted]
        exact Nat.le_add_right_of_le (Nat.le_add_right_of_le (Nat.le_refl _))
      split at went
      · cases went
        simp [counted, pending]
      · cases went
        simp [counted, pending]

theorem weight_foldlM_le (went : characters.foldlM step reading = some after) :
    after.weight ≤ reading.weight + characters.length := by
  induction characters generalizing reading with
  | nil =>
      cases went
      exact Nat.le_refl _
  | cons first rest inductionHypothesis =>
      rw [List.foldlM_cons] at went
      rcases Option.bind_eq_some_iff.mp went with ⟨middle, here, others⟩
      have once := weight_step_le here
      have later := inductionHypothesis others
      rw [List.length_cons]
      omega

/-- If all the characters that are read in the middle of a word are added to words, they all stand for
themselves. -/
theorem all_isLiteral_of_weight (outside : reading.place = .outside) (begun : reading.word.isSome = true)
    (went : characters.foldlM step reading = some after)
    (full : reading.weight + characters.length ≤ after.weight) :
    ∀ character ∈ characters, isLiteral character = true := by
  induction characters generalizing reading with
  | nil => exact fun _ impossible => nomatch impossible
  | cons first rest inductionHypothesis =>
      rcases Option.isSome_iff_exists.mp begun with ⟨word, known⟩
      rw [List.foldlM_cons] at went
      rcases Option.bind_eq_some_iff.mp went with ⟨middle, here, others⟩
      have later := weight_foldlM_le others
      rw [List.length_cons] at full
      cases literal : isLiteral first with
      | false =>
          have outer : reading.stepOutside first = some middle := by
            simpa only [step, outside] using here
          have once := weight_stepOutside_le outer
          rw [literal] at once
          simp only [Bool.false_eq_true, if_false] at once
          omega
      | true =>
          have once := weight_step_le here
          rw [step_literal outside known literal] at here
          cases here
          have onward := @inductionHypothesis { reading with word := some (word ++ [first]) }
          exact List.forall_mem_cons.mpr ⟨literal, onward outside rfl others (by omega)⟩

theorem words_endLine : reading.endLine.words = [] ∧ reading.endLine.word = none := by
  rw [endLine]
  split
  · rename_i empty
    exact ⟨empty, rfl⟩
  · exact ⟨rfl, rfl⟩

/-- The words of a line's commands have all the characters that are in words when the line ends. -/
theorem weight_of_finish {commands : List (List String)} (ended : reading.finish = some commands) :
    reading.weight = (commands.flatten.flatMap String.toList).length := by
  rw [finish] at ended
  split at ended
  case isFalse =>
    cases ended
  case isTrue either =>
    obtain rfl := Option.some.inj ended
    have settled : pending reading.place = 0 := by
      rcases either with here | here
      · rw [here]
        rfl
      · rw [here]
        rfl
    rcases @words_endLine reading with ⟨words, word⟩
    calc
      reading.weight = reading.endLine.letters := by rw [weight, settled, letters_endLine, Nat.add_zero]
      _ = (reading.endLine.commands.flatten.flatMap String.toList).length := by
        rw [letters, words, word]
        rfl

end Reading

/-! ## A command with a last word -/

/-- Whether a text is a word wherever it stands alone. -/
def IsWord (text : String) : Prop :=
  text ≠ "" ∧ ∀ character ∈ text.toList, role character = .plain

theorem isWord_of_all {text : String} (filled : text ≠ "")
    (plain : (text.toList.all fun character => role character = .plain) = true) : IsWord text :=
  ⟨filled, fun _ listed => of_decide_eq_true (List.all_eq_true.mp plain _ listed)⟩

theorem isLiteral_of_plain (plain : role character = .plain) : isLiteral character = true := by
  rw [isLiteral, plain]

/-- Words with a blank behind each of them are read as these words. -/
theorem foldlM_words {words : List String} (proper : ∀ word ∈ words, IsWord word)
    (outside : reading.place = .outside) (between : reading.word = none) :
    (words.flatMap fun word => word.toList ++ [' ']).foldlM Reading.step reading =
      some { reading with words := reading.words ++ words } := by
  induction words generalizing reading with
  | nil => simp
  | cons word rest inductionHypothesis =>
      rcases List.forall_mem_cons.mp proper with ⟨⟨filled, plain⟩, others⟩
      rcases List.exists_cons_of_ne_nil (mt String.toList_eq_nil_iff.mp filled) with ⟨first, more, spelled⟩
      rw [spelled] at plain
      rcases List.forall_mem_cons.mp plain with ⟨begins, stays⟩
      have read := Reading.foldlM_word outside between begins fun character listed =>
        isLiteral_of_plain (stays character listed)
      have ended : (word.toList ++ [' ']).foldlM Reading.step reading =
          some { reading with words := reading.words ++ [word] } := by
        rw [List.foldlM_append, spelled, read]
        cases reading
        cases outside
        cases between
        simp only [Option.bind_eq_bind, Option.bind_some, List.foldlM_cons, List.foldlM_nil,
          Reading.step, Reading.stepOutside, role, Reading.endWord, Option.toList_some, List.map_cons,
          List.map_nil, ← spelled, String.ofList_toList]
        rfl
      rw [List.flatMap_cons, List.foldlM_append, ended]
      have onward := @inductionHypothesis { reading with words := reading.words ++ [word] } others outside between
      rw [List.append_assoc] at onward
      exact onward

/-- A line of words, each with a blank behind it, and a last one is read as the command of these words if all
that is in the last one stands for itself, and only then. -/
theorem read_eq_some_iff {words : List String} {line last : String} {first : Char}
    (proper : ∀ word ∈ words, IsWord word) (begins : last.toList = first :: characters)
    (plain : role first = .plain)
    (spaced : line.toList = (words.flatMap fun word => word.toList ++ [' ']) ++ last.toList) :
    read line = some [words ++ [last]] ↔ ∀ character ∈ last.toList, isLiteral character = true := by
  have opened : line.toList.foldlM Reading.step {} =
      characters.foldlM Reading.step { words, word := some [first] } := by
    have spoken := @foldlM_words {} words proper rfl rfl
    have begun := @Reading.step_plain { words } first rfl rfl plain
    rw [spaced, List.foldlM_append, spoken, begins]
    change (first :: characters).foldlM Reading.step { words } = _
    rw [List.foldlM_cons, begun]
    rfl
  rw [read, opened]
  constructor
  · intro single
    rcases Option.bind_eq_some_iff.mp single with ⟨after, went, ended⟩
    have weight := Reading.weight_of_finish ended
    have literal := Reading.all_isLiteral_of_weight rfl rfl went (Nat.le_of_eq ?_)
    · rw [begins]
      exact List.forall_mem_cons.mpr ⟨isLiteral_of_plain plain, literal⟩
    · rw [weight]
      simp [Reading.weight, Reading.letters, Reading.pending, begins]
      omega
  · intro literal
    rw [begins] at literal
    have rest := (List.forall_mem_cons.mp literal).2
    rw [@Reading.foldlM_literal { words, word := some [first] } _ _ rfl rfl rest]
    simp [Reading.finish, Reading.endLine, Reading.endWord, Reading.endCommand, Reading.goTo, ← begins]

end Shell
end Testbed
