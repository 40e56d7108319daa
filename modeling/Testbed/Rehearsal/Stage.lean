import Testbed.Action.Basic
import Testbed.Rehearsal.Basic

namespace Testbed

/-!
The stage of a rehearsal: a testbed with its setup and its registry, the stand-ins, and the time. Actions
are performed one after another; each sees what the ones before have left.
-/

/-- A testbed under rehearsal at an instant. -/
structure Stage where
  setup : Setup
  rehearsal : Rehearsal
  registry : Registry := {}
  /-- Milliseconds since the start. -/
  now : Nat := 0

/-- What came of an action: its result, and what the stand-ins were asked. -/
structure Performance (α : Type) where
  result : Except Error α
  asked : List Rehearsal.Entry
  stage : Stage

namespace Stage

/-- Performs an action. There is no performance if the action never ends. -/
def perform (stage : Stage) (action : Action α) : Option (Performance α) :=
  let program := action stage.setup stage.registry
  let quiet := { stage.rehearsal with log := [] }
  (program.run Rehearsal.collaborators Rehearsal.patience stage.now quiet).map fun ending =>
    { result := ending.value.1
      asked := ending.state.log.reverse
      stage :=
        { stage with
          rehearsal := ending.state, registry := ending.value.2, now := ending.instant } }

/-- Lets time pass. -/
def sleep (stage : Stage) (milliseconds : Nat) : Stage :=
  { stage with now := stage.now + milliseconds }

/-- Calls waits off after some time. -/
def cancelAfter (stage : Stage) (milliseconds : Nat) : Stage :=
  { stage with rehearsal := stage.rehearsal.cancelAt (stage.now + milliseconds) }

/-- The folder of all sources. -/
def sourceFolder : String := "<tmp>"

/-- Puts a source among the files at hand, in a fresh place. -/
def placeSource (stage : Stage) (source : SourceEntry) : String × Stage :=
  let earlier :=
    Rehearsal.entriesOf ((Rehearsal.entriesOf (some stage.rehearsal.files)).lookup sourceFolder)
  let number := toString (earlier.length + 1)
  let files := Rehearsal.place source [sourceFolder, number] (some stage.rehearsal.files)
  (sourceFolder ++ "/" ++ number, { stage with rehearsal := { stage.rehearsal with files } })

end Stage
end Testbed
