import Testbed.Instance.Basic
import Testbed.Text.Basic

namespace Testbed

/-!
Files of an instance: who owns them, where they may go, and how they are recorded. While an instance is
being prepared its files become part of the image; afterwards they are deployed beside it, all with the
same group.
-/

namespace Owner

/-- A nonnegative numeral of 64 bits. Its sign may be minus only if it is zero. -/
def number? (text : List Char) : Option Int64 :=
  (Text.int64? text).filter fun number => 0 ≤ number

/-- User and group of an owner, which are separated by the first colon. -/
def parse (owner : String) : Option (Int64 × Int64) :=
  let characters := owner.toList
  match characters.dropWhile (· != ':') with
  | _ :: group => do
    let user ← number? (characters.takeWhile (· != ':'))
    let group ← number? group
    some (user, group)
  | [] => none

end Owner

namespace Instance

/-- User and group of an owner, for a file of this instance. -/
def parseOwner (workload : Instance) (owner : String) : Except Error (Int64 × Int64) :=
  match Owner.parse owner with
  | some pair => .ok pair
  | none => .error (workload.refuse (.badOwner owner))

/-- Checks a destination and an owner against the files already there, and gives the group. -/
def checkFile (workload : Instance) (destination owner : String) : Except Error Int64 := do
  if destination.toList.head? ≠ some '/' then
    .error (workload.refuse (.relativeDestination destination))
  else if workload.files.any fun file => file.destination == destination then
    .error (workload.refuse (.destinationTaken destination))
  else
    let (_, group) ← workload.parseOwner owner
    match workload.fsGroup with
    | some existing =>
      if workload.state ≠ .preparing ∧ existing ≠ group then
        .error (workload.refuse (.mixedGroups destination group existing))
      else .ok group
    | none => .ok group

/-- Records a file that has become part of the image. -/
def withBakedFile (workload : Instance) (contents : List UInt8) (destination : String)
    (group : Int64) : Instance :=
  { workload with files := workload.files ++ [⟨destination, group, contents, true⟩] }

/-- Records a file that is deployed beside the image. -/
def withDeployedFile (workload : Instance) (contents : List UInt8) (destination : String)
    (group : Int64) : Instance :=
  { workload with
    files := workload.files ++ [⟨destination, group, contents, false⟩]
    fsGroup := some group }

end Instance
end Testbed
