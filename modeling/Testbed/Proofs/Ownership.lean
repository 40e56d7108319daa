import Mathlib.Tactic.IntervalCases
import Testbed.Instance.Edit
import Testbed.Proofs.Contents
import Testbed.Proofs.Text.Shell

namespace Testbed

/-!
# Handing a volume to its owner

A volume that does not stay with root is handed to its owner before the pod runs.  A container of its own
mounts the volume and has a shell change the owner of all that is below the path.  The path is put into the
line as it is.  It may have any character in it, as long as it begins with a slash, but the shell
takes the path as it is meant only if every character stands for itself: a blank makes two words of the path,
and a semicolon two commands of the line.
-/

namespace Shell

theorem role_of_isDigit {character : Char} (digit : character.isDigit = true) :
    role character = .plain := by
  have bounds : 48 ≤ character.toNat ∧ character.toNat ≤ 57 := by
    simpa [Char.isDigit, UInt32.le_iff_toNat_le] using digit
  rw [← Char.ofNat_toNat character]
  rcases bounds with ⟨low, high⟩
  interval_cases character.toNat
  all_goals rfl

theorem role_of_mem_toString_nat {number : Nat} {character : Char}
    (listed : character ∈ (toString number).toList) : role character = .plain := by
  rw [Nat.toString_eq_ofList_toDigits, String.toList_ofList] at listed
  exact role_of_isDigit (Nat.isDigit_of_mem_toDigits (by decide) (by decide) listed)

/-- A number stands for itself, with its sign. -/
theorem role_of_mem_toString {number : Int} {character : Char}
    (listed : character ∈ (toString number).toList) : role character = .plain := by
  cases number with
  | ofNat magnitude => exact role_of_mem_toString_nat listed
  | negSucc magnitude =>
      have spelled : (toString (Int.negSucc magnitude)).toList = '-' :: (toString (magnitude + 1)).toList := by
        rw [Int.toString_eq_repr, Int.repr]
        simp
      rw [spelled] at listed
      rcases List.mem_cons.mp listed with rfl | digit
      · rfl
      · exact role_of_mem_toString_nat digit

theorem isWord_owner (number : Int) : IsWord (toString number ++ ":" ++ toString number) := by
  constructor
  · intro empty
    have longer := congrArg String.length empty
    simp at longer
  · intro character listed
    simp only [String.toList_append, List.mem_append] at listed
    rcases listed with (number | colon) | number
    · exact role_of_mem_toString number
    · obtain rfl := List.mem_singleton.mp colon
      rfl
    · exact role_of_mem_toString number

end Shell

/-- The command by which a volume is meant to be handed over: all of it, to its owner and to the group of the
same number. -/
def VolumeDescription.handover (volume : VolumeDescription) : List String :=
  ["chown", "-R", toString volume.owner.toInt ++ ":" ++ toString volume.owner.toInt, volume.path]

namespace Instance

variable {workload edited : Instance} {volume : VolumeDescription} {path size : String} {owner : Int64}

/-- A shell takes the line for a volume as it is meant if all that is in the path stands for itself, and only
then. -/
theorem read_ownershipCommand_iff (absolute : volume.path.toList.head? = some '/') :
    Shell.read (ownershipCommand volume) = some [volume.handover] ↔
      ∀ character ∈ volume.path.toList, Shell.isLiteral character = true := by
  rcases List.head?_eq_some_iff.mp absolute with ⟨below, spelled⟩
  have proper : ∀ word ∈ volume.handover.dropLast, Shell.IsWord word := by
    intro word listed
    simp only [VolumeDescription.handover, List.dropLast_cons_cons, List.dropLast_singleton,
      List.mem_cons, List.not_mem_nil, or_false] at listed
    rcases listed with rfl | rfl | rfl
    · exact Shell.isWord_of_all (by decide) rfl
    · exact Shell.isWord_of_all (by decide) rfl
    · exact Shell.isWord_owner _
  refine Shell.read_eq_some_iff proper spelled rfl ?_
  simp [ownershipCommand, VolumeDescription.handover]

/-- An accepted volume is at an absolute path, and is what the instance then has. -/
theorem volume_of_addVolume (accepted : workload.edit (.addVolume path size owner) = .ok edited) :
    edited.volume = some ⟨path, size, owner⟩ ∧ path.toList.head? = some '/' := by
  rcases edit_eq_ok_iff.mp accepted with ⟨_, sound, rfl⟩
  refine ⟨rfl, ?_⟩
  simp only [Edit.fault?] at sound
  split at sound
  · cases sound
  split at sound
  · cases sound
  rename_i absolute
  exact Decidable.not_not.mp absolute

/-- A volume with an owner of its own has one container that hands it over. -/
theorem ownerContainers_eq_singleton {initImage : String} (stored : workload.volume = some volume)
    (owned : volume.owner ≠ 0) :
    workload.ownerContainers initImage =
      [{ name := Naming.ownerContainer workload.clusterName
         image := initImage
         command := ["sh", "-c", ownershipCommand volume]
         volumeMounts :=
          [{ name := Naming.volume workload.clusterName, mountPath := volume.path }] }] := by
  simp [ownerContainers, stored, owned]

end Instance

/-- What becomes of a volume that has been accepted with an owner other than root.  In any pod with the volume
there is a container that mounts it at its path and has a shell run a line.  The shell takes the line for one
command, which hands the volume at this very path to the owner, if every character of the path stands for
itself, and only then. -/
theorem handover_of_addVolume {workload edited member : Instance} {path size : String} {owner : Int64}
    {pod : Pod} {compiled : CompiledPod}
    (accepted : workload.edit (.addVolume path size owner) = .ok edited) (owned : owner ≠ 0)
    (kept : member.volume = edited.volume) (listed : member ∈ pod.members)
    (made : pod.compile = .ok compiled) :
    ∃ container ∈ compiled.podSpec.initContainers, ∃ line,
      container.name = Naming.ownerContainer member.clusterName ∧
      container.command = ["sh", "-c", line] ∧
      container.volumeMounts = [{ name := Naming.volume member.clusterName, mountPath := path }] ∧
      (Shell.read line =
          some [["chown", "-R", toString owner.toInt ++ ":" ++ toString owner.toInt, path]] ↔
        ∀ character ∈ path.toList, Shell.isLiteral character = true) := by
  rcases Instance.volume_of_addVolume accepted with ⟨stored, absolute⟩
  have single := @Instance.ownerContainers_eq_singleton member _ pod.initImage (kept.trans stored) owned
  have owners := (Pod.parts_of_compile made).2.2.2.1
  have spoken := @Instance.read_ownershipCommand_iff ⟨path, size, owner⟩ absolute
  have handing := List.mem_of_mem_head? (congrArg List.head? single)
  have present := List.mem_flatMap_of_mem (f := fun each => each.ownerContainers pod.initImage) listed handing
  rw [← owners] at present
  exact ⟨_, present, _, rfl, rfl, rfl, spoken⟩

/-- An instance that is described, with an image. -/
def describedInstance : Instance :=
  { id := ⟨0⟩, name := "main", clusterName := "main-a", state := .committed, image := some "busybox" }

/-- The same instance with a volume at some path that is not root's. -/
def storedInstance (path : String) : Instance :=
  { describedInstance with volume := some ⟨path, "1Gi", 1000⟩ }

/-- Its pod. -/
def storedPod (path : String) : Pod :=
  { parent := storedInstance path, sidecars := [], space := "tidepool", initImage := "busybox" }

/-- A volume at a usual path is handed over. -/
theorem handover_of_storedPod :
    describedInstance.edit (.addVolume "/var/lib/data" "1Gi" 1000) =
        .ok (storedInstance "/var/lib/data") ∧
      ∃ compiled, (storedPod "/var/lib/data").compile = .ok compiled ∧
        ∃ container ∈ compiled.podSpec.initContainers, ∃ line,
          container.command = ["sh", "-c", line] ∧
          Shell.read line = some [["chown", "-R", "1000:1000", "/var/lib/data"]] := by
  have accepted : describedInstance.edit (.addVolume "/var/lib/data" "1Gi" 1000) =
      .ok (storedInstance "/var/lib/data") := rfl
  have imaged : ∀ member ∈ (storedPod "/var/lib/data").members, member.image ≠ none := by decide
  rcases Pod.exists_compile imaged with ⟨compiled, made⟩
  rcases handover_of_addVolume accepted (by decide) rfl List.mem_cons_self made with
    ⟨container, listed, line, _, command, _, read⟩
  exact ⟨accepted, compiled, made, container, listed, line, command, read.mpr (List.all_eq_true.mp rfl)⟩

/-- A volume is accepted at a path with a blank, and the shell makes two words of this path. -/
theorem blank_splits_path :
    ¬ ∀ (workload edited : Instance) (path size : String) (owner : Int64) (initImage : String),
      workload.edit (.addVolume path size owner) = .ok edited → owner ≠ 0 →
      ∃ container line, edited.ownerContainers initImage = [container] ∧
        container.command = ["sh", "-c", line] ∧
        Shell.read line =
          some [["chown", "-R", toString owner.toInt ++ ":" ++ toString owner.toInt, path]] := by
  intro claim
  rcases claim describedInstance (storedInstance "/my data") "/my data" "1Gi" 1000 "busybox" rfl
    (by decide) with ⟨container, line, single, command, read⟩
  have known := @Instance.ownerContainers_eq_singleton (storedInstance "/my data") _ "busybox" rfl (by decide)
  obtain rfl : _ = container := List.singleton_inj.mp (known.symm.trans single)
  obtain rfl : Instance.ownershipCommand ⟨"/my data", "1Gi", 1000⟩ = line := by simpa using command
  have literal := (Instance.read_ownershipCommand_iff rfl).mp read
  exact absurd (literal ' ' (by decide)) (by decide)

end Testbed
