import Testbed.Proofs.Heredity

namespace Testbed

/-!
# Sound descriptions

The rules on a description are checked where it is edited, and those on files where one is given.  All
of them are kept: whatever an instance has come from, and whatever has been done to it, its ports are
distinct and none is zero, its variables have names, its files lie at distinct places below the root, and
those that are deployed beside the image share the group of the pod.

Files are checked one by one, against those that are there.  A file that becomes part of an image may
have any group; only files that are deployed are held to one, and the group is noted with the first.
-/

/-- Whether the description of an instance obeys the rules that edits are held to. -/
structure Instance.HasSoundDescription (workload : Instance) : Prop where
  tcpPorts_nodup : workload.tcpPorts.Nodup
  zero_notMem_tcpPorts : 0 ∉ workload.tcpPorts
  udpPorts_nodup : workload.udpPorts.Nodup
  zero_notMem_udpPorts : 0 ∉ workload.udpPorts
  capabilities_nodup : workload.capabilities.Nodup
  /-- Every variable has a name without an equals sign. -/
  named : ∀ entry ∈ workload.env.entries, entry.1 ≠ "" ∧ '=' ∉ entry.1.toList
  /-- A volume is mounted at an absolute path. -/
  mounted : ∀ volume, workload.volume = some volume → volume.path.toList.head? = some '/'
  /-- Every rule grants something. -/
  granting : ∀ rule ∈ workload.policyRules, rule.verbs ≠ []

/-- Whether the files of an instance obey the rules on files. -/
structure Instance.HasSoundFiles (workload : Instance) : Prop where
  distinct : (workload.files.map InstanceFile.destination).Nodup
  absolute : ∀ file ∈ workload.files, file.destination.toList.head? = some '/'
  owned : ∀ file ∈ workload.files, 0 ≤ file.group
  /-- What is deployed has the group of the pod. -/
  shared : ∀ file ∈ workload.deployedFiles, workload.fsGroup = some file.group
  /-- There is a group if something is deployed, and only then. -/
  grouped : workload.fsGroup.isSome ↔ workload.deployedFiles ≠ []

/-! ## Edits -/

private theorem nodup_concat {items : List α} {added : α} (nodup : items.Nodup) (fresh : added ∉ items) :
    (items ++ [added]).Nodup := by
  refine List.nodup_append.mpr ⟨nodup, List.pairwise_singleton _ added, ?_⟩
  intro item listed other last same
  rw [same, List.mem_singleton.mp last] at listed
  exact fresh listed

theorem Edit.nodup_addMissing {present added : List String} (nodup : present.Nodup) :
    (addMissing present added).Nodup := by
  induction added generalizing present with
  | nil => exact nodup
  | cons first rest inductionHypothesis =>
      rw [addMissing, List.foldl_cons]
      split
      · exact inductionHypothesis nodup
      · rename_i missing
        have fresh : first ∉ present := by simpa using missing
        exact inductionHypothesis (nodup_concat nodup fresh)

private theorem notMem_of_fault {port : UInt16} {ports : List UInt16} {zero taken : Reason}
    (sound : (if port = 0 then some zero else if ports.contains port then some taken else none) = none) :
    port ≠ 0 ∧ port ∉ ports := by
  split at sound
  · cases sound
  rename_i nonzero
  split at sound
  · cases sound
  rename_i free
  exact ⟨nonzero, by simpa using free⟩

private theorem zero_notMem_concat {port : UInt16} {ports : List UInt16} (nonzero : port ≠ 0)
    (sound : 0 ∉ ports) : 0 ∉ ports ++ [port] := by
  simp only [List.mem_append, List.mem_singleton, not_or]
  exact ⟨sound, fun zero => nonzero zero.symm⟩

/-- An edit that breaks no rule keeps all of them. -/
theorem Instance.HasSoundDescription.change {workload : Instance} {edit : Edit}
    (held : workload.HasSoundDescription) (sound : edit.fault? workload = none) :
    (edit.change workload).HasSoundDescription := by
  cases edit with
  | addTcpPort port =>
      rcases notMem_of_fault sound with ⟨nonzero, fresh⟩
      exact { held with
        tcpPorts_nodup := nodup_concat held.tcpPorts_nodup fresh
        zero_notMem_tcpPorts := zero_notMem_concat nonzero held.zero_notMem_tcpPorts }
  | addUdpPort port =>
      rcases notMem_of_fault sound with ⟨nonzero, fresh⟩
      exact { held with
        udpPorts_nodup := nodup_concat held.udpPorts_nodup fresh
        zero_notMem_udpPorts := zero_notMem_concat nonzero held.zero_notMem_udpPorts }
  | addCapabilities capabilities =>
      exact { held with capabilities_nodup := Edit.nodup_addMissing held.capabilities_nodup }
  | setEnv name value =>
      have proper : name ≠ "" ∧ '=' ∉ name.toList := by
        simpa [Edit.fault?] using sound
      refine { held with named := fun entry listed => ?_ }
      rcases StringMap.mem_insertEntry listed with rfl | former
      · exact proper
      · exact held.named entry former
  | addVolume path size owner =>
      refine { held with mounted := fun volume same => ?_ }
      obtain rfl := Option.some.inj same
      rw [Edit.fault?] at sound
      split at sound
      · cases sound
      split at sound
      · cases sound
      · rename_i absolute
        exact Decidable.not_not.mp absolute
  | addPolicyRule rule =>
      have verbs : rule.verbs ≠ [] := by
        simpa [Edit.fault?] using sound
      refine { held with granting := fun other listed => ?_ }
      rcases List.mem_append.mp listed with former | last
      · exact held.granting other former
      · exact List.mem_singleton.mp last ▸ verbs
  | setProbe role probe => cases role <;> exact { held with }
  | _ => exact { held with }

theorem Edit.files_change (edit : Edit) (workload : Instance) :
    (edit.change workload).files = workload.files ∧
      (edit.change workload).fsGroup = workload.fsGroup := by
  cases edit with
  | setProbe role probe => cases role <;> exact ⟨rfl, rfl⟩
  | _ => exact ⟨rfl, rfl⟩

/-! ## Files -/

theorem Owner.nonneg_of_parse {owner : String} {user group : Int64}
    (parsed : parse owner = some (user, group)) : 0 ≤ group := by
  unfold parse at parsed
  dsimp only at parsed
  split at parsed
  · rcases Option.bind_eq_some_iff.mp parsed with ⟨_, _, rest⟩
    rcases Option.bind_eq_some_iff.mp rest with ⟨number, read, same⟩
    obtain rfl : number = group := congrArg Prod.snd (Option.some.inj same)
    exact of_decide_eq_true (Option.filter_eq_some_iff.mp read).2
  · cases parsed

/-- A file may be put where there is none yet, below the root, and with an owner; once an instance is no
longer prepared, it has to have the group of those that are deployed. -/
theorem Instance.fits_of_checkFile {workload : Instance} {destination owner : String} {group : Int64}
    (checked : workload.checkFile destination owner = .ok group) :
    destination.toList.head? = some '/' ∧
      destination ∉ workload.files.map InstanceFile.destination ∧ 0 ≤ group ∧
      (workload.state = .preparing ∨ ∀ existing, workload.fsGroup = some existing → existing = group) := by
  unfold checkFile at checked
  split at checked
  · cases checked
  rename_i absolute
  split at checked
  · cases checked
  rename_i free
  have fresh : destination ∉ workload.files.map InstanceFile.destination := by
    simpa using free
  refine ⟨Decidable.not_not.mp absolute, fresh, ?_⟩
  cases parsed : Owner.parse owner with
  | none =>
      rw [parseOwner, parsed] at checked
      cases checked
  | some pair =>
      rcases pair with ⟨user, found⟩
      simp only [parseOwner, parsed, bind, Except.bind] at checked
      cases shared : workload.fsGroup with
      | none =>
          rw [shared] at checked
          obtain rfl := Except.ok.inj checked
          refine ⟨Owner.nonneg_of_parse parsed, Or.inr fun other same => ?_⟩
          cases same
      | some existing =>
          rw [shared] at checked
          dsimp only at checked
          split at checked
          · cases checked
          rename_i united
          obtain rfl := Except.ok.inj checked
          refine ⟨Owner.nonneg_of_parse parsed, ?_⟩
          by_cases preparing : workload.state = .preparing
          · exact Or.inl preparing
          · refine Or.inr fun other same => ?_
            obtain rfl := Option.some.inj same
            exact Decidable.not_not.mp fun apart => united ⟨preparing, apart⟩

namespace Instance

variable {workload : Instance} {contents : List UInt8} {destination : String} {group : Int64}

theorem deployedFiles_withBakedFile :
    (workload.withBakedFile contents destination group).deployedFiles = workload.deployedFiles := by
  simp [deployedFiles, withBakedFile]

theorem deployedFiles_withDeployedFile :
    (workload.withDeployedFile contents destination group).deployedFiles =
      workload.deployedFiles ++ [⟨destination, group, contents, false⟩] := by
  simp [deployedFiles, withDeployedFile]

namespace HasSoundFiles

theorem of_eq {left : Instance} (held : workload.HasSoundFiles) (files : left.files = workload.files)
    (shared : left.fsGroup = workload.fsGroup) : left.HasSoundFiles := by
  have deployed : left.deployedFiles = workload.deployedFiles := by
    rw [deployedFiles, files, deployedFiles]
  constructor
  · exact files ▸ held.distinct
  · exact files ▸ held.absolute
  · exact files ▸ held.owned
  · rw [deployed, shared]
    exact held.shared
  · rw [deployed, shared]
    exact held.grouped

/-- What holds of every file still does when one is added of which it holds. -/
private theorem forall_concat {holds : InstanceFile → Prop} {files : List InstanceFile}
    {file : InstanceFile} (former : ∀ file ∈ files, holds file) (last : holds file) :
    ∀ other ∈ files ++ [file], holds other :=
  List.forall_mem_append.mpr ⟨former, List.forall_mem_singleton.mpr last⟩

private theorem distinct_concat {file : InstanceFile} (held : workload.HasSoundFiles)
    (fresh : file.destination ∉ workload.files.map InstanceFile.destination) :
    ((workload.files ++ [file]).map InstanceFile.destination).Nodup := by
  rw [List.map_append]
  exact nodup_concat held.distinct fresh

theorem withBakedFile {owner : String} (held : workload.HasSoundFiles)
    (checked : workload.checkFile destination owner = .ok group) :
    (workload.withBakedFile contents destination group).HasSoundFiles := by
  rcases fits_of_checkFile checked with ⟨absolute, fresh, owned, _⟩
  constructor
  · exact held.distinct_concat fresh
  · exact forall_concat held.absolute absolute
  · exact forall_concat held.owned owned
  · rw [deployedFiles_withBakedFile]
    exact held.shared
  · rw [deployedFiles_withBakedFile]
    exact held.grouped

/-- A file that is deployed has the group of those before it, or gives the pod its group. -/
theorem withDeployedFile {owner : String} (held : workload.HasSoundFiles)
    (committed : workload.state = .committed)
    (checked : workload.checkFile destination owner = .ok group) :
    (workload.withDeployedFile contents destination group).HasSoundFiles := by
  rcases fits_of_checkFile checked with ⟨absolute, fresh, owned, preparing | united⟩
  · rw [committed] at preparing
    cases preparing
  constructor
  · exact held.distinct_concat fresh
  · exact forall_concat held.absolute absolute
  · exact forall_concat held.owned owned
  · rw [deployedFiles_withDeployedFile]
    refine forall_concat (fun file listed => ?_) rfl
    exact congrArg some (united _ (held.shared file listed)).symm
  · rw [deployedFiles_withDeployedFile]
    simp [Instance.withDeployedFile]

end HasSoundFiles
end Instance

/-! ## At all times -/

theorem hereditary_description : Hereditary Instance.HasSoundDescription where
  blank {_ _ _} :=
    { tcpPorts_nodup := .nil
      zero_notMem_tcpPorts := List.not_mem_nil
      udpPorts_nodup := .nil
      zero_notMem_udpPorts := List.not_mem_nil
      capabilities_nodup := .nil
      named := fun _ impossible => nomatch impossible
      mounted := fun _ impossible => nomatch impossible
      granting := fun _ impossible => nomatch impossible }
  copied held _ := { held with }
  linked held := { held with }
  amended held amendment := by
    cases amendment with
    | edited edited =>
        rcases Instance.edit_eq_ok_iff.mp edited with ⟨_, sound, rfl⟩
        exact held.change sound
    | _ => exact { held with }
  resolved held := { held with }
  prepared held _ := { held with }
  committed held _ := { held with }
  moved held _ _ := { held with }
  replaced held _ := { held with }

theorem hereditary_files : Hereditary Instance.HasSoundFiles where
  blank {_ _ _} :=
    { distinct := .nil
      absolute := fun _ impossible => nomatch impossible
      owned := fun _ impossible => nomatch impossible
      shared := fun _ impossible => nomatch impossible
      grouped := ⟨nofun, fun filed => absurd rfl filed⟩ }
  copied held _ := held.of_eq rfl rfl
  linked held := held.of_eq rfl rfl
  amended held amendment := by
    cases amendment with
    | @edited change _ edited =>
        rcases Instance.edit_eq_ok_iff.mp edited with ⟨_, _, rfl⟩
        rcases change.files_change _ with ⟨files, shared⟩
        exact held.of_eq files shared
    | baked _ checked => exact held.withBakedFile checked
    | deployed committed checked => exact held.withDeployedFile committed checked
    | _ => exact held.of_eq rfl rfl
  resolved held := held.of_eq rfl rfl
  prepared held _ := held.of_eq rfl rfl
  committed held _ := held.of_eq rfl rfl
  moved held _ _ := held.of_eq rfl rfl
  replaced held _ := held.of_eq rfl rfl

/-- Whatever is done with a testbed, and whatever fails: every instance has a sound description, a port
to be shaped through that is not zero, and sound files. -/
theorem soundness_of_reaches {setup : Setup} {history : List Record} {registry : Registry}
    {id : InstanceId} {workload : Instance} (reached : Reaches setup history registry)
    (found : registry.get? id = some workload) :
    workload.HasSoundDescription ∧ workload.fault.port ≠ 0 ∧ workload.HasSoundFiles :=
  ⟨hereditary_description.of_reaches reached id workload found,
    hereditary_port.of_reaches reached id workload found,
    hereditary_files.of_reaches reached id workload found⟩

/-- An instance that listens and has a file beside its image is described and copied. -/
def Call.filedCopy : List Call :=
  [.create "main", .setImage ⟨0⟩ "busybox", .commit ⟨0⟩, .edit ⟨0⟩ (.addTcpPort 80),
    .addFileBytes ⟨0⟩ [] "/etc/main.conf" "0:7", .cloneWithName ⟨0⟩ "copy"]

/-- The copy has the port, the file and the group, and obeys the rules on them. -/
theorem soundness_of_filedCopy :
    let ended := trial .plain .agreeable Call.filedCopy
    Reaches .plain ended.1 ended.2 ∧ ∃ copy, ended.2.get? ⟨1⟩ = some copy ∧ copy.tcpPorts = [80] ∧
      copy.fsGroup = some 7 ∧ copy.HasSoundDescription ∧ copy.fault.port ≠ 0 ∧ copy.HasSoundFiles := by
  have reached := reaches_trial .plain .agreeable Call.filedCopy
  have shape : ((trial .plain .agreeable Call.filedCopy).2.get? ⟨1⟩).map
      (fun copy => (copy.tcpPorts, copy.fsGroup)) = some ([80], some 7) := by decide +kernel
  rcases Option.map_eq_some_iff.mp shape with ⟨copy, found, same⟩
  rcases Prod.mk.inj same with ⟨ports, group⟩
  exact ⟨reached, copy, found, ports, group, soundness_of_reaches reached found⟩

end Testbed
