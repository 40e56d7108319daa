import Mathlib.Data.List.Forall2
import Mathlib.Data.List.Nodup
import Testbed.Proofs.Mounts
import Testbed.Proofs.Serial.Rearrangement
import Testbed.Proofs.Supporting
import Testbed.Proofs.Text.Base64

namespace Testbed

/-!
# What a pod finds where it looks

The parts of a compiled pod refer to each other by name: a container mounts volumes, a volume is made of a
claim or of a config map, and a mounted file is found under a key of the latter.  All these names are made
in different places from the cluster names of the members, and the keys from the positions of the files.
They agree: whatever is referred to is there once, and a container that follows the names finds at the
destination of each deployed file what the file contains.
-/

/-- What a volume is made of, by kind and name. -/
def Volume.source? (volume : Volume) : Option (ResourceKind × String) :=
  match volume.claim, volume.configMap with
  | some claim, none => some (.storageClaim, claim.claimName)
  | none, some files => some (.configMap, files.name)
  | _, _ => none

/-- The mounts of a container that show it one file each. -/
def Container.fileMounts (container : Container) : List VolumeMount :=
  container.volumeMounts.filter fun mount => mount.subPath.isSome

/-- A resource as a config map, if it is one. -/
def Resource.configMap? : Resource → Option ConfigMap
  | configMap files => some files
  | _ => none

namespace CompiledPod

/-- What the pod consists of. -/
def podSpec (compiled : CompiledPod) : PodSpec :=
  compiled.replicaSet.spec.template.spec

/-- The config map of a name among what supports the pod. -/
def configMap? (compiled : CompiledPod) (name : String) : Option ConfigMap :=
  (compiled.supporting.filterMap Resource.configMap?).find? fun files => files.metadata.name == name

/-- What a container finds in a mounted file: the bytes under the sub path of the mount, in the config map
that the volume of the mount's name is made of. -/
def contents? (compiled : CompiledPod) (mount : VolumeMount) : Option (List UInt8) := do
  let key ← mount.subPath
  let volume ← compiled.podSpec.volumes.find? fun volume => volume.name == mount.name
  let source ← volume.configMap
  let files ← compiled.configMap? source.name
  let text ← files.binaryData.get? key
  Text.Base64.decode text.toList

/-- Whether whatever the parts of a compiled pod refer to is there. -/
structure IsClosed (compiled : CompiledPod) : Prop where
  distinct : (compiled.podSpec.volumes.map Volume.name).Nodup
  /-- What is mounted is a volume of the pod. -/
  mounted : ∀ container ∈ compiled.podSpec.containers ++ compiled.podSpec.initContainers,
    ∀ mount ∈ container.volumeMounts, mount.name ∈ compiled.podSpec.volumes.map Volume.name
  /-- What a volume is made of is applied with the pod, in the same space. -/
  supplied : ∀ volume ∈ compiled.podSpec.volumes, ∃ resource ∈ compiled.supporting,
    volume.source? = some (resource.resourceKind, resource.name) ∧
      resource.metadata.space = compiled.replicaSet.metadata.space

/-- Whether a container is there for a member and finds the member's deployed files, each at its
destination, and whether the config map of the member has nothing else. -/
structure Carries (compiled : CompiledPod) (member : Instance) (container : Container) : Prop where
  name : container.name = member.clusterName
  found : container.fileMounts.map (fun mount => (mount.mountPath, compiled.contents? mount)) =
    member.deployedFiles.map fun file => (file.destination, some file.contents)
  /-- All files are mounted from the volume that is made of the member's config map. -/
  volume : ∀ mount ∈ container.fileMounts, mount.name = Naming.config member.clusterName
  /-- There is no key but those of the mounts, and no two mounts have the same. -/
  keys : ∀ files, .configMap files ∈ compiled.supporting →
    files.metadata.name = Naming.config member.clusterName →
      files.data = .empty ∧
        (files.binaryData.entries.map fun entry => some entry.1).Perm
          (container.fileMounts.map VolumeMount.subPath)

end CompiledPod

/-! ## Names -/

namespace Naming

variable {first last : String}

theorem volume_inj (same : volume first = volume last) : first = last :=
  (String.append_left_inj _).mp same

theorem config_inj (same : config first = config last) : first = last :=
  (String.append_left_inj _).mp same

theorem volume_ne_config : volume first ≠ config last := by
  intro same
  have ends := congrArg (fun name : String => name.toList.getLast?) same
  simp [volume, config, List.getLast?_append] at ends

end Naming

/-- Numbers that differ are written differently. -/
theorem toString_nat_injective {first last : Nat} (same : toString first = toString last) :
    first = last := by
  have digits : (toString first).toList = (toString last).toList := congrArg String.toList same
  rw [Nat.toString_eq_ofList_toDigits, Nat.toString_eq_ofList_toDigits, String.toList_ofList,
    String.toList_ofList] at digits
  rw [← Nat.ofDigitChars_ten_toDigits (n := first), digits, Nat.ofDigitChars_ten_toDigits]

theorem Instance.fileKey_injective {first last : Nat} (same : fileKey first = fileKey last) :
    first = last :=
  toString_nat_injective ((String.append_right_inj _).mp same)

/-- A search finds what fits, if nothing else does. -/
theorem find?_eq_some_of_unique {items : List α} {item : α} {fits : α → Bool} (listed : item ∈ items)
    (here : fits item = true) (single : ∀ other ∈ items, fits other = true → other = item) :
    items.find? fits = some item := by
  cases found : items.find? fits with
  | none => exact absurd here (List.find?_eq_none.mp found item listed)
  | some other => rw [single other (List.mem_of_find?_eq_some found) (List.find?_some found)]

/-! ## Members -/

namespace Instance

variable {workload other : Instance} {volume second : Volume} {space : String} {files : ConfigMap}

/-- A member has a volume for its storage and one for its files, as far as it has any. -/
theorem mem_volumes_iff :
    volume ∈ workload.volumes ↔
      (workload.volume.isSome = true ∧ volume =
        .ofClaim (Naming.volume workload.clusterName) (Naming.volume workload.clusterName)) ∨
      (workload.deployedFiles ≠ [] ∧ volume =
        .ofConfigMap (Naming.config workload.clusterName) (Naming.config workload.clusterName)) := by
  rw [volumes, List.mem_append]
  apply or_congr
  · cases workload.volume <;> simp
  · cases workload.deployedFiles <;> simp

theorem nodup_volumes : (workload.volumes.map Volume.name).Nodup := by
  have apart : ¬ Naming.volume workload.clusterName = Naming.config workload.clusterName :=
    Naming.volume_ne_config
  rw [volumes]
  cases workload.volume <;> cases workload.deployedFiles <;>
    simp [Volume.ofClaim, Volume.ofConfigMap, apart]

/-- The name of a volume tells which member it is there for, and what it is. -/
theorem volume_unique (listed : volume ∈ workload.volumes) (again : second ∈ other.volumes)
    (same : volume.name = second.name) : workload.clusterName = other.clusterName ∧ volume = second := by
  rcases mem_volumes_iff.mp listed with ⟨_, rfl⟩ | ⟨_, rfl⟩
  · rcases mem_volumes_iff.mp again with ⟨_, rfl⟩ | ⟨_, rfl⟩
    · have named := Naming.volume_inj same
      exact ⟨named, by rw [named]⟩
    · exact absurd same Naming.volume_ne_config
  · rcases mem_volumes_iff.mp again with ⟨_, rfl⟩ | ⟨_, rfl⟩
    · exact absurd same.symm Naming.volume_ne_config
    · have named := Naming.config_inj same
      exact ⟨named, by rw [named]⟩

/-- What a member mounts is a volume of its own. -/
theorem name_mem_of_mounts {mount : VolumeMount} (listed : mount ∈ workload.mounts) :
    mount.name ∈ workload.volumes.map Volume.name := by
  rw [List.mem_map]
  rcases List.mem_append.mp listed with storage | file
  · rcases List.mem_map.mp storage with ⟨description, given, rfl⟩
    have stored : workload.volume.isSome = true :=
      Option.isSome_iff_exists.mpr ⟨description, Option.mem_toList.mp given⟩
    exact ⟨_, mem_volumes_iff.mpr (Or.inl ⟨stored, rfl⟩), rfl⟩
  · rcases List.mem_mapIdx.mp file with ⟨index, below, rfl⟩
    have filed : workload.deployedFiles ≠ [] := List.ne_nil_of_length_pos (Nat.zero_lt_of_lt below)
    exact ⟨_, mem_volumes_iff.mpr (Or.inr ⟨filed, rfl⟩), rfl⟩

/-- The container that hands a volume to its owner mounts that volume. -/
theorem name_mem_of_ownerContainers {initImage : String} {container : Container} {mount : VolumeMount}
    (there : container ∈ workload.ownerContainers initImage) (listed : mount ∈ container.volumeMounts) :
    mount.name ∈ workload.volumes.map Volume.name := by
  rcases List.mem_map.mp there with ⟨description, owned, rfl⟩
  have given := (List.mem_filter.mp owned).1
  have stored : workload.volume.isSome = true :=
    Option.isSome_iff_exists.mpr ⟨description, Option.mem_toList.mp given⟩
  rw [List.mem_singleton.mp listed, List.mem_map]
  exact ⟨_, mem_volumes_iff.mpr (Or.inl ⟨stored, rfl⟩), rfl⟩

/-- Where a file of a member is mounted, and under which key it is found. -/
def fileMount (workload : Instance) (index : Nat) (file : InstanceFile) : VolumeMount where
  name := Naming.config workload.clusterName
  mountPath := file.destination
  subPath := some (fileKey index)

/-- The mounts of files are those with a sub path, so the one of the volume is none of them. -/
theorem fileMounts_of_container {container : Container} (made : workload.container = .ok container) :
    container.fileMounts = workload.deployedFiles.mapIdx workload.fileMount := by
  rw [Container.fileMounts, (parts_of_container made).2, mounts, List.filter_append]
  have storage : ((workload.volume.toList.map fun volume : VolumeDescription =>
      ({ name := Naming.volume workload.clusterName, mountPath := volume.path } : VolumeMount)).filter
        fun mount => mount.subPath.isSome) = [] := by
    cases workload.volume <;> simp
  rw [storage, List.nil_append]
  change (workload.deployedFiles.mapIdx workload.fileMount).filter _ = _
  rw [List.filter_eq_self]
  intro mount listed
  rcases List.mem_mapIdx.mp listed with ⟨index, below, rfl⟩
  rfl

/-! ## Config maps -/

/-- The entries of a config map: each deployed file under a key of its own. -/
def fileEntries (workload : Instance) : List (String × String) :=
  workload.deployedFiles.mapIdx fun index file => (fileKey index, Text.base64 file.contents)

theorem haveDistinctNames_fileEntries : Json.HaveDistinctNames workload.fileEntries := by
  apply List.pairwise_iff_getElem.mpr
  intro early late earlyBelow lateBelow before same
  simp only [fileEntries, List.getElem_mapIdx] at same
  exact Nat.ne_of_lt before (fileKey_injective same)

theorem exists_configMap (filed : workload.deployedFiles ≠ []) :
    ∃ files, workload.configMap space = some files := by
  rw [configMap, if_neg (by simpa using filed)]
  exact ⟨_, rfl⟩

/-- What is in a config map: the files under their keys, and nothing else. -/
theorem parts_of_configMap (made : workload.configMap space = some files) :
    files.metadata.name = Naming.config workload.clusterName ∧ files.metadata.space = space ∧
      files.data = .empty ∧ files.binaryData.entries.Perm workload.fileEntries := by
  rw [configMap] at made
  split at made
  · cases made
  · cases made
    exact ⟨rfl, rfl, rfl, Json.perm_ofList haveDistinctNames_fileEntries⟩

/-- Under the key of a deployed file there are its contents in base 64. -/
theorem get?_fileKey {index : Nat} {file : InstanceFile} (made : workload.configMap space = some files)
    (listed : workload.deployedFiles[index]? = some file) :
    files.binaryData.get? (fileKey index) = some (Text.base64 file.contents) := by
  rcases parts_of_configMap made with ⟨_, _, _, same⟩
  apply (Json.HaveDistinctNames.lookup_eq_some_iff (Json.haveDistinctNames_entries _)).mpr
  apply same.symm.subset
  rcases List.getElem?_eq_some_iff.mp listed with ⟨below, rfl⟩
  exact List.mem_mapIdx.mpr ⟨index, below, rfl⟩

end Instance

/-! ## Pods -/

/-- What comes of the members of a list, member by member, if nothing fails. -/
theorem forall₂_of_mapM {make : α → Except ε β} {items : List α} {results : List β}
    (made : items.mapM make = .ok results) :
    List.Forall₂ (fun item result => make item = .ok result) items results := by
  induction items generalizing results with
  | nil =>
      cases made
      exact .nil
  | cons first rest inductionHypothesis =>
      rw [List.mapM_cons] at made
      cases head : make first with
      | error error =>
          rw [head] at made
          cases made
      | ok result =>
          cases tail : rest.mapM make with
          | error error =>
              rw [head, tail] at made
              cases made
          | ok others =>
              rw [head, tail] at made
              cases made
              exact .cons head (inductionHypothesis tail)

theorem exists_of_mem_right {relates : α → β → Prop} {items : List α} {results : List β} {result : β}
    (related : List.Forall₂ relates items results) (listed : result ∈ results) :
    ∃ item ∈ items, relates item result := by
  induction related with
  | nil => cases listed
  | cons head _ inductionHypothesis =>
      rcases List.mem_cons.mp listed with rfl | later
      · exact ⟨_, List.mem_cons_self, head⟩
      · rcases inductionHypothesis later with ⟨item, among, relates⟩
        exact ⟨item, List.mem_cons_of_mem _ among, relates⟩

namespace Pod

variable {pod : Pod} {compiled : CompiledPod} {member other : Instance} {container : Container}

/-- What a pod is compiled to, part by part. -/
theorem parts_of_compile (made : pod.compile = .ok compiled) :
    compiled.supporting = pod.supporting ∧ compiled.replicaSet.metadata.space = pod.space ∧
      compiled.podSpec.volumes = pod.members.flatMap Instance.volumes ∧
      compiled.podSpec.initContainers =
        pod.members.flatMap (fun member => member.ownerContainers pod.initImage) ∧
      List.Forall₂ (fun member container => member.container = .ok container) pod.members
        compiled.podSpec.containers := by
  rcases compile_eq_ok_iff.mp made with ⟨unit, supporting⟩
  rcases parts_of_replicaSet unit with ⟨containers, listed, metadata, spec⟩
  rw [CompiledPod.podSpec, spec]
  exact ⟨supporting, congrArg Metadata.space metadata, rfl, rfl, forall₂_of_mapM listed⟩

/-- What one member needs is among what supports the pod. -/
theorem mem_supporting {resource : Resource} (listed : member ∈ pod.members)
    (needed : resource ∈ pod.memberResources member) : resource ∈ pod.supporting :=
  List.mem_append_right _ (List.mem_flatMap.mpr ⟨member, listed, needed⟩)

theorem claim_mem_memberResources {description : VolumeDescription}
    (given : member.volume = some description) :
    .storageClaim (.ofSize (Naming.volume member.clusterName) pod.space description.size) ∈
      pod.memberResources member := by
  simp [memberResources, given]

theorem configMap_mem_memberResources {files : ConfigMap}
    (carries : member.configMap pod.space = some files) :
    .configMap files ∈ pod.memberResources member := by
  simp [memberResources, carries]

theorem eq_of_clusterName (named : (pod.members.map Instance.clusterName).Nodup)
    (listed : member ∈ pod.members) (again : other ∈ pod.members)
    (same : member.clusterName = other.clusterName) : member = other :=
  List.inj_on_of_nodup_map named listed again same

/-- A config map among what supports the pod is that of the member it is named after. -/
theorem configMap_eq_of_mem {files : ConfigMap} (named : (pod.members.map Instance.clusterName).Nodup)
    (listed : member ∈ pod.members) (supports : .configMap files ∈ pod.supporting)
    (same : files.metadata.name = Naming.config member.clusterName) :
    member.configMap pod.space = some files := by
  rcases supports_of_mem supports with ⟨other, there, carries⟩
  cases carries with
  | files carries =>
      have own := (Instance.parts_of_configMap carries).1
      have known : other.clusterName = member.clusterName := Naming.config_inj (own.symm.trans same)
      rw [← eq_of_clusterName named there listed known]
      exact carries

/-- No two volumes of a pod whose members have names of their own share a name. -/
theorem nodup_volumes (named : (pod.members.map Instance.clusterName).Nodup) :
    ((pod.members.flatMap Instance.volumes).map Volume.name).Nodup := by
  rw [List.map_flatMap, List.nodup_flatMap]
  refine ⟨fun _ _ => Instance.nodup_volumes, ?_⟩
  apply (List.pairwise_map.mp named).imp
  intro first last apart name early late
  rcases List.mem_map.mp early with ⟨volume, listed, rfl⟩
  rcases List.mem_map.mp late with ⟨second, again, same⟩
  exact apart (Instance.volume_unique listed again same.symm).1

/-- A compiled pod is closed if its members have names of their own. -/
theorem isClosed_of_compile (named : (pod.members.map Instance.clusterName).Nodup)
    (made : pod.compile = .ok compiled) : compiled.IsClosed := by
  rcases parts_of_compile made with ⟨supporting, space, volumes, owners, containers⟩
  have declared {name : String} {member : Instance} (listed : member ∈ pod.members)
      (own : name ∈ member.volumes.map Volume.name) :
      name ∈ compiled.podSpec.volumes.map Volume.name := by
    rw [volumes, List.map_flatMap]
    exact List.mem_flatMap.mpr ⟨member, listed, own⟩
  constructor
  · rw [volumes]
    exact nodup_volumes named
  · intro container there mount listed
    rcases List.mem_append.mp there with running | preparing
    · rcases exists_of_mem_right containers running with ⟨member, follows, own⟩
      rw [(Instance.parts_of_container own).2] at listed
      exact declared follows (Instance.name_mem_of_mounts listed)
    · rw [owners] at preparing
      rcases List.mem_flatMap.mp preparing with ⟨member, follows, own⟩
      exact declared follows (Instance.name_mem_of_ownerContainers own listed)
  · intro volume listed
    rw [volumes] at listed
    rw [supporting, space]
    rcases List.mem_flatMap.mp listed with ⟨member, follows, own⟩
    rcases Instance.mem_volumes_iff.mp own with ⟨stored, rfl⟩ | ⟨filed, rfl⟩
    · rcases Option.isSome_iff_exists.mp stored with ⟨description, given⟩
      exact ⟨_, mem_supporting follows (claim_mem_memberResources given), rfl, rfl⟩
    · rcases Instance.exists_configMap filed with ⟨files, carries⟩
      rcases Instance.parts_of_configMap carries with ⟨name, own, _⟩
      refine ⟨_, mem_supporting follows (configMap_mem_memberResources carries), ?_, own⟩
      exact congrArg (fun name => some (ResourceKind.configMap, name)) name.symm

/-- What a container finds in the mount of a deployed file is what the file contains. -/
theorem contents?_of_mount {index : Nat} {file : InstanceFile}
    (named : (pod.members.map Instance.clusterName).Nodup) (made : pod.compile = .ok compiled)
    (listed : member ∈ pod.members) (deployed : member.deployedFiles[index]? = some file) :
    compiled.contents? (member.fileMount index file) = some file.contents := by
  rcases parts_of_compile made with ⟨supporting, _, volumes, _, _⟩
  have filed : member.deployedFiles ≠ [] := by
    intro empty
    rw [empty] at deployed
    cases deployed
  have carried : ∃ files, member.configMap pod.space = some files := Instance.exists_configMap filed
  rcases carried with ⟨files, carries⟩
  have volume : compiled.podSpec.volumes.find?
      (fun volume => volume.name == Naming.config member.clusterName) =
        some (.ofConfigMap (Naming.config member.clusterName) (Naming.config member.clusterName)) := by
    have own := Instance.mem_volumes_iff.mpr (Or.inr ⟨filed, rfl⟩)
    rw [volumes]
    apply find?_eq_some_of_unique (List.mem_flatMap.mpr ⟨member, listed, own⟩)
    · exact beq_self_eq_true (Naming.config member.clusterName)
    · intro other among same
      rcases List.mem_flatMap.mp among with ⟨follower, _, there⟩
      exact (Instance.volume_unique there own (eq_of_beq same)).2
  have source : compiled.configMap? (Naming.config member.clusterName) = some files := by
    rw [CompiledPod.configMap?, supporting]
    apply find?_eq_some_of_unique
    · have supports := mem_supporting listed (configMap_mem_memberResources carries)
      exact List.mem_filterMap.mpr ⟨_, supports, rfl⟩
    · exact beq_iff_eq.mpr (Instance.parts_of_configMap carries).1
    · intro other among same
      rcases List.mem_filterMap.mp among with ⟨resource, supports, known⟩
      cases resource with
      | configMap found =>
          obtain rfl := Option.some.inj known
          have again := configMap_eq_of_mem named listed supports (eq_of_beq same)
          exact Option.some.inj (again.symm.trans carries)
      | _ => cases known
  simp only [CompiledPod.contents?, Instance.fileMount, Option.bind_eq_bind, Option.bind_some, volume,
    Volume.ofConfigMap, source, Instance.get?_fileKey carries deployed, Text.decode_base64]

/-- The container of a member finds the files of the member. -/
theorem carries_of_compile (named : (pod.members.map Instance.clusterName).Nodup)
    (made : pod.compile = .ok compiled) (listed : member ∈ pod.members)
    (contained : member.container = .ok container) : compiled.Carries member container := by
  have mounts := Instance.fileMounts_of_container contained
  constructor
  · exact (Instance.parts_of_container contained).1
  · rw [mounts]
    apply List.ext_getElem?
    intro index
    rw [List.getElem?_map, List.getElem?_map, List.getElem?_mapIdx, Option.map_map]
    cases deployed : member.deployedFiles[index]? with
    | none => rfl
    | some file =>
        rw [Option.map_some, Option.map_some, Function.comp_apply,
          contents?_of_mount named made listed deployed]
        rfl
  · intro mount there
    rw [mounts] at there
    rcases List.mem_mapIdx.mp there with ⟨index, _, rfl⟩
    rfl
  · intro files supports same
    rw [(parts_of_compile made).1] at supports
    have carries := configMap_eq_of_mem named listed supports same
    rcases Instance.parts_of_configMap carries with ⟨_, _, empty, entries⟩
    refine ⟨empty, ?_⟩
    have keys : (member.fileEntries.map fun entry => some entry.1) =
        container.fileMounts.map VolumeMount.subPath := by
      rw [mounts, Instance.fileEntries]
      apply List.ext_getElem?
      intro index
      simp only [List.getElem?_map, List.getElem?_mapIdx, Option.map_map, Function.comp_def,
        Instance.fileMount]
    rw [← keys]
    exact entries.map _

end Pod

/-- A pod whose members have images and names of their own is compiled to one in which every reference
leads somewhere, and each container finds the deployed files of its member, byte by byte. -/
theorem contents_of_compile {pod : Pod} (named : (pod.members.map Instance.clusterName).Nodup)
    (imaged : ∀ member ∈ pod.members, member.image ≠ none) :
    ∃ compiled, pod.compile = .ok compiled ∧ compiled.IsClosed ∧
      List.Forall₂ compiled.Carries pod.members compiled.podSpec.containers := by
  rcases Pod.exists_compile imaged with ⟨compiled, made⟩
  refine ⟨compiled, made, Pod.isClosed_of_compile named made, ?_⟩
  have containers := (Pod.parts_of_compile made).2.2.2.2
  have listed := (List.forall₂_and_left _ _).mpr ⟨fun member among => among, containers⟩
  exact listed.imp fun member container parts => Pod.carries_of_compile named made parts.1 parts.2

/-- An instance with storage, two deployed files and one that is part of its image, and a sidecar with a
file of its own. -/
def filedPod : Pod where
  parent :=
    { id := ⟨0⟩
      name := "main"
      clusterName := "main-a"
      image := some "busybox"
      volume := some ⟨"/data", "1Gi", 7⟩
      files := [⟨"/etc/first", 7, [1, 2, 3], false⟩, ⟨"/etc/baked", 0, [4], true⟩,
        ⟨"/etc/second", 7, [255], false⟩] }
  sidecars :=
    [{ id := ⟨1⟩
       name := "side"
       clusterName := "side-b"
       image := some "busybox"
       files := [⟨"/etc/first", 7, [], false⟩] }]
  space := "tidepool"
  initImage := "busybox"

/-- The containers find the files of their own members. -/
theorem contents_of_filedPod :
    ∃ compiled main side, filedPod.compile = .ok compiled ∧ compiled.IsClosed ∧
      compiled.podSpec.containers = [main, side] ∧
      main.fileMounts.map (fun mount => (mount.mountPath, compiled.contents? mount)) =
        [("/etc/first", some [1, 2, 3]), ("/etc/second", some [255])] ∧
      side.fileMounts.map (fun mount => (mount.mountPath, compiled.contents? mount)) =
        [("/etc/first", some [])] := by
  have named : (filedPod.members.map Instance.clusterName).Nodup := by decide
  have imaged : ∀ member ∈ filedPod.members, member.image ≠ none := by decide
  rcases contents_of_compile named imaged with ⟨compiled, made, closed, carries⟩
  rcases List.forall₂_cons_left_iff.mp carries with ⟨main, others, first, rest, listed⟩
  rcases List.forall₂_cons_left_iff.mp rest with ⟨side, none, second, last, rfl⟩
  cases last
  exact ⟨compiled, main, side, made, closed, listed, first.found, second.found⟩

end Testbed
