import Mathlib.Data.List.Forall2
import Testbed.Proofs.Registry

namespace Testbed

/-!
# Pods under other names

Whatever a pod is deployed as is named after one of its members, and refers to the rest of the pod by
such names. A renaming says what becomes of the cluster names of the members, and of the label that
carries the human name of the one that owns the pod. Applied to a resource, it changes every place
where such a name stands and nothing else.

Compilation respects renamings: a pod made of copies of the members of another pod is compiled to the
same resources, renamed. So nothing that a pod is compiled from is lost when its members are copied,
nothing of the identity of a member is kept, and no member is named in another one's place.
-/

/-! ## Labels -/

namespace StringMap

/-- A map with other values, each of which can depend on its key. -/
def mapValues (map : StringMap) (change : String → String → String) : StringMap :=
  ⟨map.entries.map fun entry => (entry.1, change entry.1 entry.2), List.pairwise_map.mpr map.sorted⟩

variable {map : StringMap} {change : String → String → String} {key value : String}

private theorem insertEntry_map (entries : List (String × String)) :
    insertEntry key (change key value) (entries.map fun entry => (entry.1, change entry.1 entry.2)) =
      (insertEntry key value entries).map fun entry => (entry.1, change entry.1 entry.2) := by
  induction entries with
  | nil => rfl
  | cons first rest inductionHypothesis =>
      simp only [List.map_cons, insertEntry]
      by_cases before : key < first.1
      · simp only [if_pos before, List.map_cons]
      · by_cases behind : first.1 < key
        · simp only [if_neg before, if_pos behind, List.map_cons, inductionHypothesis]
        · simp only [if_neg before, if_neg behind, List.map_cons]

theorem mapValues_insert :
    (map.insert key value).mapValues change =
      (map.mapValues change).insert key (change key value) := by
  have entries : insertEntry key (change key value) _ = _ := insertEntry_map map.entries
  simp only [mapValues, insert, entries]

theorem mapValues_insertAll {pairs : List (String × String)} :
    (map.insertAll pairs).mapValues change =
      (map.mapValues change).insertAll (pairs.map fun pair => (pair.1, change pair.1 pair.2)) := by
  induction pairs generalizing map with
  | nil => rfl
  | cons first rest inductionHypothesis =>
      rw [insertAll, List.foldl_cons, ← insertAll, inductionHypothesis, mapValues_insert]
      rfl

theorem mapValues_ofList {pairs : List (String × String)} :
    (ofList pairs).mapValues change = ofList (pairs.map fun pair => (pair.1, change pair.1 pair.2)) :=
  mapValues_insertAll

theorem mapValues_single : (single key value).mapValues change = single key (change key value) :=
  mapValues_insert

end StringMap

/-! ## Names -/

/-- What a name that ends in a suffix begins with. -/
def Naming.stem (suffix name : String) : String :=
  String.ofList (name.toList.take (name.toList.length - suffix.toList.length))

theorem Naming.stem_append (name suffix : String) : stem suffix (name ++ suffix) = name := by
  have longer : (name.toList ++ suffix.toList).length - suffix.toList.length = name.toList.length := by
    simp only [List.length_append, Nat.add_sub_cancel]
  rw [stem, String.toList_append, longer, List.take_left, String.ofList_toList]

/-- What becomes of the names in a pod. -/
structure Renaming where
  /-- What becomes of a cluster name. -/
  cluster : String → String
  /-- The label with the human name of the pod's owner. -/
  owner : String

namespace Renaming

variable {names : Renaming}

/-- What becomes of a name that is derived from a cluster name by a suffix. -/
def derived (names : Renaming) (derive : String → String) (name : String) : String :=
  derive (names.cluster (Naming.stem (derive "") name))

theorem derived_eq {derive : String → String} (clusterName : String)
    (suffixed : derive clusterName = clusterName ++ derive "") :
    names.derived derive (derive clusterName) = derive (names.cluster clusterName) := by
  rw [derived, suffixed, Naming.stem_append]

theorem derived_volume {clusterName : String} :
    names.derived Naming.volume (Naming.volume clusterName) =
      Naming.volume (names.cluster clusterName) :=
  derived_eq clusterName rfl

theorem derived_config {clusterName : String} :
    names.derived Naming.config (Naming.config clusterName) =
      Naming.config (names.cluster clusterName) :=
  derived_eq clusterName rfl

theorem derived_ownerContainer {clusterName : String} :
    names.derived Naming.ownerContainer (Naming.ownerContainer clusterName) =
      Naming.ownerContainer (names.cluster clusterName) :=
  derived_eq clusterName rfl

/-! ## Renamed resources -/

/-- What becomes of the value of a label. -/
def label (names : Renaming) (key value : String) : String :=
  if key = Label.app then names.cluster value
  else if key = Label.name then names.owner
  else value

/-- Renamed metadata. How the name is derived depends on the kind of the resource. -/
def metadata (names : Renaming) (rename : String → String) (metadata : Metadata) : Metadata :=
  { metadata with
    name := rename metadata.name
    labels := metadata.labels.mapValues names.label }

@[simp]
theorem label_app {value : String} : names.label Label.app value = names.cluster value :=
  if_pos rfl

@[simp]
theorem label_manager {value : String} : names.label Label.manager value = value := by
  have elsewhere : Label.manager ≠ Label.app ∧ Label.manager ≠ Label.name := by decide
  rw [label, if_neg elsewhere.1, if_neg elsewhere.2]

@[simp]
theorem label_type {value : String} : names.label Label.type value = value := by
  have elsewhere : Label.type ≠ Label.app ∧ Label.type ≠ Label.name := by decide
  rw [label, if_neg elsewhere.1, if_neg elsewhere.2]

@[simp]
theorem label_name {value : String} : names.label Label.name value = names.owner := by
  have elsewhere : Label.name ≠ Label.app := by decide
  rw [label, if_neg elsewhere, if_pos rfl]

theorem metadata_fresh {rename : String → String} {name space : String} :
    names.metadata rename (.fresh name space) = .fresh (rename name) space := by
  simp only [metadata, Metadata.fresh, StringMap.mapValues_single, label_manager]

theorem metadata_withLabel {rename : String → String} {metadata : Metadata} {key value : String} :
    names.metadata rename (metadata.withLabel key value) =
      (names.metadata rename metadata).withLabel key (names.label key value) := by
  simp only [Renaming.metadata, Metadata.withLabel, StringMap.mapValues_insert]

theorem metadata_withLabels {rename : String → String} {metadata : Metadata} {labels : StringMap} :
    names.metadata rename (metadata.withLabels labels) =
      (names.metadata rename metadata).withLabels (labels.mapValues names.label) := by
  simp only [Renaming.metadata, Metadata.withLabels, StringMap.mapValues_insertAll]
  rfl

def selector (names : Renaming) (selector : LabelSelector) : LabelSelector :=
  { matchLabels := selector.matchLabels.mapValues names.label }

/-- A mount is of the volume of an instance, or of one file in its config map. -/
def mount (names : Renaming) (mount : VolumeMount) : VolumeMount :=
  { mount with
    name :=
      match mount.subPath with
      | none => names.derived Naming.volume mount.name
      | some _ => names.derived Naming.config mount.name }

theorem mount_volume {clusterName path : String} :
    names.mount { name := Naming.volume clusterName, mountPath := path } =
      { name := Naming.volume (names.cluster clusterName), mountPath := path } := by
  simp only [mount, derived_volume]

theorem mount_file {clusterName path file : String} :
    names.mount { name := Naming.config clusterName, mountPath := path, subPath := some file } =
      { name := Naming.config (names.cluster clusterName), mountPath := path, subPath := some file } := by
  simp only [mount, derived_config]

def volume (names : Renaming) (volume : Volume) : Volume :=
  { name :=
      match volume.configMap with
      | none => names.derived Naming.volume volume.name
      | some _ => names.derived Naming.config volume.name
    configMap := volume.configMap.map fun source =>
      { source with name := names.derived Naming.config source.name }
    claim := volume.claim.map fun source =>
      { source with claimName := names.derived Naming.volume source.claimName } }

theorem volume_ofClaim {clusterName : String} :
    names.volume (.ofClaim (Naming.volume clusterName) (Naming.volume clusterName)) =
      .ofClaim (Naming.volume (names.cluster clusterName)) (Naming.volume (names.cluster clusterName)) := by
  simp only [volume, Volume.ofClaim, Option.map_some, Option.map_none, derived_volume]

theorem volume_ofConfigMap {clusterName : String} :
    names.volume (.ofConfigMap (Naming.config clusterName) (Naming.config clusterName)) =
      .ofConfigMap (Naming.config (names.cluster clusterName))
        (Naming.config (names.cluster clusterName)) := by
  simp only [volume, Volume.ofConfigMap, Option.map_some, Option.map_none, derived_config]

/-- A renamed container. Those that run first have other names than those that stay. -/
def container (names : Renaming) (rename : String → String) (container : Container) : Container :=
  { container with
    name := rename container.name
    volumeMounts := container.volumeMounts.map names.mount }

def podSpec (names : Renaming) (spec : PodSpec) : PodSpec :=
  { spec with
    serviceAccountName := spec.serviceAccountName.map names.cluster
    containers := spec.containers.map (names.container names.cluster)
    initContainers :=
      spec.initContainers.map (names.container (names.derived Naming.ownerContainer))
    volumes := spec.volumes.map names.volume }

def replicaSet (names : Renaming) (unit : ReplicaSet) : ReplicaSet :=
  { unit with
    metadata := names.metadata names.cluster unit.metadata
    spec :=
      { unit.spec with
        selector := names.selector unit.spec.selector
        template :=
          { metadata := ⟨unit.spec.template.metadata.labels.mapValues names.label⟩
            spec := names.podSpec unit.spec.template.spec } } }

def storageClaim (names : Renaming) (claim : StorageClaim) : StorageClaim :=
  { claim with metadata := names.metadata (names.derived Naming.volume) claim.metadata }

def configMap (names : Renaming) (map : ConfigMap) : ConfigMap :=
  { map with metadata := names.metadata (names.derived Naming.config) map.metadata }

def serviceAccount (names : Renaming) (account : ServiceAccount) : ServiceAccount :=
  { account with metadata := names.metadata names.cluster account.metadata }

def role (names : Renaming) (role : Role) : Role :=
  { role with metadata := names.metadata names.cluster role.metadata }

/-- A binding names a role and the accounts that it is granted to. -/
def roleBinding (names : Renaming) (binding : RoleBinding) : RoleBinding :=
  { binding with
    metadata := names.metadata names.cluster binding.metadata
    roleRef := { binding.roleRef with name := names.cluster binding.roleRef.name }
    subjects := binding.subjects.map fun subject =>
      { subject with name := names.cluster subject.name } }

def service (names : Renaming) (service : Service) : Service :=
  { service with
    metadata := names.metadata names.cluster service.metadata
    spec := { service.spec with selector := service.spec.selector.mapValues names.label } }

/-- The peers of a policy are found by their roles, which are no names. -/
def networkPolicy (names : Renaming) (policy : NetworkPolicy) : NetworkPolicy :=
  { policy with
    metadata := names.metadata names.cluster policy.metadata
    spec := { policy.spec with podSelector := names.selector policy.spec.podSelector } }

def resource (names : Renaming) : Resource → Resource
  | .configMap value => .configMap (names.configMap value)
  | .storageClaim value => .storageClaim (names.storageClaim value)
  | .serviceAccount value => .serviceAccount (names.serviceAccount value)
  | .role value => .role (names.role value)
  | .roleBinding value => .roleBinding (names.roleBinding value)
  | .service value => .service (names.service value)
  | .replicaSet value => .replicaSet (names.replicaSet value)
  | .networkPolicy value => .networkPolicy (names.networkPolicy value)

def compiledPod (names : Renaming) (compiled : CompiledPod) : CompiledPod :=
  { supporting := compiled.supporting.map names.resource
    replicaSet := names.replicaSet compiled.replicaSet }

end Renaming

/-! ## Copies -/

/-- Whether an instance is a copy of another, wherever it is attached and whatever is attached to it. -/
def Instance.IsCopyOf (source : Instance) (clusterName : String) (copy : Instance) : Prop :=
  ∃ id name parent sidecars, copy = { source.duplicate id name clusterName with parent, sidecars }

namespace Instance.IsCopyOf

variable {names : Renaming} {source copy : Instance} {clusterName owner space image : String}

theorem state_eq (copied : source.IsCopyOf clusterName copy) : copy.state = source.state := by
  rcases copied with ⟨id, name, parent, sidecars, rfl⟩
  rfl

theorem clusterName_eq (copied : source.IsCopyOf clusterName copy) :
    copy.clusterName = clusterName := by
  rcases copied with ⟨id, name, parent, sidecars, rfl⟩
  rfl

theorem volume_eq (copied : source.IsCopyOf clusterName copy) : copy.volume = source.volume := by
  rcases copied with ⟨id, name, parent, sidecars, rfl⟩
  rfl

theorem deployedFiles_eq (copied : source.IsCopyOf clusterName copy) :
    copy.deployedFiles = source.deployedFiles := by
  rcases copied with ⟨id, name, parent, sidecars, rfl⟩
  rfl

theorem ports_eq (copied : source.IsCopyOf clusterName copy) :
    copy.tcpPorts = source.tcpPorts ∧ copy.udpPorts = source.udpPorts := by
  rcases copied with ⟨id, name, parent, sidecars, rfl⟩
  exact ⟨rfl, rfl⟩

theorem policyRules_eq (copied : source.IsCopyOf clusterName copy) :
    copy.policyRules = source.policyRules := by
  rcases copied with ⟨id, name, parent, sidecars, rfl⟩
  rfl

theorem fsGroup_eq (copied : source.IsCopyOf clusterName copy) : copy.fsGroup = source.fsGroup := by
  rcases copied with ⟨id, name, parent, sidecars, rfl⟩
  rfl

theorem podLabels_eq (copied : source.IsCopyOf (names.cluster source.clusterName) copy)
    (owned : Naming.labelValue copy.name = names.owner) :
    copy.podLabels = source.podLabels.mapValues names.label := by
  have named := copied.clusterName_eq
  have role : copy.kind = source.kind := by
    rcases copied with ⟨id, name, parent, sidecars, rfl⟩
    rfl
  simp only [podLabels, named, owned, role, StringMap.mapValues_ofList, List.map_cons, List.map_nil,
    Renaming.label_app, Renaming.label_name, Renaming.label_type]

theorem mounts_eq (copied : source.IsCopyOf (names.cluster source.clusterName) copy) :
    copy.mounts = source.mounts.map names.mount := by
  simp only [mounts, copied.clusterName_eq, copied.volume_eq, copied.deployedFiles_eq,
    List.map_append, List.map_map, List.mapIdx_eq_zipIdx_map, Function.comp_def,
    Renaming.mount_volume, Renaming.mount_file]

theorem container_eq {container : Container}
    (copied : source.IsCopyOf (names.cluster source.clusterName) copy)
    (made : source.container = .ok container) :
    copy.container = .ok (names.container names.cluster container) := by
  have mounted := copied.mounts_eq
  rcases copied with ⟨id, name, parent, sidecars, rfl⟩
  rw [Instance.container] at made ⊢
  cases known : source.image with
  | none =>
      rw [known] at made
      cases made
  | some image =>
      rw [known] at made
      obtain rfl := Except.ok.inj made
      simp only [duplicate, known, Renaming.container, ← mounted]
      rfl

theorem volumes_eq (copied : source.IsCopyOf (names.cluster source.clusterName) copy) :
    copy.volumes = source.volumes.map names.volume := by
  simp only [volumes, copied.clusterName_eq, copied.volume_eq, copied.deployedFiles_eq]
  by_cases bare : source.deployedFiles.isEmpty
  · simp only [if_pos bare, List.append_nil, List.map_map, Function.comp_def,
      Renaming.volume_ofClaim]
  · simp only [if_neg bare, List.map_append, List.map_map, List.map_cons, List.map_nil,
      Function.comp_def, Renaming.volume_ofClaim, Renaming.volume_ofConfigMap]

theorem ownerContainers_eq (copied : source.IsCopyOf (names.cluster source.clusterName) copy) :
    copy.ownerContainers image = (source.ownerContainers image).map
      (names.container (names.derived Naming.ownerContainer)) := by
  simp only [ownerContainers, copied.clusterName_eq, copied.volume_eq, List.map_map,
    Function.comp_def, Renaming.container, Renaming.derived_ownerContainer, List.map_cons,
    List.map_nil, Renaming.mount_volume]

theorem configMap_eq (copied : source.IsCopyOf (names.cluster source.clusterName) copy) :
    copy.configMap space = (source.configMap space).map names.configMap := by
  simp only [configMap, copied.clusterName_eq, copied.deployedFiles_eq]
  by_cases bare : source.deployedFiles.isEmpty
  · simp only [if_pos bare, Option.map_none]
  · simp only [if_neg bare, Option.map_some, Renaming.configMap, Renaming.metadata_withLabel,
      ConfigMap.fresh, ResourceKind.header, Renaming.metadata_fresh, Renaming.derived_config,
      Renaming.label_app]

theorem service_eq (copied : source.IsCopyOf (names.cluster source.clusterName) copy) :
    copy.service (names.cluster owner) space = (source.service owner space).map names.service := by
  rcases copied.ports_eq with ⟨tcp, udp⟩
  simp only [service, copied.clusterName_eq, tcp, udp]
  by_cases closed : (source.tcpPorts.isEmpty && source.udpPorts.isEmpty) = true
  · rw [if_pos closed, if_pos closed, Option.map_none]
  · rw [if_neg closed, if_neg closed, Option.map_some]
    simp only [Renaming.service, Renaming.metadata_withLabel, Service.fresh, ResourceKind.header,
      Renaming.metadata_fresh, StringMap.mapValues_single, Renaming.label_app]

end Instance.IsCopyOf

/-! ## Copied pods -/

/-- Whether an instance is a copy of another under the name that a renaming gives it. -/
def Renaming.Copies (names : Renaming) (source copy : Instance) : Prop :=
  source.IsCopyOf (names.cluster source.clusterName) copy

namespace Renaming

variable {names : Renaming} {sources copies : List Instance}

/-- What is made of all members of a pod is renamed if what is made of each of them is. -/
theorem flatMap_eq {make remake : Instance → List β} {rename : β → β}
    (copied : List.Forall₂ names.Copies sources copies)
    (each : ∀ source copy, names.Copies source copy → remake copy = (make source).map rename) :
    copies.flatMap remake = (sources.flatMap make).map rename := by
  induction copied with
  | nil => rfl
  | cons first _ inductionHypothesis =>
      rw [List.flatMap_cons, List.flatMap_cons, List.map_append, each _ _ first, inductionHypothesis]

theorem any_policyRules_eq (copied : List.Forall₂ names.Copies sources copies) :
    (copies.any fun member => !member.policyRules.isEmpty) =
      sources.any fun member => !member.policyRules.isEmpty := by
  induction copied with
  | nil => rfl
  | cons first _ inductionHypothesis =>
      rw [List.any_cons, List.any_cons, first.policyRules_eq, inductionHypothesis]

theorem containers_eq {containers : List Container}
    (copied : List.Forall₂ names.Copies sources copies)
    (made : sources.mapM Instance.container = .ok containers) :
    copies.mapM Instance.container = .ok (containers.map (names.container names.cluster)) := by
  induction copied generalizing containers with
  | nil =>
      obtain rfl : [] = containers := Except.ok.inj made
      rfl
  | @cons source copy sources copies first _ inductionHypothesis =>
      rw [List.mapM_cons] at made ⊢
      cases head : source.container with
      | error error =>
          rw [head] at made
          cases made
      | ok container =>
          cases tail : sources.mapM Instance.container with
          | error error =>
              rw [head, tail] at made
              cases made
          | ok rest =>
              rw [head, tail] at made
              obtain rfl := Except.ok.inj made
              rw [first.container_eq head, inductionHypothesis tail]
              rfl

end Renaming

namespace Pod

variable {names : Renaming} {source copy : Pod} {member copied : Instance}

/-- Whether a pod is made of copies of the members of another one. -/
structure IsCopyOf (names : Renaming) (source copy : Pod) : Prop where
  parent : names.Copies source.parent copy.parent
  owned : Naming.labelValue copy.parent.name = names.owner
  sidecars : List.Forall₂ names.Copies source.sidecars copy.sidecars
  space : copy.space = source.space
  initImage : copy.initImage = source.initImage

namespace IsCopyOf

theorem members (copies : IsCopyOf names source copy) :
    List.Forall₂ names.Copies source.members copy.members :=
  .cons copies.parent copies.sidecars

theorem account_eq (copies : IsCopyOf names source copy) :
    copy.account = source.account.map names.cluster := by
  rw [account, account, Renaming.any_policyRules_eq copies.members, copies.parent.clusterName_eq]
  by_cases acts : (source.members.any fun member => !member.policyRules.isEmpty) = true
  · rw [if_pos acts, if_pos acts, Option.map_some]
  · rw [if_neg acts, if_neg acts, Option.map_none]

theorem access_eq (copies : IsCopyOf names source copy) (follows : names.Copies member copied) :
    copy.access copied = (source.access member).map names.resource := by
  rw [access, access, follows.policyRules_eq, copies.account_eq, copies.space, follows.clusterName_eq]
  by_cases bare : member.policyRules.isEmpty = true
  · rw [if_pos bare, if_pos bare, List.map_nil]
  · rw [if_neg bare, if_neg bare]
    cases source.account with
    | none => rfl
    | some account =>
        simp only [Option.map_some, Option.toList_some, List.flatMap_cons, List.flatMap_nil,
          List.append_nil, List.map_cons, List.map_nil, Renaming.resource, Renaming.role,
          Renaming.roleBinding, Role.ofRules, RoleBinding.grant, ResourceKind.header,
          Renaming.metadata_fresh]

theorem memberResources_eq (copies : IsCopyOf names source copy)
    (follows : names.Copies member copied) :
    copy.memberResources copied = (source.memberResources member).map names.resource := by
  have config : copied.configMap source.space = _ := follows.configMap_eq
  have service : copied.service (names.cluster source.parent.clusterName) source.space = _ :=
    follows.service_eq
  rw [memberResources, memberResources, copies.access_eq follows, copies.space,
    copies.parent.clusterName_eq, config, service, follows.volume_eq, follows.clusterName_eq]
  simp only [List.map_append, List.map_map, Option.toList_map, Function.comp_def, Renaming.resource,
    Renaming.storageClaim, StorageClaim.ofSize, ResourceKind.header, Renaming.metadata_fresh,
    Renaming.derived_volume]

theorem supporting_eq (copies : IsCopyOf names source copy) :
    copy.supporting = source.supporting.map names.resource := by
  have resources : copy.members.flatMap copy.memberResources =
      (source.members.flatMap source.memberResources).map names.resource :=
    Renaming.flatMap_eq copies.members fun _ _ => copies.memberResources_eq
  rw [supporting, supporting, resources, copies.account_eq, copies.space, List.map_append]
  simp only [Option.toList_map, List.map_map, Function.comp_def, Renaming.resource,
    Renaming.serviceAccount, ServiceAccount.fresh, ResourceKind.header, Renaming.metadata_fresh]

theorem replicaSet_eq {unit : ReplicaSet} (copies : IsCopyOf names source copy)
    (made : source.replicaSet = .ok unit) : copy.replicaSet = .ok (names.replicaSet unit) := by
  rw [replicaSet] at made ⊢
  have labels : copy.parent.podLabels = _ := copies.parent.podLabels_eq copies.owned
  have volumes : copy.members.flatMap Instance.volumes =
      (source.members.flatMap Instance.volumes).map names.volume :=
    Renaming.flatMap_eq copies.members fun _ _ copied => copied.volumes_eq
  have owners : (copy.members.flatMap fun member => member.ownerContainers source.initImage) =
      (source.members.flatMap fun member => member.ownerContainers source.initImage).map
        (names.container (names.derived Naming.ownerContainer)) :=
    Renaming.flatMap_eq copies.members fun _ _ copied => copied.ownerContainers_eq
  cases listed : source.members.mapM Instance.container with
  | error error =>
      rw [listed] at made
      cases made
  | ok containers =>
      rw [listed] at made
      obtain rfl := Except.ok.inj made
      rw [Renaming.containers_eq copies.members listed]
      simp only [bind, Except.bind, pure, Except.pure, labels, volumes, owners, copies.account_eq,
        copies.initImage, copies.space, copies.parent.clusterName_eq, copies.parent.fsGroup_eq,
        Renaming.replicaSet, Renaming.podSpec, Renaming.selector, LabelSelector.single,
        ResourceKind.header, Renaming.metadata_withLabels, Renaming.metadata_fresh,
        StringMap.mapValues_single, Renaming.label_app]

/-- A pod of copies is compiled to what the pod itself is compiled to, renamed. -/
theorem compile_eq {compiled : CompiledPod} (copies : IsCopyOf names source copy)
    (made : source.compile = .ok compiled) : copy.compile = .ok (names.compiledPod compiled) := by
  rcases compile_eq_ok_iff.mp made with ⟨unit, supporting⟩
  refine compile_eq_ok_iff.mpr ⟨copies.replicaSet_eq unit, ?_⟩
  rw [copies.supporting_eq, ← supporting]
  rfl

end IsCopyOf
end Pod
end Testbed
