import Testbed.Instance.Basic
import Testbed.Resource.Basic
import Testbed.Text.Base64

namespace Testbed

/-!
From instances to resources. A parent and its sidecars, called the members, become one replica set; what
it needs beside it (claims, config maps, accounts, services) is listed in the order in which it has to
be applied. Nothing here depends on the cluster.
-/

/-- Everything that one pod needs. -/
structure CompiledPod where
  /-- What supports the pod, in the order of application. -/
  supporting : List Resource
  replicaSet : ReplicaSet
  deriving DecidableEq

namespace Instance

/-- The labels of the pod that an instance owns. -/
def podLabels (workload : Instance) : StringMap :=
  .ofList
    [(Label.app, workload.clusterName),
      (Label.name, Naming.labelValue workload.name),
      (Label.type, workload.kind.text)]

/-- The name under which the file of this number is found in its config map. -/
def fileKey (index : Nat) : String :=
  "file-" ++ toString index

/-- The config map with an instance's deployed files, if there are any. -/
def configMap (workload : Instance) (space : String) : Option ConfigMap :=
  if workload.deployedFiles.isEmpty then none
  else
    let fresh := ConfigMap.fresh (Naming.config workload.clusterName) space
    some
      { fresh with
        metadata := fresh.metadata.withLabel Label.app workload.clusterName
        binaryData := .ofList
          (workload.deployedFiles.mapIdx fun index file => (fileKey index, Text.base64 file.contents)) }

/-- The service that exposes an instance's ports, if there are any. Its pods are those of `podOwner`. -/
def service (workload : Instance) (podOwner space : String) : Option Service :=
  if workload.tcpPorts.isEmpty && workload.udpPorts.isEmpty then none
  else
    let fresh := Service.fresh workload.clusterName space
    some
      { fresh with
        metadata := fresh.metadata.withLabel Label.app workload.clusterName
        spec :=
          { fresh.spec with
            selector := .single Label.app podOwner
            ports :=
              (workload.tcpPorts.map fun port => ⟨"tcp-" ++ toString port, port, port, "TCP"⟩) ++
                workload.udpPorts.map fun port => ⟨"udp-" ++ toString port, port, port, "UDP"⟩ } }

/-- What a container asks for and is limited to, if anything. -/
def requirements (workload : Instance) : Option ResourceRequirements :=
  let requests := workload.memoryRequest.toList.map (("memory", ·)) ++
    workload.cpuRequest.toList.map (("cpu", ·))
  let limits := workload.memoryLimit.toList.map (("memory", ·))
  if requests.isEmpty && limits.isEmpty then none
  else some { requests := .ofList requests, limits := .ofList limits }

/-- The privileges of a container, if it has any. -/
def securityContext (workload : Instance) : Option SecurityContext :=
  if workload.isPrivileged || !workload.capabilities.isEmpty then
    some
      { privileged := if workload.isPrivileged then some true else none
        capabilities :=
          if workload.capabilities.isEmpty then none else some ⟨workload.capabilities⟩ }
  else none

/-- Where the container sees its volume and its files. -/
def mounts (workload : Instance) : List VolumeMount :=
  (workload.volume.toList.map fun volume =>
      { name := Naming.volume workload.clusterName, mountPath := volume.path }) ++
    workload.deployedFiles.mapIdx fun index file =>
      { name := Naming.config workload.clusterName
        mountPath := file.destination
        subPath := some (fileKey index) }

/-- The container of an instance. There is none without an image. -/
def container (workload : Instance) : Except Error Container :=
  match workload.image with
  | none => .error (workload.violate .withoutImage)
  | some image =>
    .ok
      { name := workload.clusterName
        image
        imagePullPolicy := some "IfNotPresent"
        command := workload.command
        args := workload.args
        env := workload.env.entries.map fun entry => ⟨entry.1, entry.2⟩
        ports :=
          (workload.tcpPorts.map fun port => { containerPort := port, protocol := "TCP" }) ++
            workload.udpPorts.map fun port => { containerPort := port, protocol := "UDP" }
        resources := workload.requirements
        livenessProbe := workload.livenessProbe
        readinessProbe := workload.readinessProbe
        startupProbe := workload.startupProbe
        volumeMounts := workload.mounts
        securityContext := workload.securityContext }

/-- The volumes of the pod that are there for this member. -/
def volumes (workload : Instance) : List Volume :=
  (workload.volume.toList.map fun _ =>
      Volume.ofClaim (Naming.volume workload.clusterName) (Naming.volume workload.clusterName)) ++
    if workload.deployedFiles.isEmpty then []
    else [Volume.ofConfigMap (Naming.config workload.clusterName) (Naming.config workload.clusterName)]

/-- The shell line that hands a volume to its owner. -/
def ownershipCommand (volume : VolumeDescription) : String :=
  let owner := toString volume.owner.toInt
  "chown -R " ++ owner ++ ":" ++ owner ++ " " ++ volume.path

/-- The container that hands the volume to its owner, unless it stays with root. -/
def ownerContainers (workload : Instance) (initImage : String) : List Container :=
  (workload.volume.toList.filter fun volume => volume.owner != 0).map fun volume =>
    { name := Naming.ownerContainer workload.clusterName
      image := initImage
      command := ["sh", "-c", ownershipCommand volume]
      volumeMounts := [{ name := Naming.volume workload.clusterName, mountPath := volume.path }] }

end Instance

/-- A parent with its sidecars, about to be compiled. -/
structure Pod where
  parent : Instance
  sidecars : List Instance
  space : String
  initImage : String

namespace Pod

/-- The members of a pod in the order of their containers. -/
def members (pod : Pod) : List Instance :=
  pod.parent :: pod.sidecars

/-- The account under which the pod acts, if some member has rules. -/
def account (pod : Pod) : Option String :=
  if pod.members.any fun member => !member.policyRules.isEmpty then some pod.parent.clusterName
  else none

/-- The role with a member's rules and its binding to the pod's account, if there are rules. -/
def access (pod : Pod) (member : Instance) : List Resource :=
  if member.policyRules.isEmpty then []
  else
    pod.account.toList.flatMap fun account =>
      [.role (Role.ofRules member.clusterName pod.space member.policyRules),
        .roleBinding (RoleBinding.grant member.clusterName pod.space account)]

/-- What one member needs beside the pod. -/
def memberResources (pod : Pod) (member : Instance) : List Resource :=
  (member.volume.toList.map fun volume =>
      .storageClaim (StorageClaim.ofSize (Naming.volume member.clusterName) pod.space volume.size)) ++
    (member.configMap pod.space).toList.map .configMap ++
    pod.access member ++
    (member.service pod.parent.clusterName pod.space).toList.map .service

/-- Everything that supports the pod: its account, then what each member needs. -/
def supporting (pod : Pod) : List Resource :=
  (pod.account.toList.map fun account => .serviceAccount (ServiceAccount.fresh account pod.space)) ++
    pod.members.flatMap pod.memberResources

/-- The compute unit: one replica with a container for each member. The group of the files is that of
the parent's, because it holds for the whole pod. -/
def replicaSet (pod : Pod) : Except Error ReplicaSet := do
  let labels := pod.parent.podLabels
  let containers ← pod.members.mapM Instance.container
  let header := ResourceKind.replicaSet.header pod.parent.clusterName pod.space
  return {
    toResourceHeader := { header with metadata := header.metadata.withLabels labels }
    spec :=
      { replicas := 1
        selector := .single Label.app pod.parent.clusterName
        template :=
          { metadata := ⟨labels⟩
            spec :=
              { serviceAccountName := pod.account
                containers
                initContainers := pod.members.flatMap fun member => member.ownerContainers pod.initImage
                volumes := pod.members.flatMap Instance.volumes
                securityContext := pod.parent.fsGroup.map fun group => ⟨some group⟩ } } } }

/-- All resources of the pod. -/
def compile (pod : Pod) : Except Error CompiledPod := do
  let replicaSet ← pod.replicaSet
  return { supporting := pod.supporting, replicaSet }

end Pod

/-- The policy that isolates the pod of an owner from all but executors. -/
def isolationPolicy (podOwner space : String) : NetworkPolicy :=
  .isolate podOwner space (.single Label.app podOwner) (.single Label.type InstanceKind.executor.text)

end Testbed
