import Testbed.Naming
import Testbed.Resource.Access
import Testbed.Resource.Isolation
import Testbed.Resource.Service

namespace Testbed

/-!
The kinds of resources that an instance can own, how fresh ones are made, and the sum of all of them.
-/

/-- A kind of resource. -/
inductive ResourceKind where
  | configMap
  | storageClaim
  | serviceAccount
  | role
  | roleBinding
  | service
  | replicaSet
  | networkPolicy
  deriving DecidableEq, Repr

namespace ResourceKind

/-- The group and version under which the cluster serves a kind. -/
def apiVersion : ResourceKind → String
  | configMap | storageClaim | serviceAccount | service => "v1"
  | role | roleBinding => "rbac.authorization.k8s.io/v1"
  | replicaSet => "apps/v1"
  | networkPolicy => "networking.k8s.io/v1"

/-- The cluster's name of a kind. -/
def text : ResourceKind → String
  | configMap => "ConfigMap"
  | storageClaim => "PersistentVolumeClaim"
  | serviceAccount => "ServiceAccount"
  | role => "Role"
  | roleBinding => "RoleBinding"
  | service => "Service"
  | replicaSet => "ReplicaSet"
  | networkPolicy => "NetworkPolicy"

def all : List ResourceKind :=
  [configMap, storageClaim, serviceAccount, role, roleBinding, service, replicaSet, networkPolicy]

/-- The kind of this name. -/
def named? (name : String) : Option ResourceKind :=
  all.find? fun kind => kind.text == name

end ResourceKind

namespace Label

/-- The pod a resource belongs to. -/
def app : String := "app"

/-- The human name of the pod's owner. -/
def name : String := "tidepool.dev/name"

/-- The role of the pod's owner. -/
def type : String := "tidepool.dev/type"

/-- Who made the resource. -/
def manager : String := "app.kubernetes.io/managed-by"

end Label

/-- The manager of everything this library makes. -/
def managerName : String := "tidepool"

/-- Metadata with the manager's label only. -/
def Metadata.fresh (name space : String) : Metadata :=
  { name, space, labels := .single Label.manager managerName }

/-- Metadata with one more label. -/
def Metadata.withLabel (metadata : Metadata) (key value : String) : Metadata :=
  { metadata with labels := metadata.labels.insert key value }

/-- Metadata with more labels, which replace those of the same key. -/
def Metadata.withLabels (metadata : Metadata) (labels : StringMap) : Metadata :=
  { metadata with labels := metadata.labels.insertAll labels.entries }

/-- The head of a fresh resource. -/
def ResourceKind.header (kind : ResourceKind) (name space : String) : ResourceHeader :=
  ⟨kind.apiVersion, kind.text, .fresh name space⟩

/-- A config map without files. -/
def ConfigMap.fresh (name space : String) : ConfigMap :=
  { toResourceHeader := ResourceKind.configMap.header name space }

/-- A claim that one node at a time can mount for reading and writing. -/
def StorageClaim.ofSize (name space size : String) : StorageClaim :=
  { toResourceHeader := ResourceKind.storageClaim.header name space
    spec := ⟨["ReadWriteOnce"], ⟨.single "storage" size⟩⟩ }

def ServiceAccount.fresh (name space : String) : ServiceAccount :=
  { toResourceHeader := ResourceKind.serviceAccount.header name space }

def Role.ofRules (name space : String) (rules : List PolicyRule) : Role :=
  { toResourceHeader := ResourceKind.role.header name space, rules }

/-- Grants the role of a name to a service account. -/
def RoleBinding.grant (name space account : String) : RoleBinding :=
  { toResourceHeader := ResourceKind.roleBinding.header name space
    roleRef := ⟨"rbac.authorization.k8s.io", "Role", name⟩
    subjects := [⟨"ServiceAccount", account, space⟩] }

/-- A service inside the cluster, without ports. -/
def Service.fresh (name space : String) : Service :=
  { toResourceHeader := ResourceKind.service.header name space
    spec := { selector := .empty, ports := [], serviceType := some "ClusterIP" } }

/-- Selects pods by one label. -/
def LabelSelector.single (key value : String) : LabelSelector :=
  { matchLabels := .single key value }

/-- Cuts the selected pods off from all but the allowed ones, in both directions. -/
def NetworkPolicy.isolate (name space : String) (selected allowed : LabelSelector) : NetworkPolicy :=
  { toResourceHeader := ResourceKind.networkPolicy.header name space
    spec :=
      { podSelector := selected
        policyTypes := ["Ingress", "Egress"]
        ingress := [⟨[⟨allowed⟩]⟩]
        egress := [⟨[⟨allowed⟩]⟩] } }

def Volume.ofConfigMap (name configMap : String) : Volume :=
  { name, configMap := some { name := configMap } }

def Volume.ofClaim (name claim : String) : Volume :=
  { name, claim := some ⟨claim⟩ }

def Probe.ofHttp (path : String) (port : UInt16) : Probe :=
  { httpGet := some ⟨path, port⟩ }

def Probe.ofTcp (port : UInt16) : Probe :=
  { tcpSocket := some ⟨port⟩ }

def Probe.ofCommand (command : List String) : Probe :=
  { exec := some ⟨command⟩ }

/-- A resource of any kind. -/
inductive Resource where
  | configMap (value : ConfigMap)
  | storageClaim (value : StorageClaim)
  | serviceAccount (value : ServiceAccount)
  | role (value : Role)
  | roleBinding (value : RoleBinding)
  | service (value : Service)
  | replicaSet (value : ReplicaSet)
  | networkPolicy (value : NetworkPolicy)
  deriving DecidableEq

namespace Resource

/-- The kind of a resource, whatever it calls itself. -/
def resourceKind : Resource → ResourceKind
  | configMap _ => .configMap
  | storageClaim _ => .storageClaim
  | serviceAccount _ => .serviceAccount
  | role _ => .role
  | roleBinding _ => .roleBinding
  | service _ => .service
  | replicaSet _ => .replicaSet
  | networkPolicy _ => .networkPolicy

def metadata : Resource → Metadata
  | configMap value => value.metadata
  | storageClaim value => value.metadata
  | serviceAccount value => value.metadata
  | role value => value.metadata
  | roleBinding value => value.metadata
  | service value => value.metadata
  | replicaSet value => value.metadata
  | networkPolicy value => value.metadata

def name (resource : Resource) : String :=
  resource.metadata.name

def toJson : Resource → Json
  | configMap value => value.toJson
  | storageClaim value => value.toJson
  | serviceAccount value => value.toJson
  | role value => value.toJson
  | roleBinding value => value.toJson
  | service value => value.toJson
  | replicaSet value => value.toJson
  | networkPolicy value => value.toJson

/-- The resource of a given kind that a document describes. -/
def ofJson (kind : ResourceKind) (document : Json) : Option Resource :=
  match kind with
  | .configMap => (ConfigMap.ofJson document).map configMap
  | .storageClaim => (StorageClaim.ofJson document).map storageClaim
  | .serviceAccount => (ServiceAccount.ofJson document).map serviceAccount
  | .role => (Role.ofJson document).map role
  | .roleBinding => (RoleBinding.ofJson document).map roleBinding
  | .service => (Service.ofJson document).map service
  | .replicaSet => (ReplicaSet.ofJson document).map replicaSet
  | .networkPolicy => (NetworkPolicy.ofJson document).map networkPolicy

end Resource
end Testbed
