import Testbed.Resource.Metadata
import Testbed.Resource.Container

namespace Testbed

/-!
Pods and the replica sets that keep them running.
-/

/-- Privileges that hold for a whole pod. -/
structure PodSecurityContext where
  fsGroup : Option Int64 := none
  deriving DecidableEq

namespace PodSecurityContext

/-- The names of the fields in a document, in their order. -/
def fieldNames : List String :=
  ["fsGroup"]

def toJson (value : PodSecurityContext) : Json :=
  .record
    [("fsGroup", value.fsGroup.map (fun number => .integer number.toInt))]

def ofJson (document : Json) : Option PodSecurityContext := do
  let [fsGroup] ← document.fields? fieldNames | none
  return {
    fsGroup := ← Json.optional Json.toInt64? fsGroup }

end PodSecurityContext

/-- What runs in a pod. -/
structure PodSpec where
  serviceAccountName : Option String := none
  containers : List Container
  initContainers : List Container := []
  volumes : List Volume := []
  securityContext : Option PodSecurityContext := none
  deriving DecidableEq

namespace PodSpec

/-- The names of the fields in a document, in their order. -/
def fieldNames : List String :=
  ["serviceAccountName", "containers", "initContainers", "volumes", "securityContext"]

def toJson (value : PodSpec) : Json :=
  .record
    [("serviceAccountName", value.serviceAccountName.map .string),
      ("containers", some (.ofList Container.toJson value.containers)),
      ("initContainers", Json.unlessEmpty value.initContainers.isEmpty (.ofList Container.toJson value.initContainers)),
      ("volumes", Json.unlessEmpty value.volumes.isEmpty (.ofList Volume.toJson value.volumes)),
      ("securityContext", value.securityContext.map PodSecurityContext.toJson)]

def ofJson (document : Json) : Option PodSpec := do
  let [serviceAccountName, containers, initContainers, volumes, securityContext] ← document.fields? fieldNames | none
  return {
    serviceAccountName := ← Json.optional Json.toString? serviceAccountName
    containers := ← Json.required (Json.toListOf? Container.ofJson) containers
    initContainers := ← Json.defaulted [] (Json.toListOf? Container.ofJson) initContainers
    volumes := ← Json.defaulted [] (Json.toListOf? Volume.ofJson) volumes
    securityContext := ← Json.optional PodSecurityContext.ofJson securityContext }

end PodSpec

/-- The metadata of the pods of a replica set. -/
structure PodMetadata where
  labels : StringMap
  deriving DecidableEq

namespace PodMetadata

/-- The names of the fields in a document, in their order. -/
def fieldNames : List String :=
  ["labels"]

def toJson (value : PodMetadata) : Json :=
  .record
    [("labels", some (.ofStringMap value.labels))]

def ofJson (document : Json) : Option PodMetadata := do
  let [labels] ← document.fields? fieldNames | none
  return {
    labels := ← Json.required Json.toStringMap? labels }

end PodMetadata

/-- What the pods of a replica set look like. -/
structure PodTemplate where
  metadata : PodMetadata
  spec : PodSpec
  deriving DecidableEq

namespace PodTemplate

/-- The names of the fields in a document, in their order. -/
def fieldNames : List String :=
  ["metadata", "spec"]

def toJson (value : PodTemplate) : Json :=
  .record
    [("metadata", some value.metadata.toJson),
      ("spec", some value.spec.toJson)]

def ofJson (document : Json) : Option PodTemplate := do
  let [metadata, spec] ← document.fields? fieldNames | none
  return {
    metadata := ← Json.required PodMetadata.ofJson metadata
    spec := ← Json.required PodSpec.ofJson spec }

end PodTemplate

/-- Labels that a pod must carry to be selected. -/
structure LabelSelector where
  matchLabels : StringMap := .empty
  deriving DecidableEq

namespace LabelSelector

/-- The names of the fields in a document, in their order. -/
def fieldNames : List String :=
  ["matchLabels"]

def toJson (value : LabelSelector) : Json :=
  .record
    [("matchLabels", Json.unlessEmpty value.matchLabels.isEmpty (.ofStringMap value.matchLabels))]

def ofJson (document : Json) : Option LabelSelector := do
  let [matchLabels] ← document.fields? fieldNames | none
  return {
    matchLabels := ← Json.defaulted .empty Json.toStringMap? matchLabels }

end LabelSelector

/-- How many pods of which kind are kept running. -/
structure ReplicaSet.Spec where
  replicas : UInt32
  selector : LabelSelector
  template : PodTemplate
  deriving DecidableEq

namespace ReplicaSet.Spec

/-- The names of the fields in a document, in their order. -/
def fieldNames : List String :=
  ["replicas", "selector", "template"]

def toJson (value : ReplicaSet.Spec) : Json :=
  .record
    [("replicas", some (.natural value.replicas.toNat)),
      ("selector", some value.selector.toJson),
      ("template", some value.template.toJson)]

def ofJson (document : Json) : Option ReplicaSet.Spec := do
  let [replicas, selector, template] ← document.fields? fieldNames | none
  return {
    replicas := ← Json.required Json.toUInt32? replicas
    selector := ← Json.required LabelSelector.ofJson selector
    template := ← Json.required PodTemplate.ofJson template }

end ReplicaSet.Spec

/-- The compute unit of an instance. -/
structure ReplicaSet extends ResourceHeader where
  spec : ReplicaSet.Spec
  deriving DecidableEq

namespace ReplicaSet

/-- The names of the fields in a document, in their order. -/
def fieldNames : List String :=
  ["apiVersion", "kind", "metadata", "spec"]

def toJson (value : ReplicaSet) : Json :=
  .record
    [("apiVersion", some (.string value.apiVersion)),
      ("kind", some (.string value.kind)),
      ("metadata", some value.metadata.toJson),
      ("spec", some value.spec.toJson)]

def ofJson (document : Json) : Option ReplicaSet := do
  let [apiVersion, kind, metadata, spec] ← document.fields? fieldNames | none
  return {
    apiVersion := ← Json.required Json.toString? apiVersion
    kind := ← Json.required Json.toString? kind
    metadata := ← Json.required Metadata.ofJson metadata
    spec := ← Json.required ReplicaSet.Spec.ofJson spec }

end ReplicaSet

end Testbed
