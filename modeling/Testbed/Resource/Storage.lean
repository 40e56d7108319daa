import Testbed.Resource.Metadata

namespace Testbed

/-!
Resources that hold data: config maps with files, and claims on storage; and the pod volumes made of them.
-/

/-- Files, as text or in base 64, under the names that volumes refer to. -/
structure ConfigMap extends ResourceHeader where
  data : StringMap := .empty
  binaryData : StringMap := .empty
  deriving DecidableEq

namespace ConfigMap

/-- The names of the fields in a document, in their order. -/
def fieldNames : List String :=
  ["apiVersion", "kind", "metadata", "data", "binaryData"]

def toJson (value : ConfigMap) : Json :=
  .record
    [("apiVersion", some (.string value.apiVersion)),
      ("kind", some (.string value.kind)),
      ("metadata", some value.metadata.toJson),
      ("data", Json.unlessEmpty value.data.isEmpty (.ofStringMap value.data)),
      ("binaryData", Json.unlessEmpty value.binaryData.isEmpty (.ofStringMap value.binaryData))]

def ofJson (document : Json) : Option ConfigMap := do
  let [apiVersion, kind, metadata, data, binaryData] ← document.fields? fieldNames | none
  return {
    apiVersion := ← Json.required Json.toString? apiVersion
    kind := ← Json.required Json.toString? kind
    metadata := ← Json.required Metadata.ofJson metadata
    data := ← Json.defaulted .empty Json.toStringMap? data
    binaryData := ← Json.defaulted .empty Json.toStringMap? binaryData }

end ConfigMap

/-- How much storage is asked for. -/
structure StorageRequest where
  requests : StringMap
  deriving DecidableEq

namespace StorageRequest

/-- The names of the fields in a document, in their order. -/
def fieldNames : List String :=
  ["requests"]

def toJson (value : StorageRequest) : Json :=
  .record
    [("requests", some (.ofStringMap value.requests))]

def ofJson (document : Json) : Option StorageRequest := do
  let [requests] ← document.fields? fieldNames | none
  return {
    requests := ← Json.required Json.toStringMap? requests }

end StorageRequest

/-- What a claim asks for. -/
structure StorageClaim.Spec where
  accessModes : List String
  resources : StorageRequest
  deriving DecidableEq

namespace StorageClaim.Spec

/-- The names of the fields in a document, in their order. -/
def fieldNames : List String :=
  ["accessModes", "resources"]

def toJson (value : StorageClaim.Spec) : Json :=
  .record
    [("accessModes", some (.strings value.accessModes)),
      ("resources", some value.resources.toJson)]

def ofJson (document : Json) : Option StorageClaim.Spec := do
  let [accessModes, resources] ← document.fields? fieldNames | none
  return {
    accessModes := ← Json.required Json.toStrings? accessModes
    resources := ← Json.required StorageRequest.ofJson resources }

end StorageClaim.Spec

/-- A claim on storage that outlives pods. -/
structure StorageClaim extends ResourceHeader where
  spec : StorageClaim.Spec
  deriving DecidableEq

namespace StorageClaim

/-- The names of the fields in a document, in their order. -/
def fieldNames : List String :=
  ["apiVersion", "kind", "metadata", "spec"]

def toJson (value : StorageClaim) : Json :=
  .record
    [("apiVersion", some (.string value.apiVersion)),
      ("kind", some (.string value.kind)),
      ("metadata", some value.metadata.toJson),
      ("spec", some value.spec.toJson)]

def ofJson (document : Json) : Option StorageClaim := do
  let [apiVersion, kind, metadata, spec] ← document.fields? fieldNames | none
  return {
    apiVersion := ← Json.required Json.toString? apiVersion
    kind := ← Json.required Json.toString? kind
    metadata := ← Json.required Metadata.ofJson metadata
    spec := ← Json.required StorageClaim.Spec.ofJson spec }

end StorageClaim

/-- A volume made of a config map. -/
structure ConfigMapSource where
  name : String
  defaultMode : Option Int32 := none
  deriving DecidableEq

namespace ConfigMapSource

/-- The names of the fields in a document, in their order. -/
def fieldNames : List String :=
  ["name", "defaultMode"]

def toJson (value : ConfigMapSource) : Json :=
  .record
    [("name", some (.string value.name)),
      ("defaultMode", value.defaultMode.map (fun number => .integer number.toInt))]

def ofJson (document : Json) : Option ConfigMapSource := do
  let [name, defaultMode] ← document.fields? fieldNames | none
  return {
    name := ← Json.required Json.toString? name
    defaultMode := ← Json.optional Json.toInt32? defaultMode }

end ConfigMapSource

/-- A volume made of a claim. -/
structure ClaimSource where
  claimName : String
  deriving DecidableEq

namespace ClaimSource

/-- The names of the fields in a document, in their order. -/
def fieldNames : List String :=
  ["claimName"]

def toJson (value : ClaimSource) : Json :=
  .record
    [("claimName", some (.string value.claimName))]

def ofJson (document : Json) : Option ClaimSource := do
  let [claimName] ← document.fields? fieldNames | none
  return {
    claimName := ← Json.required Json.toString? claimName }

end ClaimSource

/-- A volume of a pod. -/
structure Volume where
  name : String
  configMap : Option ConfigMapSource := none
  claim : Option ClaimSource := none
  deriving DecidableEq

namespace Volume

/-- The names of the fields in a document, in their order. -/
def fieldNames : List String :=
  ["name", "configMap", "persistentVolumeClaim"]

def toJson (value : Volume) : Json :=
  .record
    [("name", some (.string value.name)),
      ("configMap", value.configMap.map ConfigMapSource.toJson),
      ("persistentVolumeClaim", value.claim.map ClaimSource.toJson)]

def ofJson (document : Json) : Option Volume := do
  let [name, configMap, claim] ← document.fields? fieldNames | none
  return {
    name := ← Json.required Json.toString? name
    configMap := ← Json.optional ConfigMapSource.ofJson configMap
    claim := ← Json.optional ClaimSource.ofJson claim }

end Volume

/-- Where a container sees a volume, or one file of it. -/
structure VolumeMount where
  name : String
  mountPath : String
  subPath : Option String := none
  deriving DecidableEq

namespace VolumeMount

/-- The names of the fields in a document, in their order. -/
def fieldNames : List String :=
  ["name", "mountPath", "subPath"]

def toJson (value : VolumeMount) : Json :=
  .record
    [("name", some (.string value.name)),
      ("mountPath", some (.string value.mountPath)),
      ("subPath", value.subPath.map .string)]

def ofJson (document : Json) : Option VolumeMount := do
  let [name, mountPath, subPath] ← document.fields? fieldNames | none
  return {
    name := ← Json.required Json.toString? name
    mountPath := ← Json.required Json.toString? mountPath
    subPath := ← Json.optional Json.toString? subPath }

end VolumeMount

end Testbed
