import Testbed.Resource.Metadata

namespace Testbed

/-!
Services: a stable address in front of the pods that a selector picks.
-/

/-- A port of a service and where it leads. -/
structure ServicePort where
  name : String
  port : UInt16
  targetPort : UInt16
  protocol : String
  deriving DecidableEq

namespace ServicePort

/-- The names of the fields in a document, in their order. -/
def fieldNames : List String :=
  ["name", "port", "targetPort", "protocol"]

def toJson (value : ServicePort) : Json :=
  .record
    [("name", some (.string value.name)),
      ("port", some (.natural value.port.toNat)),
      ("targetPort", some (.natural value.targetPort.toNat)),
      ("protocol", some (.string value.protocol))]

def ofJson (document : Json) : Option ServicePort := do
  let [name, port, targetPort, protocol] ← document.fields? fieldNames | none
  return {
    name := ← Json.required Json.toString? name
    port := ← Json.required Json.toUInt16? port
    targetPort := ← Json.required Json.toUInt16? targetPort
    protocol := ← Json.required Json.toString? protocol }

end ServicePort

/-- What a service selects and exposes. -/
structure Service.Spec where
  selector : StringMap
  ports : List ServicePort
  serviceType : Option String := none
  deriving DecidableEq

namespace Service.Spec

/-- The names of the fields in a document, in their order. -/
def fieldNames : List String :=
  ["selector", "ports", "type"]

def toJson (value : Service.Spec) : Json :=
  .record
    [("selector", some (.ofStringMap value.selector)),
      ("ports", some (.ofList ServicePort.toJson value.ports)),
      ("type", value.serviceType.map .string)]

def ofJson (document : Json) : Option Service.Spec := do
  let [selector, ports, serviceType] ← document.fields? fieldNames | none
  return {
    selector := ← Json.required Json.toStringMap? selector
    ports := ← Json.required (Json.toListOf? ServicePort.ofJson) ports
    serviceType := ← Json.optional Json.toString? serviceType }

end Service.Spec

/-- A stable address for pods. -/
structure Service extends ResourceHeader where
  spec : Service.Spec
  deriving DecidableEq

namespace Service

/-- The names of the fields in a document, in their order. -/
def fieldNames : List String :=
  ["apiVersion", "kind", "metadata", "spec"]

def toJson (value : Service) : Json :=
  .record
    [("apiVersion", some (.string value.apiVersion)),
      ("kind", some (.string value.kind)),
      ("metadata", some value.metadata.toJson),
      ("spec", some value.spec.toJson)]

def ofJson (document : Json) : Option Service := do
  let [apiVersion, kind, metadata, spec] ← document.fields? fieldNames | none
  return {
    apiVersion := ← Json.required Json.toString? apiVersion
    kind := ← Json.required Json.toString? kind
    metadata := ← Json.required Metadata.ofJson metadata
    spec := ← Json.required Service.Spec.ofJson spec }

end Service

end Testbed
