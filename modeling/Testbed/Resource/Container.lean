import Testbed.Resource.Storage
import Testbed.Resource.Probe

namespace Testbed

/-!
Containers, with their environment, ports, resources, mounts and privileges.
-/

/-- A variable with a literal value. -/
structure EnvVar where
  name : String
  value : String
  deriving DecidableEq

namespace EnvVar

/-- The names of the fields in a document, in their order. -/
def fieldNames : List String :=
  ["name", "value"]

def toJson (value : EnvVar) : Json :=
  .record
    [("name", some (.string value.name)),
      ("value", some (.string value.value))]

def ofJson (document : Json) : Option EnvVar := do
  let [name, value] ← document.fields? fieldNames | none
  return {
    name := ← Json.required Json.toString? name
    value := ← Json.required Json.toString? value }

end EnvVar

/-- A port a container listens on. -/
structure ContainerPort where
  name : String := ""
  containerPort : UInt16
  protocol : String
  deriving DecidableEq

namespace ContainerPort

/-- The names of the fields in a document, in their order. -/
def fieldNames : List String :=
  ["name", "containerPort", "protocol"]

def toJson (value : ContainerPort) : Json :=
  .record
    [("name", Json.unlessEmpty value.name.isEmpty (.string value.name)),
      ("containerPort", some (.natural value.containerPort.toNat)),
      ("protocol", some (.string value.protocol))]

def ofJson (document : Json) : Option ContainerPort := do
  let [name, containerPort, protocol] ← document.fields? fieldNames | none
  return {
    name := ← Json.defaulted "" Json.toString? name
    containerPort := ← Json.required Json.toUInt16? containerPort
    protocol := ← Json.required Json.toString? protocol }

end ContainerPort

/-- What a container asks for and what it is limited to. -/
structure ResourceRequirements where
  requests : StringMap := .empty
  limits : StringMap := .empty
  deriving DecidableEq

namespace ResourceRequirements

/-- The names of the fields in a document, in their order. -/
def fieldNames : List String :=
  ["requests", "limits"]

def toJson (value : ResourceRequirements) : Json :=
  .record
    [("requests", Json.unlessEmpty value.requests.isEmpty (.ofStringMap value.requests)),
      ("limits", Json.unlessEmpty value.limits.isEmpty (.ofStringMap value.limits))]

def ofJson (document : Json) : Option ResourceRequirements := do
  let [requests, limits] ← document.fields? fieldNames | none
  return {
    requests := ← Json.defaulted .empty Json.toStringMap? requests
    limits := ← Json.defaulted .empty Json.toStringMap? limits }

end ResourceRequirements

/-- Linux capabilities that a container gets. -/
structure Capabilities where
  added : List String := []
  deriving DecidableEq

namespace Capabilities

/-- The names of the fields in a document, in their order. -/
def fieldNames : List String :=
  ["add"]

def toJson (value : Capabilities) : Json :=
  .record
    [("add", Json.unlessEmpty value.added.isEmpty (.strings value.added))]

def ofJson (document : Json) : Option Capabilities := do
  let [added] ← document.fields? fieldNames | none
  return {
    added := ← Json.defaulted [] Json.toStrings? added }

end Capabilities

/-- The privileges of a container. -/
structure SecurityContext where
  privileged : Option Bool := none
  capabilities : Option Capabilities := none
  deriving DecidableEq

namespace SecurityContext

/-- The names of the fields in a document, in their order. -/
def fieldNames : List String :=
  ["privileged", "capabilities"]

def toJson (value : SecurityContext) : Json :=
  .record
    [("privileged", value.privileged.map .bool),
      ("capabilities", value.capabilities.map Capabilities.toJson)]

def ofJson (document : Json) : Option SecurityContext := do
  let [privileged, capabilities] ← document.fields? fieldNames | none
  return {
    privileged := ← Json.optional Json.toBool? privileged
    capabilities := ← Json.optional Capabilities.ofJson capabilities }

end SecurityContext

/-- A container of a pod. -/
structure Container where
  name : String
  image : String
  imagePullPolicy : Option String := none
  command : List String := []
  args : List String := []
  env : List EnvVar := []
  ports : List ContainerPort := []
  resources : Option ResourceRequirements := none
  livenessProbe : Option Probe := none
  readinessProbe : Option Probe := none
  startupProbe : Option Probe := none
  volumeMounts : List VolumeMount := []
  securityContext : Option SecurityContext := none
  deriving DecidableEq

namespace Container

/-- The names of the fields in a document, in their order. -/
def fieldNames : List String :=
  ["name", "image", "imagePullPolicy", "command", "args", "env", "ports", "resources",
    "livenessProbe", "readinessProbe", "startupProbe", "volumeMounts", "securityContext"]

def toJson (value : Container) : Json :=
  .record
    [("name", some (.string value.name)),
      ("image", some (.string value.image)),
      ("imagePullPolicy", value.imagePullPolicy.map .string),
      ("command", Json.unlessEmpty value.command.isEmpty (.strings value.command)),
      ("args", Json.unlessEmpty value.args.isEmpty (.strings value.args)),
      ("env", Json.unlessEmpty value.env.isEmpty (.ofList EnvVar.toJson value.env)),
      ("ports", Json.unlessEmpty value.ports.isEmpty (.ofList ContainerPort.toJson value.ports)),
      ("resources", value.resources.map ResourceRequirements.toJson),
      ("livenessProbe", value.livenessProbe.map Probe.toJson),
      ("readinessProbe", value.readinessProbe.map Probe.toJson),
      ("startupProbe", value.startupProbe.map Probe.toJson),
      ("volumeMounts", Json.unlessEmpty value.volumeMounts.isEmpty (.ofList VolumeMount.toJson value.volumeMounts)),
      ("securityContext", value.securityContext.map SecurityContext.toJson)]

def ofJson (document : Json) : Option Container := do
  let [name, image, imagePullPolicy, command, args, env, ports, resources, livenessProbe,
      readinessProbe, startupProbe, volumeMounts, securityContext] ←
    document.fields? fieldNames | none
  return {
    name := ← Json.required Json.toString? name
    image := ← Json.required Json.toString? image
    imagePullPolicy := ← Json.optional Json.toString? imagePullPolicy
    command := ← Json.defaulted [] Json.toStrings? command
    args := ← Json.defaulted [] Json.toStrings? args
    env := ← Json.defaulted [] (Json.toListOf? EnvVar.ofJson) env
    ports := ← Json.defaulted [] (Json.toListOf? ContainerPort.ofJson) ports
    resources := ← Json.optional ResourceRequirements.ofJson resources
    livenessProbe := ← Json.optional Probe.ofJson livenessProbe
    readinessProbe := ← Json.optional Probe.ofJson readinessProbe
    startupProbe := ← Json.optional Probe.ofJson startupProbe
    volumeMounts := ← Json.defaulted [] (Json.toListOf? VolumeMount.ofJson) volumeMounts
    securityContext := ← Json.optional SecurityContext.ofJson securityContext }

end Container

end Testbed
