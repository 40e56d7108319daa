import Testbed.Action.Files
import Testbed.Action.Image
import Testbed.Json.Printer

namespace Testbed
namespace Action

/-!
Sidecars: attaching committed instances to a parent, and the two sidecars that a first start injects. A
collector receives the telemetry that the parent wants to be observed by; a shaping sidecar limits the
traffic of the pod. One that is attached already is not injected again.
-/

/-- The error of attaching a sidecar to a parent, if there is one. The two are known to be different. -/
def attachmentFault? (parent candidate : Instance) : Option Error :=
  if candidate.state ≠ .committed then
    some (.stateViolation candidate.name Operation.addSidecar.text candidate.state.text)
  else if parent.isSidecar then some (parent.violate .sidecarOfSidecar)
  else if candidate.isSidecar then some (candidate.violate .alreadySidecar)
  else if !candidate.sidecars.isEmpty then some (candidate.violate .sidecarWithSidecars)
  else none

/-- Attaches an instance to a parent, as the last of its sidecars. -/
def addSidecar (id sidecar : InstanceId) : Action Unit := do
  let parent ← guarded id .addSidecar
  let registry ← registry
  match registry.get? sidecar with
  | none => fail (parent.refuse (.unknownSidecar sidecar))
  | some candidate =>
    if sidecar = id then fail (parent.violate .ownSidecar)
    else
      match attachmentFault? parent candidate with
      | some error => fail error
      | none =>
        update sidecar fun current => { current with parent := some id }
        update id fun current => { current with sidecars := current.sidecars ++ [sidecar] }

/-- Changes the description of an instance step by step. -/
def editAll (id : InstanceId) : List Edit → Action Unit
  | [] => return ()
  | first :: rest => do
    edit id first
    editAll id rest

/-- A committed instance of an image. -/
def createCommitted (name reference : String) : Action InstanceId := do
  let id ← create name
  setImage id reference
  commit id
  return id

/-- The image of the collector. -/
def collectorImage (settings : Settings) (config : Observability) : String :=
  settings.otelCollectorImage ++ ":" ++ config.version

/-- The file with the collector's configuration. -/
def collectorFile (config : Observability) : List UInt8 :=
  Text.Utf8.encode (config.collectorConfig.indented 0)

/-- The description of the collector, which listens on each port once. -/
def collectorEdits (config : Observability) : List Edit :=
  .setArgs ["--config", Observability.configPath] ::
    (config.tcpPorts.eraseDups.map .addTcpPort ++ config.udpPorts.eraseDups.map .addUdpPort)

/-- Attaches a collector to a parent. -/
def injectCollector (parent : Instance) : Action Unit := do
  let settings ← settings
  let config := parent.observability
  let collector ← createCommitted (parent.name ++ "-otel-collector") (collectorImage settings config)
  addFileBytes collector (collectorFile config) Observability.configPath "0:0"
  editAll collector (collectorEdits config)
  addSidecar parent.id collector
  update parent.id fun current => { current with collector := some collector }

/-- The description of the shaping sidecar, which listens on the given port. -/
def shapingEdits (port : UInt16) : List Edit :=
  [.setPrivileged true, .addCapabilities ["NET_ADMIN"], .addTcpPort port,
    .setEnv "SERVE_ADDR" (Observability.listenAddress port)]

/-- Attaches a shaping sidecar to a parent. -/
def injectShapingSidecar (parent : Instance) : Action Unit := do
  let settings ← settings
  let id ← createCommitted (parent.name ++ "-fault") settings.faultInjectionImage
  editAll id (shapingEdits parent.fault.port)
  let sidecar ← find id
  addSidecar parent.id id
  update parent.id fun current =>
    { current with fault := { current.fault with sidecar := some sidecar.clusterName } }

/-- Whether a first start has to attach a collector. -/
def wantsCollector (parent : Instance) : Bool :=
  parent.observability.isEnabled && parent.collector.isNone

/-- Whether a first start has to attach a shaping sidecar. -/
def wantsShapingSidecar (parent : Instance) : Bool :=
  parent.fault.isEnabled && parent.fault.sidecar.isNone

/-- Attaches the sidecars that a parent is configured with and does not have yet. -/
def injectSidecars (parent : Instance) : Action Unit := do
  if wantsCollector parent then injectCollector parent
  if wantsShapingSidecar parent then injectShapingSidecar parent

end Action
end Testbed
