import Testbed.Instance.Basic

namespace Testbed

/-!
Edits of an instance's description. Every edit names the operation that guards it, the rule that it may
break, and the change it makes; applying one checks the guard, then the rule, and only then changes
anything.
-/

/-- Which probe is meant. -/
inductive ProbeRole where
  | liveness
  | readiness
  | startup
  deriving DecidableEq, Repr

/-- A change of an instance's description. -/
inductive Edit where
  | setKind (kind : InstanceKind)
  | addTcpPort (port : UInt16)
  | addUdpPort (port : UInt16)
  | setCommand (command : List String)
  | setArgs (args : List String)
  | setEnv (name value : String)
  | addVolume (path size : String) (owner : Int64)
  | setMemory (request limit : String)
  | setCpu (request : String)
  | setProbe (role : ProbeRole) (probe : Probe)
  | addPolicyRule (rule : PolicyRule)
  | setPrivileged (isPrivileged : Bool)
  | addCapabilities (capabilities : List String)
  | setFaultInjection (isEnabled : Bool)
  | setFaultInterface (interface : String)
  | setFaultPort (port : UInt16)
  | setCollectorVersion (version : String)
  | setOtlpEndpoint (port : UInt16)
  | setPrometheusEndpoint (source : MetricsSource)
  | setJaegerEndpoint (ports : SpanPorts)
  | setOtlpExporter (target : TelemetryTarget)
  | setJaegerExporter (endpoint : String)
  | setPrometheusExporter (endpoint : String)
  | setRemoteWriteExporter (endpoint : String)
  deriving DecidableEq

namespace Edit

/-- The operation under which an edit is guarded. -/
def operation : Edit → Operation
  | setKind _ => .setInstanceType
  | addTcpPort _ => .addTcpPort
  | addUdpPort _ => .addUdpPort
  | setCommand _ => .setCommand
  | setArgs _ => .setArgs
  | setEnv _ _ => .setEnv
  | addVolume _ _ _ => .addVolume
  | setMemory _ _ => .setMemory
  | setCpu _ => .setCpu
  | setProbe _ _ => .setProbe
  | addPolicyRule _ => .addPolicyRule
  | setPrivileged _ => .setPrivileged
  | addCapabilities _ => .addCapability
  | setFaultInjection _ | setFaultInterface _ | setFaultPort _ => .setFaultInjection
  | setCollectorVersion _ | setOtlpEndpoint _ | setPrometheusEndpoint _ | setJaegerEndpoint _
  | setOtlpExporter _ | setJaegerExporter _ | setPrometheusExporter _ | setRemoteWriteExporter _ =>
    .setObservability

/-- The rule that an edit of this instance would break, if any. -/
def fault? (workload : Instance) : Edit → Option Reason
  | addTcpPort port =>
    if port = 0 then some .zeroPort
    else if workload.tcpPorts.contains port then some (.tcpPortTaken port)
    else none
  | addUdpPort port =>
    if port = 0 then some .zeroPort
    else if workload.udpPorts.contains port then some (.udpPortTaken port)
    else none
  | setEnv name _ =>
    if name.isEmpty || name.toList.contains '=' then some (.badVariableName name) else none
  | addVolume path _ _ =>
    if workload.volume.isSome then some .secondVolume
    else if path.toList.head? ≠ some '/' then some (.relativeVolume path)
    else none
  | addPolicyRule rule => if rule.verbs.isEmpty then some .ruleWithoutVerb else none
  | setFaultPort port => if port = 0 then some .zeroPort else none
  | _ => none

/-- Adds those of the texts that are not there yet, in order. -/
def addMissing (present added : List String) : List String :=
  added.foldl (fun all text => if all.contains text then all else all ++ [text]) present

/-- The description after an edit that breaks no rule. -/
def change (workload : Instance) : Edit → Instance
  | setKind kind => { workload with kind }
  | addTcpPort port => { workload with tcpPorts := workload.tcpPorts ++ [port] }
  | addUdpPort port => { workload with udpPorts := workload.udpPorts ++ [port] }
  | setCommand command => { workload with command }
  | setArgs args => { workload with args }
  | setEnv name value => { workload with env := workload.env.insert name value }
  | addVolume path size owner => { workload with volume := some ⟨path, size, owner⟩ }
  | setMemory request limit =>
    { workload with memoryRequest := some request, memoryLimit := some limit }
  | setCpu request => { workload with cpuRequest := some request }
  | setProbe .liveness probe => { workload with livenessProbe := some probe }
  | setProbe .readiness probe => { workload with readinessProbe := some probe }
  | setProbe .startup probe => { workload with startupProbe := some probe }
  | addPolicyRule rule => { workload with policyRules := workload.policyRules ++ [rule] }
  | setPrivileged isPrivileged => { workload with isPrivileged }
  | addCapabilities capabilities =>
    { workload with capabilities := addMissing workload.capabilities capabilities }
  | setFaultInjection isEnabled => { workload with fault := { workload.fault with isEnabled } }
  | setFaultInterface interface => { workload with fault := { workload.fault with interface } }
  | setFaultPort port => { workload with fault := { workload.fault with port } }
  | setCollectorVersion version =>
    { workload with observability := { workload.observability with version } }
  | setOtlpEndpoint port =>
    { workload with observability := { workload.observability with otlpPort := some port } }
  | setPrometheusEndpoint source =>
    { workload with observability := { workload.observability with prometheus := some source } }
  | setJaegerEndpoint ports =>
    { workload with observability := { workload.observability with jaeger := some ports } }
  | setOtlpExporter target =>
    { workload with observability := { workload.observability with otlpExporter := some target } }
  | setJaegerExporter endpoint =>
    { workload with observability := { workload.observability with jaegerExporter := some endpoint } }
  | setPrometheusExporter endpoint =>
    { workload with
      observability := { workload.observability with prometheusExporter := some endpoint } }
  | setRemoteWriteExporter endpoint =>
    { workload with
      observability := { workload.observability with remoteWriteExporter := some endpoint } }

end Edit

/-- The instance after an edit, or the reason why there is no edit. -/
def Instance.edit (workload : Instance) (edit : Edit) : Except Error Instance := do
  workload.guard edit.operation
  match edit.fault? workload with
  | some reason => .error (workload.refuse reason)
  | none => .ok (edit.change workload)

end Testbed
