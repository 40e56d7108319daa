import Testbed.Instance.Basic
import Testbed.Text.Basic

namespace Testbed

/-!
An instance as a document, for those who look at it from outside. What is empty, false or absent is left
out; of the files only those that are deployed are shown.
-/

/-- An array of ports. -/
def Json.ports (numbers : List UInt16) : Json :=
  .array (numbers.map fun port => .natural port.toNat)

namespace Observability

/-- What an instance wants to be observed by, as a document. -/
def toJson (config : Observability) : Json :=
  .substance
    [("enabled", .bool config.isEnabled),
      ("version", .string config.version),
      ("otlp_port", .orNull (config.otlpPort.map fun port => .natural port.toNat)),
      ("prometheus", .orNull (config.prometheus.map fun source =>
        .array [.natural source.port.toNat, .string source.jobName, .string source.scrapeInterval])),
      ("jaeger", .orNull (config.jaeger.map fun receivers =>
        .ports [receivers.grpc, receivers.thriftCompact, receivers.thriftHttp])),
      ("otlp_exporter", .orNull (config.otlpExporter.map fun target =>
        .strings [target.endpoint, target.username, target.password])),
      ("jaeger_exporter", .textOrNull config.jaegerExporter),
      ("prometheus_exporter", .textOrNull config.prometheusExporter),
      ("prometheus_remote_write_exporter", .textOrNull config.remoteWriteExporter)]

end Observability

/-- How an instance's traffic can be shaped, as a document. -/
def FaultInjection.toJson (fault : FaultInjection) : Json :=
  .substance
    [("enabled", .bool fault.isEnabled),
      ("interface", .string fault.interface),
      ("port", .natural fault.port.toNat),
      ("mode", .textOrNull (fault.activeMode.map ShapingKind.text)),
      ("sidecar", .textOrNull fault.sidecar)]

/-- A file as a document: its place, its group, its contents, and whether it is part of the image. -/
def InstanceFile.toJson (file : InstanceFile) : Json :=
  .array
    [.string file.destination, .integer file.group.toInt, .string (Text.hex file.contents),
      .bool file.isBaked]

/-- A volume as a document: where it is mounted, how large it is, and who owns it. -/
def VolumeDescription.toJson (volume : VolumeDescription) : Json :=
  .array [.string volume.path, .string volume.size, .integer volume.owner.toInt]

/-- A handle as a document. -/
def InstanceId.toJson (id : InstanceId) : Json :=
  .string id.text

/-- An instance as a document. -/
def Instance.toJson (workload : Instance) : Json :=
  .substance
    [("id", workload.id.toJson),
      ("name", .string workload.name),
      ("k8s_name", .string workload.clusterName),
      ("state", .string workload.state.text),
      ("type", .string workload.kind.text),
      ("image", .textOrNull workload.image),
      ("ports_tcp", .ports workload.tcpPorts),
      ("ports_udp", .ports workload.udpPorts),
      ("command", .strings workload.command),
      ("args", .strings workload.args),
      ("env", .ofStringMap workload.env),
      ("volume", .orNull (workload.volume.map VolumeDescription.toJson)),
      ("files", .ofList InstanceFile.toJson workload.deployedFiles),
      ("fs_group", .orNull (workload.fsGroup.map fun group => .integer group.toInt)),
      ("memory_request", .textOrNull workload.memoryRequest),
      ("memory_limit", .textOrNull workload.memoryLimit),
      ("cpu_request", .textOrNull workload.cpuRequest),
      ("liveness_probe", .orNull (workload.livenessProbe.map Probe.toJson)),
      ("readiness_probe", .orNull (workload.readinessProbe.map Probe.toJson)),
      ("startup_probe", .orNull (workload.startupProbe.map Probe.toJson)),
      ("policy_rules", .ofList PolicyRule.toJson workload.policyRules),
      ("privileged", .bool workload.isPrivileged),
      ("capabilities", .strings workload.capabilities),
      ("observability", workload.observability.toJson),
      ("fault", workload.fault.toJson),
      ("is_sidecar", .bool workload.isSidecar),
      ("parent", .orNull (workload.parent.map InstanceId.toJson)),
      ("sidecars", .ofList InstanceId.toJson workload.sidecars)]

end Testbed
