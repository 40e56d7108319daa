import Testbed.Json.Record

namespace Testbed

/-!
What an instance wants to be observed by. Any receiver or exporter asks for a collector beside the
instance; the collector's configuration is a document made here. Its members are written in the order
of their names.
-/

/-- Metrics that the collector fetches from the instance. -/
structure MetricsSource where
  port : UInt16
  jobName : String
  scrapeInterval : String
  deriving DecidableEq

/-- Ports on which the collector receives spans of a tracing client. -/
structure SpanPorts where
  grpc : UInt16
  thriftCompact : UInt16
  thriftHttp : UInt16
  deriving DecidableEq

/-- Where telemetry is sent, with the credentials for it. -/
structure TelemetryTarget where
  endpoint : String
  username : String
  password : String
  deriving DecidableEq

/-- The receivers and exporters of a collector. -/
structure Observability where
  version : String := "0.83.0"
  otlpPort : Option UInt16 := none
  prometheus : Option MetricsSource := none
  jaeger : Option SpanPorts := none
  otlpExporter : Option TelemetryTarget := none
  jaegerExporter : Option String := none
  prometheusExporter : Option String := none
  remoteWriteExporter : Option String := none
  deriving DecidableEq

namespace Observability

/-- Where a collector finds its configuration. -/
def configPath : String := "/etc/otel-agent.json"

/-- Whether a collector is needed. -/
def isEnabled (config : Observability) : Bool :=
  config.otlpPort.isSome || config.prometheus.isSome || config.jaeger.isSome ||
    config.otlpExporter.isSome || config.jaegerExporter.isSome || config.prometheusExporter.isSome ||
    config.remoteWriteExporter.isSome

/-- The TCP ports the collector listens on. A zero port is none. -/
def tcpPorts (config : Observability) : List UInt16 :=
  (config.otlpPort.toList ++
    config.jaeger.toList.flatMap fun ports => [ports.grpc, ports.thriftHttp]).filter (· != 0)

/-- The UDP ports the collector listens on. A zero port is none. -/
def udpPorts (config : Observability) : List UInt16 :=
  (config.jaeger.toList.map fun ports => ports.thriftCompact).filter (· != 0)

/-- An address on every interface of the pod. -/
def listenAddress (port : UInt16) : String :=
  "0.0.0.0:" ++ toString port

/-- A receiver's protocol that listens on a port. -/
def listener (port : UInt16) : Json :=
  .object [("endpoint", .string (listenAddress port))]

/-- An exporter that sends to an address without checking certificates. -/
def insecureExporter (endpoint : String) : Json :=
  .object [("endpoint", .string endpoint), ("tls", .object [("insecure", .bool true)])]

/-- The receivers, by name. -/
def receivers (config : Observability) : List (String × Option Json) :=
  [("jaeger", config.jaeger.map fun ports =>
      .object [("protocols", .object
        [("grpc", listener ports.grpc),
          ("thrift_compact", listener ports.thriftCompact),
          ("thrift_http", listener ports.thriftHttp)])]),
    ("otlp", config.otlpPort.map fun port =>
      .object [("protocols", .object [("http", listener port)])]),
    ("prometheus", config.prometheus.map fun source =>
      .object [("config", .object [("scrape_configs", .array [.object
        [("job_name", .string source.jobName),
          ("scrape_interval", .string source.scrapeInterval),
          ("static_configs", .array
            [.object [("targets", .strings ["localhost:" ++ toString source.port])]])]])])])]

/-- The exporters, by name. -/
def exporters (config : Observability) : List (String × Option Json) :=
  [("jaeger", config.jaegerExporter.map insecureExporter),
    ("otlphttp", config.otlpExporter.map fun target =>
      .object
        [("auth", .object [("authenticator", .string "basicauth/otlp")]),
          ("endpoint", .string target.endpoint)]),
    ("prometheus", config.prometheusExporter.map fun endpoint =>
      .object [("endpoint", .string endpoint)]),
    ("prometheusremotewrite", config.remoteWriteExporter.map insecureExporter)]

/-- The extensions, by name. -/
def extensions (config : Observability) : List (String × Option Json) :=
  [("basicauth/otlp", config.otlpExporter.map fun target =>
      .object [("client_auth", .object
        [("password", .string target.password), ("username", .string target.username)])])]

/-- Those of the names that are present in a section. -/
def presentNames (names : List String) (parts : List (String × Option Json)) : List String :=
  names.filter fun name => parts.any fun part => part.1 == name && part.2.isSome

/-- A pipeline from some receivers to some exporters, if there are both. -/
def pipeline (config : Observability) (from_ to_ : List String) : Option Json :=
  let sources := presentNames from_ config.receivers
  let targets := presentNames to_ config.exporters
  if sources.isEmpty || targets.isEmpty then none
  else some (.object [("exporters", .strings targets), ("receivers", .strings sources)])

/-- The configuration of the collector. -/
def collectorConfig (config : Observability) : Json :=
  .object
    [("exporters", .record config.exporters),
      ("extensions", .record config.extensions),
      ("receivers", .record config.receivers),
      ("service", .object
        [("extensions", .strings (presentNames ["basicauth/otlp"] config.extensions)),
          ("pipelines", .record
            [("metrics", config.pipeline ["otlp", "prometheus"]
                ["otlphttp", "prometheus", "prometheusremotewrite"]),
              ("traces", config.pipeline ["otlp", "jaeger"] ["otlphttp", "jaeger"])])])]

end Observability
end Testbed
