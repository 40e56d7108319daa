import Testbed.Json.Record

namespace Testbed

/-!
Probes: how the cluster finds out whether a container is alive, ready or started.
-/

/-- A request that must be answered. -/
structure HttpGet where
  path : String
  port : UInt16
  deriving DecidableEq

namespace HttpGet

/-- The names of the fields in a document, in their order. -/
def fieldNames : List String :=
  ["path", "port"]

def toJson (value : HttpGet) : Json :=
  .record
    [("path", some (.string value.path)),
      ("port", some (.natural value.port.toNat))]

def ofJson (document : Json) : Option HttpGet := do
  let [path, port] ← document.fields? fieldNames | none
  return {
    path := ← Json.required Json.toString? path
    port := ← Json.required Json.toUInt16? port }

end HttpGet

/-- A port that must accept connections. -/
structure TcpSocket where
  port : UInt16
  deriving DecidableEq

namespace TcpSocket

/-- The names of the fields in a document, in their order. -/
def fieldNames : List String :=
  ["port"]

def toJson (value : TcpSocket) : Json :=
  .record
    [("port", some (.natural value.port.toNat))]

def ofJson (document : Json) : Option TcpSocket := do
  let [port] ← document.fields? fieldNames | none
  return {
    port := ← Json.required Json.toUInt16? port }

end TcpSocket

/-- A command that must succeed. -/
structure Command where
  command : List String
  deriving DecidableEq

namespace Command

/-- The names of the fields in a document, in their order. -/
def fieldNames : List String :=
  ["command"]

def toJson (value : Command) : Json :=
  .record
    [("command", some (.strings value.command))]

def ofJson (document : Json) : Option Command := do
  let [command] ← document.fields? fieldNames | none
  return {
    command := ← Json.required Json.toStrings? command }

end Command

/-- A probe and its timing. -/
structure Probe where
  httpGet : Option HttpGet := none
  tcpSocket : Option TcpSocket := none
  exec : Option Command := none
  initialDelaySeconds : Option Int32 := none
  periodSeconds : Option Int32 := none
  timeoutSeconds : Option Int32 := none
  failureThreshold : Option Int32 := none
  successThreshold : Option Int32 := none
  deriving DecidableEq

namespace Probe

/-- The names of the fields in a document, in their order. -/
def fieldNames : List String :=
  ["httpGet", "tcpSocket", "exec", "initialDelaySeconds", "periodSeconds", "timeoutSeconds",
    "failureThreshold", "successThreshold"]

def toJson (value : Probe) : Json :=
  .record
    [("httpGet", value.httpGet.map HttpGet.toJson),
      ("tcpSocket", value.tcpSocket.map TcpSocket.toJson),
      ("exec", value.exec.map Command.toJson),
      ("initialDelaySeconds", value.initialDelaySeconds.map (fun number => .integer number.toInt)),
      ("periodSeconds", value.periodSeconds.map (fun number => .integer number.toInt)),
      ("timeoutSeconds", value.timeoutSeconds.map (fun number => .integer number.toInt)),
      ("failureThreshold", value.failureThreshold.map (fun number => .integer number.toInt)),
      ("successThreshold", value.successThreshold.map (fun number => .integer number.toInt))]

def ofJson (document : Json) : Option Probe := do
  let [httpGet, tcpSocket, exec, initialDelaySeconds, periodSeconds, timeoutSeconds,
      failureThreshold, successThreshold] ←
    document.fields? fieldNames | none
  return {
    httpGet := ← Json.optional HttpGet.ofJson httpGet
    tcpSocket := ← Json.optional TcpSocket.ofJson tcpSocket
    exec := ← Json.optional Command.ofJson exec
    initialDelaySeconds := ← Json.optional Json.toInt32? initialDelaySeconds
    periodSeconds := ← Json.optional Json.toInt32? periodSeconds
    timeoutSeconds := ← Json.optional Json.toInt32? timeoutSeconds
    failureThreshold := ← Json.optional Json.toInt32? failureThreshold
    successThreshold := ← Json.optional Json.toInt32? successThreshold }

end Probe

end Testbed
