import Testbed.Json.Printer
import Testbed.Request
import Testbed.Text.Basic

namespace Testbed
namespace Rehearsal

/-!
The log of a rehearsal: every request that a stand-in answers, by name and with its arguments. The same
names say which stand-in a script is for.
-/

/-- A request as it is logged. -/
structure Entry where
  name : String
  arguments : List Json

namespace Entry

/-- Whether two requests are logged alike. -/
def isLike (first second : Entry) : Bool :=
  first.name == second.name &&
    (Json.array first.arguments).compact == (Json.array second.arguments).compact

/-- Counts repetitions of an entry that follow each other. -/
def tally : List Entry → List (Entry × Nat)
  | [] => []
  | entry :: rest =>
    match tally rest with
    | (next, count) :: others =>
      if entry.isLike next then (next, count + 1) :: others else (entry, 1) :: (next, count) :: others
    | [] => [(entry, 1)]

end Entry

/-- What stands for a local port, which is different every time. -/
def anyLocalPort : String :=
  "<local>"

/-- How a request to the cluster is logged. -/
def clusterEntry : ClusterRequest → Entry
  | .apply resource => ⟨"apply", [resource.toJson]⟩
  | .delete kind name grace =>
    ⟨"delete", [.string kind.text, .string name,
      Json.orNull (grace.map fun seconds => .natural seconds.toNat)]⟩
  | .present kind name => ⟨"exists", [.string kind.text, .string name]⟩
  | .serviceAddress name => ⟨"service_cluster_ip", [.string name]⟩
  | .ready name => ⟨"replica_set_ready", [.string name]⟩
  | .firstPod name => ⟨"first_pod", [.string name]⟩
  | .run pod container command => ⟨"exec", [.string pod, .string container, .strings command]⟩
  | .tunnel pod _ remotePort =>
    ⟨"port_forward", [.string pod, .string anyLocalPort, .natural remotePort.toNat]⟩
  | .declared type =>
    ⟨"crd_exists", [.string type.apiVersion, .string type.kind, .string type.definitionName]⟩
  | .createCustom name type object =>
    ⟨"create_custom_resource",
      [.string name, .string type.apiVersion, .string type.kind, .string type.definitionName, object]⟩

/-- How a request about an image is logged. -/
def imageEntry : ImageRequest → Entry
  | .open image => ⟨"open", [.string image]⟩
  | .openSource source imageName =>
    ⟨"open_git", [.string source.repository, .string source.branch, Json.textOrNull source.commit,
      Json.textOrNull source.token, .string imageName]⟩
  | .contentHash _ => ⟨"content_hash", []⟩
  | .push _ image => ⟨"push", [.string image]⟩
  | .addFile _ contents destination owner =>
    ⟨"add_file", [.string (Text.hex contents), .string destination, .string owner]⟩
  | .setUser _ user => ⟨"set_user", [.string user]⟩
  | .run _ command => ⟨"execute", [.strings command]⟩
  | .fetchFile _ path => ⟨"read_file", [.string path]⟩

/-- The arguments that all requests for shaping have in common. -/
def shapingTarget (target : String) (port : UInt16) (interface : String) : List Json :=
  [.string target, .natural port.toNat, .string interface]

/-- How a request for shaping is logged. -/
def shapingEntry (target : String) (port : UInt16) (interface : String) : Shaping → Entry
  | .bandwidth bitsPerSecond =>
    ⟨"start_bandwidth", shapingTarget target port interface ++ [.natural bitsPerSecond.toNat]⟩
  | .latency milliseconds jitter =>
    ⟨"start_latency",
      shapingTarget target port interface ++ [.natural milliseconds.toNat, .natural jitter.toNat]⟩
  | .packetLoss percent =>
    ⟨"start_packet_loss", shapingTarget target port interface ++ [.natural percent.toNat]⟩

/-- How a request to stop shaping is logged. -/
def unshapingEntry (target : String) (port : UInt16) (kind : ShapingKind) : Entry :=
  ⟨"stop", [.string target, .natural port.toNat, .string kind.text]⟩

/-- How a request to expose a port is logged. -/
def exposureEntry (service host : String) (port : UInt16) : Entry :=
  ⟨"add_host", [.string service, .string host, .natural port.toNat]⟩

end Rehearsal
end Testbed
