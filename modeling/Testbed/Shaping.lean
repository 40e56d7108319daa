namespace Testbed

/-!
Shaping the traffic of a pod: what can be limited, delayed or dropped, and how the service that does it
fails.
-/

/-- A way of shaping traffic. At most one is in force at a time. -/
inductive ShapingKind where
  | bandwidth
  | latency
  | packetLoss
  deriving DecidableEq, Repr

namespace ShapingKind

def text : ShapingKind → String
  | bandwidth => "bandwidth"
  | latency => "latency/jitter"
  | packetLoss => "packet loss"

def all : List ShapingKind :=
  [bandwidth, latency, packetLoss]

end ShapingKind

/-- A way of shaping traffic with its parameters. -/
inductive Shaping where
  | bandwidth (bitsPerSecond : UInt64)
  | latency (milliseconds jitter : UInt64)
  | packetLoss (percent : UInt8)
  deriving DecidableEq, Repr

def Shaping.kind : Shaping → ShapingKind
  | bandwidth _ => .bandwidth
  | latency _ _ => .latency
  | packetLoss _ => .packetLoss

/-- How the shaping service fails. -/
inductive ShapingFailure where
  | notInitialized
  | notReady
  | notStarted
  | request (text : String)
  deriving DecidableEq, Repr

namespace ShapingFailure

def text : ShapingFailure → String
  | notInitialized => "traffic shaping service not initialized"
  | notReady => "traffic shaping service not ready"
  | notStarted => "traffic shaping service not started"
  | request text => "traffic shaping request failed: " ++ text

/-- Whether stopping failed only because nothing was running. -/
def isIdle : ShapingFailure → Bool
  | notInitialized | notReady | notStarted => true
  | request _ => false

end ShapingFailure
end Testbed
