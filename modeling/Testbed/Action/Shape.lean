import Testbed.Action.Basic

namespace Testbed
namespace Action

/-!
Faults on the network of started instances. Shaping goes through the shaping sidecar: what is in force, and
what is about to be, is stopped first, so that one way of shaping is in force at most. Isolation is a
network policy on the pod and needs no sidecar.
-/

/-- The kinds of shaping to stop before a change: the one in force, and the one asked for, in case the
sidecar has kept it. -/
def kindsToStop (active : Option ShapingKind) (shaping : Option Shaping) : List ShapingKind :=
  active.toList ++ (shaping.map Shaping.kind).toList.filter fun kind => active ≠ some kind

/-- Stops shaping of the given kinds. It is no failure if nothing was running. -/
def stopShaping (name : String) (operation : Operation) (target : String) (port : UInt16) :
    List ShapingKind → Action Unit
  | [] => return ()
  | kind :: rest => do
    match ← ask (.unshape target port kind) with
    | .ok () => stopShaping name operation target port rest
    | .error failure =>
      if failure.isIdle then stopShaping name operation target port rest
      else fail (.collaborator name operation.text failure.text)

/-- Records the shaping in force. -/
def setActiveMode (id : InstanceId) (mode : Option ShapingKind) : Action Unit :=
  update id fun current => { current with fault := { current.fault with activeMode := mode } }

/-- Puts the asked shaping, or none, in place of the one in force. -/
def shape (id : InstanceId) (operation : Operation) (shaping : Option Shaping) : Action Unit := do
  let workload ← guarded id operation
  let fault := workload.fault
  if !fault.isEnabled then fail (workload.refuse .shapingNotEnabled)
  else
    match fault.sidecar with
    | none => fail (workload.violate .neverInjected)
    | some target =>
      let setup ← setup
      if !setup.canShape then fail (workload.refuse .noShapingClient)
      else
        stopShaping workload.name operation target fault.port
          (kindsToStop fault.activeMode shaping)
        setActiveMode id none
        match shaping with
        | none => return ()
        | some shaping =>
          match ← ask (.shape target fault.port fault.interface shaping) with
          | .error failure => fail (.collaborator workload.name operation.text failure.text)
          | .ok () => setActiveMode id (some shaping.kind)

/-- Limits the bandwidth of an instance. -/
def setBandwidthLimit (id : InstanceId) (bitsPerSecond : UInt64) : Action Unit :=
  shape id .setBandwidthLimit (some (.bandwidth bitsPerSecond))

/-- Delays the traffic of an instance. -/
def setLatencyAndJitter (id : InstanceId) (milliseconds jitter : UInt64) : Action Unit :=
  shape id .setLatencyAndJitter (some (.latency milliseconds jitter))

/-- Drops a percentage of an instance's packets. The percentage is checked before the state. -/
def setPacketLoss (id : InstanceId) (percent : UInt8) : Action Unit := do
  if 100 < percent then
    let workload ← find id
    fail (workload.refuse (.lossOutOfRange percent))
  else shape id .setPacketLoss (some (.packetLoss percent))

/-- Stops the shaping in force, if any. -/
def clearShaping (id : InstanceId) : Action Unit :=
  shape id .clearShaping none

/-- Cuts an instance's pod off from all but executors. -/
def disableNetwork (id : InstanceId) : Action Unit := do
  let workload ← guarded id .disableNetwork
  let settings ← settings
  let owner ← podOwner workload
  cluster workload.name .disableNetwork
    (.apply (.networkPolicy (isolationPolicy owner settings.space)))

/-- Ends the isolation of an instance's pod. -/
def enableNetwork (id : InstanceId) : Action Unit := do
  let workload ← guarded id .enableNetwork
  cluster workload.name .enableNetwork (.delete .networkPolicy (← podOwner workload) none)

/-- Whether an instance's pod is isolated. -/
def networkIsDisabled (id : InstanceId) : Action Bool := do
  let workload ← guarded id .networkIsDisabled
  cluster workload.name .networkIsDisabled (.present .networkPolicy (← podOwner workload))

end Action
end Testbed
