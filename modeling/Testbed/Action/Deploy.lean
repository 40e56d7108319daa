import Testbed.Action.Sidecar

namespace Testbed
namespace Action

/-!
Starting and stopping. The first start injects sidecars and applies all that supports the pod before its
compute unit; a restart applies the compute unit alone, because a stop removes nothing else.
-/

/-- Applies resources one after another. -/
def applyAll (name : String) (operation : Operation) : List Resource → Action Unit
  | [] => return ()
  | resource :: rest => do
    cluster name operation (.apply resource)
    applyAll name operation rest

/-- Moves an instance and its sidecars to a state. -/
def setPodState (id : InstanceId) (state : State) : Action Unit := do
  let registry ← registry
  setRegistry (registry.setPodState id state)

/-- Deploys an instance with its sidecars, without waiting for readiness. -/
def startWithoutWait (id : InstanceId) : Action Unit := do
  let workload ← guarded id .start
  ensureNoSidecar workload .start
  guardSidecars .start workload.sidecars
  let isFirst := workload.state = .committed
  if isFirst then injectSidecars workload
  let compiled ← compile (← find id)
  if isFirst then applyAll workload.name .start compiled.supporting
  cluster workload.name .start (.apply (.replicaSet compiled.replicaSet))
  setPodState id .started

/-- Waits until an instance's pod is ready. -/
def waitRunning (id : InstanceId) : Action Unit := do
  let workload ← guarded id .waitRunning
  let settings ← settings
  await workload.name .waitRunning (.ready (← podOwner workload)) (some settings.readinessTimeout)

/-- Deploys an instance with its sidecars and waits until its pod is ready. -/
def start (id : InstanceId) : Action Unit := do
  startWithoutWait id
  waitRunning id

/-- Removes the compute unit of an instance and nothing else. Shaping ends with it. -/
def stop (id : InstanceId) : Action Unit := do
  let workload ← guarded id .stop
  ensureNoSidecar workload .stop
  guardSidecars .stop workload.sidecars
  cluster workload.name .stop (.delete .replicaSet workload.clusterName none)
  setPodState id .stopped
  update id fun current => { current with fault := { current.fault with activeMode := none } }

/-- Whether an instance's pod is ready. -/
def isRunning (id : InstanceId) : Action Bool := do
  let workload ← guarded id .isRunning
  cluster workload.name .isRunning (.ready (← podOwner workload))

/-- Waits without limit until the compute unit of an instance's pod is gone. -/
def waitStopped (id : InstanceId) : Action Unit := do
  let workload ← guarded id .waitStopped
  await workload.name .waitStopped (.gone (← podOwner workload)) none

end Action
end Testbed
