import Testbed.Action.Basic

namespace Testbed
namespace Action

/-!
Cloning. A copy of a committed instance has the same description and the same image; the sidecars of a
parent are copied with it, and the copy of a sidecar stands alone.
-/

/-- Registers a copy of an instance under a new name, with the parent it belongs to. -/
def addCopy (source : Instance) (name : String) (parent : Option InstanceId) : Action InstanceId := do
  let clusterName ← ofExcept (← ask (.clusterName name))
  let registry ← registry
  let id := registry.nextId
  setRegistry (← registry.add { source.duplicate id name clusterName with parent })
  return id

/-- Registers copies of sidecars under their own names, for a copy of their parent. -/
def copySidecars (parent : InstanceId) : List InstanceId → Action Unit
  | [] => return ()
  | id :: rest => do
    let source ← find id
    let copy ← addCopy source source.name (some parent)
    update parent fun current => { current with sidecars := current.sidecars ++ [copy] }
    copySidecars parent rest

/-- Copies an instance with its sidecars under a new name. -/
def cloneWithName (id : InstanceId) (name : String) : Action InstanceId := do
  let workload ← guarded id .clone
  guardSidecars .clone workload.sidecars
  let copy ← addCopy workload name none
  copySidecars copy workload.sidecars
  return copy

/-- Copies an instance with its sidecars under its own name. -/
def clone (id : InstanceId) : Action InstanceId := do
  let workload ← find id
  cloneWithName id workload.name

end Action
end Testbed
