import Testbed.Compile
import Testbed.Settings

namespace Testbed

/-!
The registry: every instance of a testbed, each at the place that its handle names. Parents and sidecars
refer to each other by handle; a sidecar runs in the pod of its parent.
-/

/-- Every instance, in the order of creation. -/
structure Registry where
  instances : List Instance := []
  deriving DecidableEq

namespace Registry

/-- The instance of a handle, if there is one. -/
def get? (registry : Registry) (id : InstanceId) : Option Instance :=
  registry.instances[id.index]?

/-- The instance of a handle. -/
def find (registry : Registry) (id : InstanceId) : Except Error Instance :=
  match registry.get? id with
  | some workload => .ok workload
  | none => .error (.validation Error.unknown (.unknownInstance id))

/-- Changes the instance of a handle. -/
def update (registry : Registry) (id : InstanceId) (change : Instance → Instance) : Registry :=
  ⟨registry.instances.modify id.index change⟩

/-- The handle that the next instance gets. -/
def nextId (registry : Registry) : InstanceId :=
  ⟨registry.instances.length⟩

/-- Whether some instance has this cluster name. -/
def hasClusterName (registry : Registry) (clusterName : String) : Bool :=
  registry.instances.any fun workload => workload.clusterName == clusterName

/-- Adds an instance at the end, unless its cluster name is taken. -/
def add (registry : Registry) (workload : Instance) : Except Error Registry :=
  if registry.hasClusterName workload.clusterName then
    .error (workload.violate (.nameTaken workload.clusterName))
  else .ok ⟨registry.instances ++ [workload]⟩

/-- The cluster name of the instance whose pod an instance runs in. -/
def podOwner (registry : Registry) (workload : Instance) : Except Error String :=
  match workload.parent with
  | some parent => (registry.find parent).map Instance.clusterName
  | none => .ok workload.clusterName

/-- The pod of an instance with its sidecars. -/
def pod (registry : Registry) (settings : Settings) (parent : Instance) : Except Error Pod := do
  let sidecars ← parent.sidecars.mapM registry.find
  return { parent, sidecars, space := settings.space, initImage := settings.initImage }

/-- Moves an instance and its sidecars to a state. -/
def setPodState (registry : Registry) (id : InstanceId) (state : State) : Registry :=
  let move (workload : Instance) : Instance := { workload with state }
  let sidecars := ((registry.get? id).map Instance.sidecars).getD []
  (sidecars.foldl (fun moved sidecar => moved.update sidecar move) registry).update id move

end Registry
end Testbed
