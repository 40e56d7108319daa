import Testbed.Instance.Edit
import Testbed.Program
import Testbed.Registry

namespace Testbed

/-!
Actions on a testbed. An action knows the testbed's setup, reads and changes its registry, makes requests,
and may fail; a failure keeps what has been changed so far. `Action.guarded` is how every action on an
instance begins: the instance has to exist, and its state has to permit the operation.
-/

/-- What a testbed is set up with. -/
structure Setup where
  settings : Settings
  /-- Whether there is a shaping service. -/
  canShape : Bool
  /-- Whether there is a proxy. -/
  hasProxy : Bool

/-- A course of requests and changes of the registry, which yields a value or fails. -/
def Action (α : Type) : Type :=
  Setup → Registry → Program (Except Error α × Registry)

namespace Action

/-- The action that only yields a value. -/
protected def pure (value : α) : Action α :=
  fun _ registry => .done (.ok value, registry)

/-- One action after another, unless the first fails. -/
protected def bind (first : Action α) (next : α → Action β) : Action β :=
  fun setup registry =>
    (first setup registry).bind fun
      | (.ok value, after) => next value setup after
      | (.error error, after) => .done (.error error, after)

instance : Monad Action where
  pure := Action.pure
  bind := Action.bind

/-- The action that only fails. -/
def fail (error : Error) : Action α :=
  fun _ registry => .done (.error error, registry)

/-- The action that yields what has been found, or fails. -/
def ofExcept : Except Error α → Action α
  | .ok value => Action.pure value
  | .error error => fail error

instance : MonadLift (Except Error) Action where
  monadLift := ofExcept

/-- An action that undoes something if it fails, before the failure is passed on. -/
def undoing (action : Action α) (undo : Action Unit) : Action α :=
  fun setup registry =>
    (action setup registry).bind fun
      | (.ok value, after) => .done (.ok value, after)
      | (.error error, after) =>
        (undo setup after).bind fun ended => .done (.error error, ended.2)

/-- What the testbed is set up with. -/
def setup : Action Setup :=
  fun setup registry => .done (.ok setup, registry)

def settings : Action Settings :=
  fun setup registry => .done (.ok setup.settings, registry)

def registry : Action Registry :=
  fun _ registry => .done (.ok registry, registry)

/-- Puts a registry in place of the one so far. -/
def setRegistry (changed : Registry) : Action Unit :=
  fun _ _ => .done (.ok (), changed)

/-- Changes an instance. -/
def update (id : InstanceId) (change : Instance → Instance) : Action Unit :=
  fun _ registry => .done (.ok (), registry.update id change)

/-- Runs a program, and goes on with its value. -/
def lift (program : Program α) : Action α :=
  fun _ registry => program.bind fun value => .done (.ok value, registry)

/-- A request whose reply is no failure in itself. -/
def ask (request : Request) : Action request.Reply :=
  lift (.request request)

/-- A request to the cluster on behalf of an instance, whose failure is that of the instance's
operation. -/
def cluster (name : String) (operation : Operation) (request : ClusterRequest) :
    Action request.Value := do
  let reply ← ask (.cluster request)
  ofExcept (reply.mapError (Error.relayed name operation.text))

/-- A request about an image on behalf of an instance. -/
def image (name : String) (operation : Operation) (request : ImageRequest) :
    Action request.Value := do
  let reply ← ask (.image request)
  ofExcept (reply.mapError fun failure => failure.during name operation.text)

/-- The instance of a handle. -/
def find (id : InstanceId) : Action Instance := do
  let registry ← registry
  registry.find id

/-- The instance of a handle, if its state permits the operation. -/
def guarded (id : InstanceId) (operation : Operation) : Action Instance := do
  let workload ← find id
  workload.guard operation
  return workload

/-- Fails if an instance is a sidecar, which only its parent drives. -/
def ensureNoSidecar (workload : Instance) (operation : Operation) : Action Unit :=
  if workload.isSidecar then fail (workload.violate (.drivenByParent operation))
  else return ()

/-- Fails unless the states of all sidecars permit the operation. -/
def guardSidecars (operation : Operation) : List InstanceId → Action Unit
  | [] => return ()
  | sidecar :: rest => do
    let _ ← guarded sidecar operation
    guardSidecars operation rest

/-- The cluster name of the instance whose pod an instance runs in. -/
def podOwner (workload : Instance) : Action String := do
  let registry ← registry
  registry.podOwner workload

/-- The resources of an instance's pod. -/
def compile (parent : Instance) : Action CompiledPod := do
  let settings ← settings
  let registry ← registry
  let pod ← registry.pod settings parent
  pod.compile

/-- Waits for a condition on behalf of an instance, in the rhythm of the settings. -/
def await (name : String) (operation : Operation) (condition : Condition)
    (timeout : Option Duration) : Action Unit := do
  let settings ← settings
  let ended ← lift (.await condition settings.readinessPollInterval timeout fun outcome elapsed =>
    .done (Wait.settle name operation.text elapsed outcome))
  ofExcept ended

/-- Changes the description of an instance. -/
def edit (id : InstanceId) (edit : Edit) : Action Unit := do
  let workload ← find id
  let edited ← workload.edit edit
  update id fun _ => edited

end Action
end Testbed
