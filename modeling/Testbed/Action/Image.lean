import Testbed.Action.Basic

namespace Testbed
namespace Action

/-!
Making instances and choosing their images. A new instance gets a cluster name; its first image opens a
context in which it is prepared; a commit freezes the image, under its own name if nothing was changed, and
else under the name that the content hash has or now gets. While an instance is started, a new image replaces
its compute unit.
-/

/-- Registers an instance. -/
def create (name : String) : Action InstanceId := do
  let clusterName ← ofExcept (← ask (.clusterName name))
  let registry ← registry
  let id := registry.nextId
  setRegistry (← registry.add { id, name, clusterName })
  return id

/-- Begins to prepare an instance in a context. -/
def prepare (id : InstanceId) (context : ContextId) : Action Unit :=
  update id fun workload => { workload with context := some context, state := .preparing }

/-- Removes a compute unit, waits until it is gone, and applies another one in its place. -/
def exchange (workload : Instance) (unit : ReplicaSet) (grace : Option UInt32) : Action Unit := do
  let settings ← settings
  cluster workload.name .setImage (.delete .replicaSet workload.clusterName grace)
  await workload.name .setImage (.gone workload.clusterName) (some settings.readinessTimeout)
  cluster workload.name .setImage (.apply (.replicaSet unit))

/-- Compiles the pod of an instance as it now is, and exchanges its compute unit. -/
def redeploy (id : InstanceId) (grace : Option UInt32) : Action Unit := do
  let workload ← find id
  let compiled ← compile workload
  exchange workload compiled.replicaSet grace

/-- Gives an instance another image and redeploys it. The previous image is put back if anything fails. -/
def replace (id : InstanceId) (reference : String) (grace : Option UInt32) : Action Unit := do
  let previous ← find id
  update id fun current => { current with image := some reference }
  undoing (redeploy id grace) (update id fun current => { current with image := previous.image })

/-- Chooses the image of a new instance, or replaces that of a started one. -/
def setImage (id : InstanceId) (reference : String) : Action Unit := do
  let workload ← guarded id .setImage
  if workload.state = .started then
    ensureNoSidecar workload .setImage
    replace id reference none
  else
    let context ← image workload.name .setImage (.open reference)
    prepare id context

/-- Replaces the image of a started instance without leaving it time to end. -/
def setImageInstant (id : InstanceId) (reference : String) : Action Unit := do
  let workload ← guarded id .setImageInstant
  ensureNoSidecar workload .setImageInstant
  replace id reference (some 0)

/-- Builds the image of a new instance from a git source. -/
def setGitRepo (id : InstanceId) (source : GitSource) : Action Unit := do
  let workload ← guarded id .setGitRepo
  let settings ← settings
  let imageName := source.imageName settings.imageRegistry
  let context ← image workload.name .setGitRepo (.openSource source imageName)
  prepare id context

/-- The image of a changed context: the one recorded for its hash, or else a freshly pushed one. -/
def pushedImage (name : String) (context : ContextId) : Action String := do
  let hash ← image name .commit (.contentHash context)
  match ← ask (.recordedImage hash) with
  | some recorded => return recorded
  | none =>
    let settings ← settings
    let reference := settings.pushedImage (← ask .uniqueTag)
    image name .commit (.push context reference)
    ask (.recordImage hash reference)

/-- Freezes the image of an instance. -/
def commit (id : InstanceId) : Action Unit := do
  let workload ← guarded id .commit
  match workload.context with
  | none => fail (workload.violate .preparingWithoutContext)
  | some context =>
    let isChanged ← ask (.isChanged context)
    let reference ← if isChanged then pushedImage workload.name context else ask (.baseImage context)
    update id fun current => { current with image := some reference, state := .committed }

end Action
end Testbed
