import Testbed.Action.Basic

namespace Testbed
namespace Action

/-!
Reaching instances: by address, through a proxy, by commands and files inside them, and through a tunnel to
one of their ports. Custom resources are created in an instance's name.
-/

/-- Creates a custom resource named after an instance, if its type is declared. -/
def createCustomResource (id : InstanceId) (type : CustomType) (object : Json) : Action Unit := do
  let workload ← guarded id .createCustomResource
  let isDeclared ← cluster workload.name .createCustomResource (.declared type)
  if isDeclared then
    cluster workload.name .createCustomResource (.createCustom workload.clusterName type object)
  else fail (workload.refuse (.missingDefinition type.definitionName))

/-- Deploys the service of an instance, and gives the address it then has. -/
def deployService (workload : Instance) : Action (Option String) := do
  let settings ← settings
  let owner ← podOwner workload
  match workload.service owner settings.space with
  | none => fail (workload.refuse .noPorts)
  | some service =>
    cluster workload.name .address (.apply (.service service))
    cluster workload.name .address (.serviceAddress workload.clusterName)

/-- Looks up the address of an instance's service, which is deployed if there is none. -/
def lookUpAddress (workload : Instance) : Action String := do
  let known ← cluster workload.name .address (.serviceAddress workload.clusterName)
  let found ← if known.isNone then deployService workload else pure known
  match found with
  | some address =>
    if address.isEmpty then fail (workload.violate (.withoutAddress workload.clusterName))
    else
      update workload.id fun current => { current with serviceAddress := some address }
      return address
  | none => fail (workload.violate (.withoutAddress workload.clusterName))

/-- The address of an instance's service. It is looked up once. -/
def address (id : InstanceId) : Action String := do
  let workload ← guarded id .address
  match workload.serviceAddress with
  | some known => return known
  | none => lookUpAddress workload

/-- Exposes a port of an instance through the proxy, and gives the address outside. -/
def addHost (id : InstanceId) (port : UInt16) : Action String := do
  let workload ← guarded id .addHost
  let setup ← setup
  if setup.hasProxy then
    let host := Naming.hostPrefix workload.clusterName port
    let relay (failure : Failure) : Error := failure.during workload.name Operation.addHost.text
    ofExcept ((← ask (.expose workload.clusterName host port)).mapError relay)
    ofExcept ((← ask (.exposedAddress host)).mapError relay)
  else fail (workload.refuse .noProxy)

/-- The context of an instance that has one. -/
def contextOf (workload : Instance) : Except Error ContextId :=
  match workload.context with
  | some context => .ok context
  | none => .error (workload.violate .withoutContext)

/-- Runs a command in the container of an instance. -/
def runInContainer (workload : Instance) (command : List String) : Action String := do
  let pod ← cluster workload.name .executeCommand (.firstPod (← podOwner workload))
  cluster workload.name .executeCommand (.run pod workload.clusterName command)

/-- Runs a command in an instance: in the image under preparation, or in a shell of its container. -/
def executeCommand (id : InstanceId) (command : List String) : Action String := do
  let workload ← guarded id .executeCommand
  if workload.state = .preparing then
    let context ← contextOf workload
    image workload.name .executeCommand (.run context command)
  else runInContainer workload ["/bin/sh", "-c", " ".intercalate command]

/-- Reads a file of an instance: from the image, or from its container once it is started. -/
def fetchFile (id : InstanceId) (path : String) : Action (List UInt8) := do
  let workload ← guarded id .fetchFile
  if workload.state = .started then
    let contents ← runInContainer workload ["cat", path]
    return Text.Utf8.encode contents
  else
    let context ← contextOf workload
    image workload.name .fetchFile (.fetchFile context path)

/-- The policy by which tunnels are tried. -/
def tunnelPolicy (settings : Settings) : RetryPolicy :=
  .fixed settings.portForwardAttempts.toNat settings.portForwardRetryDelay

/-- What a failed tunnel is told as. -/
def tunnelRefusal (settings : Settings) (error : Error) : String :=
  "tunnel not established after " ++ toString settings.portForwardAttempts ++ " attempts: " ++
    error.text

/-- Opens a tunnel to a port of an instance, and gives the local port. -/
def forwardPort (id : InstanceId) (port : UInt16) : Action UInt16 := do
  let workload ← guarded id .portForward
  let operation := Operation.portForward.text
  if workload.tcpPorts.contains port then
    let settings ← settings
    let localPort ← ofExcept
      ((← ask .localPort).mapError (Error.collaborator workload.name operation))
    let pod ← cluster workload.name .portForward (.firstPod (← podOwner workload))
    let ended ← lift (.connect pod localPort port (tunnelPolicy settings) fun outcome elapsed =>
      .done (outcome, elapsed))
    match ended with
    | (.succeeded _, _) => return localPort
    | (.exhausted error, _) =>
      fail (.collaborator workload.name operation (tunnelRefusal settings error))
    | (.cancelled, elapsed) => fail (.timeout workload.name operation elapsed)
  else fail (workload.refuse (.portNotRegistered port))

end Action
end Testbed
