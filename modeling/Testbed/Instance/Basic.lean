import Testbed.Error
import Testbed.Observability
import Testbed.Resource.Access
import Testbed.Resource.Probe
import Testbed.Shaping

namespace Testbed

/-!
The instance: what is known of a workload before and while it is deployed. An instance is described in
place and referred to by its handle; parents and sidecars are handles too.
-/

/-- The role of an instance, which network policies tell apart. -/
inductive InstanceKind where
  /-- An ordinary workload. -/
  | basic
  /-- A test driver that isolated instances can still reach. -/
  | executor
  deriving DecidableEq, Repr

/-- The value of the label that carries the role. -/
def InstanceKind.text : InstanceKind → String
  | basic => "basic"
  | executor => "executor"

/-- A volume mounted into an instance. -/
structure VolumeDescription where
  path : String
  size : String
  /-- User and group that the volume is handed to; zero leaves it to root. -/
  owner : Int64
  deriving DecidableEq

/-- A file of an instance. -/
structure InstanceFile where
  destination : String
  group : Int64
  contents : List UInt8
  /-- Whether the file is part of the image rather than deployed beside it. -/
  isBaked : Bool
  deriving DecidableEq

/-- How an instance's traffic can be shaped. -/
structure FaultInjection where
  /-- Whether the shaping sidecar is injected at the first start. -/
  isEnabled : Bool := false
  interface : String := "eth0"
  /-- Where the sidecar listens. -/
  port : UInt16 := 9007
  /-- The shaping in force. -/
  activeMode : Option ShapingKind := none
  /-- The cluster name of the injected sidecar. -/
  sidecar : Option String := none
  deriving DecidableEq

/-- The handle of an image under preparation. -/
structure ContextId where
  index : Nat
  deriving DecidableEq, Repr

/-- What is known of one workload. -/
structure Instance where
  id : InstanceId
  name : String
  /-- The name under which everything of this instance is deployed. -/
  clusterName : String
  state : State := .created
  kind : InstanceKind := .basic
  image : Option String := none
  context : Option ContextId := none
  tcpPorts : List UInt16 := []
  udpPorts : List UInt16 := []
  command : List String := []
  args : List String := []
  env : StringMap := .empty
  volume : Option VolumeDescription := none
  files : List InstanceFile := []
  /-- The group shared by all deployed files. -/
  fsGroup : Option Int64 := none
  memoryRequest : Option String := none
  memoryLimit : Option String := none
  cpuRequest : Option String := none
  livenessProbe : Option Probe := none
  readinessProbe : Option Probe := none
  startupProbe : Option Probe := none
  policyRules : List PolicyRule := []
  isPrivileged : Bool := false
  capabilities : List String := []
  observability : Observability := {}
  fault : FaultInjection := {}
  parent : Option InstanceId := none
  /-- The sidecars in the order of their containers. -/
  sidecars : List InstanceId := []
  /-- The injected collector. -/
  collector : Option InstanceId := none
  /-- The address of the instance's service, once it has been looked up. -/
  serviceAddress : Option String := none
  deriving DecidableEq

namespace Instance

def isSidecar (workload : Instance) : Bool :=
  workload.parent.isSome

/-- The files that are deployed beside the image. -/
def deployedFiles (workload : Instance) : List InstanceFile :=
  workload.files.filter fun file => !file.isBaked

/-- Fails unless the instance's state permits the operation. -/
def guard (workload : Instance) (operation : Operation) : Except Error Unit :=
  ensureAllowed workload.name operation workload.state

/-- The error of a request that breaks a rule on its input. -/
def refuse (workload : Instance) (reason : Reason) : Error :=
  .validation workload.name reason

/-- The error of a request that breaks a rule on the relations between instances. -/
def violate (workload : Instance) (reason : Reason) : Error :=
  .invariant workload.name reason

/-- A copy under a new identity. It stands alone: no parent, no sidecars, no address, no shaping. -/
def duplicate (workload : Instance) (id : InstanceId) (name clusterName : String) : Instance :=
  { workload with
    id
    name
    clusterName
    parent := none
    sidecars := []
    collector := none
    serviceAddress := none
    fault := { workload.fault with activeMode := none, sidecar := none } }

/-- The short form of an instance in messages. -/
def summary (workload : Instance) : String :=
  let quotedOption (value : Option String) : String :=
    match value with
    | none => "None"
    | some text => "Some(" ++ Text.quoted text ++ ")"
  let handle (id : InstanceId) : String := "InstanceId(" ++ toString id.index ++ ")"
  let parent :=
    match workload.parent with
    | none => "None"
    | some id => "Some(" ++ handle id ++ ")"
  "Instance \x7b id: " ++ handle workload.id ++ ", name: " ++ Text.quoted workload.name ++
    ", k8s_name: " ++ Text.quoted workload.clusterName ++ ", state: " ++ workload.state.text ++
    ", image: " ++ quotedOption workload.image ++ ", parent: " ++ parent ++ ", sidecars: [" ++
    ", ".intercalate (workload.sidecars.map handle) ++ "], .. \x7d"

end Instance
end Testbed
