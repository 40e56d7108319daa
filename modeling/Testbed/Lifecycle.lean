namespace Testbed

/-!
The life of an instance and the table that says which operation is legal when. An instance is created,
gets an image and is prepared, is committed, and then alternates between started and stopped.
-/

/-- Where an instance is in its life. -/
inductive State where
  /-- No image has been chosen. -/
  | created
  /-- The image is being prepared; the description and the image may change. -/
  | preparing
  /-- The image is frozen; the description may change, nothing is deployed. -/
  | committed
  /-- The compute unit is deployed. -/
  | started
  /-- The compute unit is removed; what supports it is kept. -/
  | stopped
  deriving DecidableEq, Repr

namespace State

/-- The name messages use. -/
def text : State → String
  | created => "None"
  | preparing => "Preparing"
  | committed => "Committed"
  | started => "Started"
  | stopped => "Stopped"

/-- Every state, in the order of a life. -/
def all : List State :=
  [created, preparing, committed, started, stopped]

end State

/-- Everything that can be asked of an instance. -/
inductive Operation where
  | setImage
  | setImageInstant
  | setGitRepo
  | commit
  | addTcpPort
  | addUdpPort
  | setCommand
  | setArgs
  | setEnv
  | addVolume
  | addFile
  | addFolder
  | setUser
  | setMemory
  | setCpu
  | setProbe
  | addPolicyRule
  | setPrivileged
  | addCapability
  | setObservability
  | setFaultInjection
  | setInstanceType
  | addSidecar
  | start
  | stop
  | clone
  | createCustomResource
  | executeCommand
  | fetchFile
  | isRunning
  | waitRunning
  | waitStopped
  | address
  | addHost
  | portForward
  | setBandwidthLimit
  | setLatencyAndJitter
  | setPacketLoss
  | clearShaping
  | disableNetwork
  | enableNetwork
  | networkIsDisabled
  deriving DecidableEq, Repr

namespace Operation

/-- The states in which the description of a workload may be edited. -/
def descriptive : List State :=
  [.preparing, .committed]

/-- The states in which an operation is legal. -/
def allowedStates : Operation → List State
  | setImage => [.created, .started]
  | setImageInstant | stop | waitRunning | portForward | setBandwidthLimit | setLatencyAndJitter
  | setPacketLoss | clearShaping | disableNetwork | enableNetwork | networkIsDisabled => [.started]
  | setGitRepo => [.created]
  | commit | setUser => [.preparing]
  | addTcpPort | addUdpPort | setCommand | setArgs | setEnv | addVolume | addFile | addFolder
  | setMemory | setCpu | setProbe | addPolicyRule | setPrivileged | addCapability
  | setObservability | setFaultInjection | addSidecar => descriptive
  | setInstanceType => [.created, .preparing, .committed]
  | start => [.committed, .stopped]
  | clone | createCustomResource => [.committed]
  | executeCommand => [.preparing, .started]
  | fetchFile => [.preparing, .committed, .started]
  | isRunning => [.started, .stopped]
  | waitStopped => [.stopped]
  | address | addHost => [.committed, .started, .stopped]

/-- The name messages use. -/
def text : Operation → String
  | setImage => "set image"
  | setImageInstant => "set image instantly"
  | setGitRepo => "set git repo"
  | commit => "commit"
  | addTcpPort => "add TCP port"
  | addUdpPort => "add UDP port"
  | setCommand => "set command"
  | setArgs => "set args"
  | setEnv => "set environment variable"
  | addVolume => "add volume"
  | addFile => "add file"
  | addFolder => "add folder"
  | setUser => "set user"
  | setMemory => "set memory"
  | setCpu => "set CPU"
  | setProbe => "set probe"
  | addPolicyRule => "add policy rule"
  | setPrivileged => "set privileged"
  | addCapability => "add capability"
  | setObservability => "configure observability"
  | setFaultInjection => "configure fault injection"
  | setInstanceType => "set instance type"
  | addSidecar => "add sidecar"
  | start => "start"
  | stop => "stop"
  | clone => "clone"
  | createCustomResource => "create custom resource"
  | executeCommand => "execute command"
  | fetchFile => "read file"
  | isRunning => "check running"
  | waitRunning => "wait for running"
  | waitStopped => "wait for stopped"
  | address => "resolve address"
  | addHost => "add proxy host"
  | portForward => "port forward"
  | setBandwidthLimit => "set bandwidth limit"
  | setLatencyAndJitter => "set latency and jitter"
  | setPacketLoss => "set packet loss"
  | clearShaping => "clear traffic shaping"
  | disableNetwork => "disable network"
  | enableNetwork => "enable network"
  | networkIsDisabled => "check network disabled"

/-- Whether a state permits an operation. -/
def isAllowedIn (operation : Operation) (state : State) : Bool :=
  operation.allowedStates.contains state

end Operation
end Testbed
