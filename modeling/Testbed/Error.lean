import Testbed.Lifecycle
import Testbed.Text.Basic
import Testbed.Time.Duration

namespace Testbed

/-!
Why something did not happen. Every error names the instance it is about, if there is one, and what was
being attempted; a failure of a collaborator keeps its cause. `Reason` lists the rules that a request
can break, so that wording is a matter of one function.
-/

/-- The handle of an instance: its place in the registry. -/
structure InstanceId where
  index : Nat
  deriving DecidableEq, Repr

/-- The wording of a handle. -/
def InstanceId.text (id : InstanceId) : String :=
  "#" ++ toString id.index

/-- The rules that a request can break. -/
inductive Reason where
  | stated (text : String)
  | unknownInstance (id : InstanceId)
  | unknownSidecar (id : InstanceId)
  | emptyName
  | badNumber (key value : String)
  | emptyNamespace
  | emptyRegistry
  | noPollInterval
  | noAttempts
  | zeroPort
  | tcpPortTaken (port : UInt16)
  | udpPortTaken (port : UInt16)
  | badVariableName (name : String)
  | secondVolume
  | relativeVolume (path : String)
  | ruleWithoutVerb
  | badOwner (owner : String)
  | relativeDestination (path : String)
  | destinationTaken (path : String)
  | mixedGroups (path : String) (group existing : Int64)
  | missingDefinition (name : String)
  | noPorts
  | noProxy
  | portNotRegistered (port : UInt16)
  | lossOutOfRange (percent : UInt8)
  | shapingNotEnabled
  | noShapingClient
  | notAnObject
  | nameTaken (clusterName : String)
  | drivenByParent (operation : Operation)
  | ownSidecar
  | sidecarOfSidecar
  | alreadySidecar
  | sidecarWithSidecars
  | neverInjected
  | preparingWithoutContext
  | withoutContext
  | withoutImage
  | withoutAddress (service : String)
  deriving DecidableEq, Repr

/-- The wording of a broken rule. -/
def Reason.text : Reason → String
  | stated text => text
  | unknownInstance id => "unknown instance " ++ id.text
  | unknownSidecar id => "cannot add unknown instance " ++ id.text ++ " as sidecar"
  | emptyName => "name must contain at least one alphanumeric character"
  | badNumber key value => key ++ "=" ++ Text.quoted value ++ " is not a valid number"
  | emptyNamespace => "namespace must not be empty"
  | emptyRegistry => "image registry must not be empty"
  | noPollInterval => "readiness poll interval must be greater than zero"
  | noAttempts => "port forward attempts must be greater than zero"
  | zeroPort => "port must be between 1 and 65535"
  | tcpPortTaken port => "TCP port " ++ toString port ++ " is already registered"
  | udpPortTaken port => "UDP port " ++ toString port ++ " is already registered"
  | badVariableName name => "invalid environment variable name " ++ Text.quoted name
  | secondVolume => "only one volume per instance is supported"
  | relativeVolume path => "volume path " ++ path ++ " must be absolute"
  | ruleWithoutVerb => "policy rule needs at least one verb"
  | badOwner owner => "chown must be uid:gid, got " ++ Text.quoted owner
  | relativeDestination path => "file destination " ++ path ++ " must be absolute"
  | destinationTaken path => "a file already exists at " ++ path
  | mixedGroups path group existing =>
    "all files must share one group: " ++ path ++ " has group " ++ toString group.toInt ++
      ", existing files use " ++ toString existing.toInt
  | missingDefinition name => "custom resource definition " ++ name ++ " does not exist"
  | noPorts => "no ports registered to expose"
  | noProxy => "no proxy configured"
  | portNotRegistered port => "TCP port " ++ toString port ++ " is not registered"
  | lossOutOfRange percent =>
    "packet loss must be between 0 and 100 percent, got " ++ toString percent
  | shapingNotEnabled => "fault injection is not enabled"
  | noShapingClient => "no fault-injection client configured"
  | notAnObject => "custom resource must be a JSON object"
  | nameTaken clusterName => "cluster name " ++ clusterName ++ " is already in use"
  | drivenByParent operation =>
    operation.text ++ " is not allowed on a sidecar; its parent drives it"
  | ownSidecar => "an instance cannot be its own sidecar"
  | sidecarOfSidecar => "a sidecar cannot have sidecars"
  | alreadySidecar => "instance is already a sidecar of another instance"
  | sidecarWithSidecars => "an instance with sidecars cannot become a sidecar"
  | neverInjected => "fault-injection sidecar was never injected"
  | preparingWithoutContext => "preparing instance has no build context"
  | withoutContext => "instance has no build context"
  | withoutImage => "cannot deploy an instance without an image"
  | withoutAddress service => "service " ++ service ++ " has no cluster IP"

/-- The answer with which the cluster's API refuses a request. -/
structure ApiStatus where
  status : String
  message : String
  reason : String
  code : Nat
  deriving DecidableEq, Repr

namespace ApiStatus

/-- The short wording: message and reason. -/
def summary (answer : ApiStatus) : String :=
  answer.message ++ ": " ++ answer.reason

/-- The full wording, with every field. -/
def text (answer : ApiStatus) : String :=
  "ApiError: " ++ answer.summary ++ " (ErrorResponse \x7b status: " ++ Text.quoted answer.status ++
    ", message: " ++ Text.quoted answer.message ++ ", reason: " ++ Text.quoted answer.reason ++
    ", code: " ++ toString answer.code ++ " \x7d)"

end ApiStatus

/-- Why something did not happen. -/
inductive Error where
  /-- The cluster's API refused. -/
  | api (answer : ApiStatus)
  /-- The cluster's API did not answer in a form that can be used. -/
  | unusableAnswer
  /-- An operation came at a time of the instance's life that forbids it. -/
  | stateViolation (name operation state : String)
  /-- A request breaks a rule on its input. -/
  | validation (name : String) (reason : Reason)
  /-- A collaborator failed, for a cause it put in words. -/
  | collaborator (name operation cause : String)
  /-- A collaborator failed with an error of this library. -/
  | relayed (name operation : String) (cause : Error)
  /-- A wait ran out of time or was called off. -/
  | timeout (name operation : String) (elapsed : Duration)
  /-- A request breaks a rule on the relations between instances. -/
  | invariant (name : String) (reason : Reason)
  /-- A value could not be put in or read from its serial form. -/
  | serialization (subject message : String)
  /-- Something went wrong on the way. -/
  | internal (context message : String)
  deriving DecidableEq, Repr

namespace Error

/-- What stands for an instance when there is none. -/
def unknown : String :=
  "unknown"

/-- The wording of an error. -/
def text : Error → String
  | api answer => "kubernetes error: " ++ answer.text
  | unusableAnswer => "kubernetes error: unusable answer"
  | stateViolation name operation state =>
    operation ++ " is not allowed for instance " ++ name ++ " in state " ++ state
  | validation name reason => "validation error for " ++ name ++ ": " ++ reason.text
  | collaborator name operation cause => operation ++ " failed for " ++ name ++ ": " ++ cause
  | relayed name operation cause => operation ++ " failed for " ++ name ++ ": " ++ cause.text
  | timeout name operation elapsed =>
    "timed out after " ++ elapsed.text ++ " waiting for " ++ operation ++ " on " ++ name
  | invariant name reason => "invariant violation for " ++ name ++ ": " ++ reason.text
  | serialization _ message => "serialization error: " ++ message
  | internal context message => "internal error [" ++ context ++ "]: " ++ message

/-- The instance an error is about. -/
def instance? : Error → Option String
  | api _ | unusableAnswer | serialization _ _ | internal _ _ => none
  | stateViolation name _ _ | validation name _ | collaborator name _ _ | relayed name _ _
  | timeout name _ _ | invariant name _ => some name

/-- Whether an operation came at the wrong time. -/
def isStateViolation : Error → Bool
  | stateViolation _ _ _ => true
  | _ => false

/-- Whether a wait ended without its condition, be it inside a collaborator. -/
def isTimeout : Error → Bool
  | timeout _ _ _ => true
  | relayed _ _ cause => cause.isTimeout
  | _ => false

/-- Whether the cluster's API says that there is no such object. -/
def isNotFound : Error → Bool
  | api answer => answer.code == 404
  | _ => false

/-- The wordings of the causes behind an error, the nearest first. -/
def causes : Error → List String
  | api answer => [answer.text, answer.summary]
  | collaborator _ _ cause => [cause]
  | relayed _ _ cause => cause.text :: cause.causes
  | _ => []

end Error

/-- A failure of a collaborator: its own words, or an error of this library. -/
inductive Failure where
  | words (text : String)
  | error (cause : Error)
  deriving DecidableEq, Repr

namespace Failure

/-- The wording of a failure. -/
def text : Failure → String
  | words text => text
  | error cause => cause.text

/-- The error of an instance whose operation met this failure. -/
def during (failure : Failure) (name operation : String) : Error :=
  match failure with
  | words text => Error.collaborator name operation text
  | error cause => Error.relayed name operation cause

end Failure

/-- Fails unless the state permits the operation. -/
def ensureAllowed (name : String) (operation : Operation) (state : State) : Except Error Unit :=
  if operation.isAllowedIn state then .ok ()
  else .error (.stateViolation name operation.text state.text)

end Testbed
