import Testbed.Action.Clone
import Testbed.Action.Deploy
import Testbed.Action.Reach
import Testbed.Action.Shape
import Testbed.Proofs.Course.Action

namespace Testbed

/-!
# Calls and histories

A call is one use of a testbed from outside: every operation that this library offers, with its
arguments.  A history is a list of calls, each with what happened during it and with its result, in
the order in which they were made.  `Reaches` holds of a history and a registry when the calls, made
from an empty registry one after another, can go as the history says and leave that registry.  Nothing
is assumed of the replies, of the names that are given, or of the order of the calls; a call that fails
is part of the history like any other.
-/

/-- A use of a testbed. -/
inductive Call where
  | create (name : String)
  | setImage (id : InstanceId) (reference : String)
  | setImageInstant (id : InstanceId) (reference : String)
  | setGitRepo (id : InstanceId) (source : GitSource)
  | commit (id : InstanceId)
  | edit (id : InstanceId) (change : Edit)
  | addFileBytes (id : InstanceId) (contents : List UInt8) (destination owner : String)
  | addFile (id : InstanceId) (path destination owner : String)
  | addFolder (id : InstanceId) (path destination owner : String)
  | setUser (id : InstanceId) (user : String)
  | addSidecar (id sidecar : InstanceId)
  | clone (id : InstanceId)
  | cloneWithName (id : InstanceId) (name : String)
  | start (id : InstanceId)
  | startWithoutWait (id : InstanceId)
  | stop (id : InstanceId)
  | isRunning (id : InstanceId)
  | waitRunning (id : InstanceId)
  | waitStopped (id : InstanceId)
  | createCustomResource (id : InstanceId) (type : CustomType) (object : Json)
  | address (id : InstanceId)
  | addHost (id : InstanceId) (port : UInt16)
  | executeCommand (id : InstanceId) (command : List String)
  | fetchFile (id : InstanceId) (path : String)
  | forwardPort (id : InstanceId) (port : UInt16)
  | setBandwidthLimit (id : InstanceId) (bitsPerSecond : UInt64)
  | setLatencyAndJitter (id : InstanceId) (milliseconds jitter : UInt64)
  | setPacketLoss (id : InstanceId) (percent : UInt8)
  | clearShaping (id : InstanceId)
  | disableNetwork (id : InstanceId)
  | enableNetwork (id : InstanceId)
  | networkIsDisabled (id : InstanceId)

namespace Call

/-- What a call yields when it succeeds. -/
abbrev Value : Call → Type
  | create _ | clone _ | cloneWithName _ _ => InstanceId
  | address _ | addHost _ _ | executeCommand _ _ => String
  | isRunning _ | networkIsDisabled _ => Bool
  | fetchFile _ _ => List UInt8
  | forwardPort _ _ => UInt16
  | setImage _ _ | setImageInstant _ _ | setGitRepo _ _ | commit _ | edit _ _
  | addFileBytes _ _ _ _ | addFile _ _ _ _ | addFolder _ _ _ _ | setUser _ _ | addSidecar _ _
  | start _ | startWithoutWait _ | stop _ | waitRunning _ | waitStopped _
  | createCustomResource _ _ _ | setBandwidthLimit _ _ | setLatencyAndJitter _ _ _
  | setPacketLoss _ _ | clearShaping _ | disableNetwork _ | enableNetwork _ => Unit

/-- What a call does. -/
def perform : (call : Call) → Action call.Value
  | create name => Action.create name
  | setImage id reference => Action.setImage id reference
  | setImageInstant id reference => Action.setImageInstant id reference
  | setGitRepo id source => Action.setGitRepo id source
  | commit id => Action.commit id
  | edit id change => Action.edit id change
  | addFileBytes id contents destination owner => Action.addFileBytes id contents destination owner
  | addFile id path destination owner => Action.addFile id path destination owner
  | addFolder id path destination owner => Action.addFolder id path destination owner
  | setUser id user => Action.setUser id user
  | addSidecar id sidecar => Action.addSidecar id sidecar
  | clone id => Action.clone id
  | cloneWithName id name => Action.cloneWithName id name
  | start id => Action.start id
  | startWithoutWait id => Action.startWithoutWait id
  | stop id => Action.stop id
  | isRunning id => Action.isRunning id
  | waitRunning id => Action.waitRunning id
  | waitStopped id => Action.waitStopped id
  | createCustomResource id type object => Action.createCustomResource id type object
  | address id => Action.address id
  | addHost id port => Action.addHost id port
  | executeCommand id command => Action.executeCommand id command
  | fetchFile id path => Action.fetchFile id path
  | forwardPort id port => Action.forwardPort id port
  | setBandwidthLimit id bitsPerSecond => Action.setBandwidthLimit id bitsPerSecond
  | setLatencyAndJitter id milliseconds jitter => Action.setLatencyAndJitter id milliseconds jitter
  | setPacketLoss id percent => Action.setPacketLoss id percent
  | clearShaping id => Action.clearShaping id
  | disableNetwork id => Action.disableNetwork id
  | enableNetwork id => Action.enableNetwork id
  | networkIsDisabled id => Action.networkIsDisabled id

/-- The instance that a call clones. -/
def cloneOf? : Call → Option InstanceId
  | clone id | cloneWithName id _ => some id
  | _ => none

end Call

/-- A call that has been made, with what happened and what came of it. -/
structure Record where
  call : Call
  events : List Event
  result : Except Error call.Value

/-- The registries that a history can leave, from an empty registry on. -/
inductive Reaches (setup : Setup) : List Record → Registry → Prop where
  | empty : Reaches setup [] {}
  | call {call : Call} {result : Except Error call.Value}
      (earlier : Reaches setup history before)
      (course : Action.Course setup call.perform before events result after) :
      Reaches setup (history ++ [⟨call, events, result⟩]) after

/-- The last call of a history has taken its course. -/
theorem Reaches.last_course {setup : Setup} {earlier : List Record} {record : Record}
    {registry : Registry} (reached : Reaches setup (earlier ++ [record]) registry) :
    ∃ before, Reaches setup earlier before ∧
      Action.Course setup record.call.perform before record.events record.result registry := by
  generalize whole : earlier ++ [record] = history at reached
  cases reached with
  | empty => exact absurd whole (List.append_ne_nil_of_right_ne_nil _ (List.cons_ne_nil _ _))
  | call former course =>
      rcases List.append_inj' whole rfl with ⟨rfl, same⟩
      cases same
      exact ⟨_, former, course⟩

/-- Everything that happened in a history, in order. -/
def eventsOf (history : List Record) : List Event :=
  history.flatMap Record.events

theorem eventsOf_append (earlier later : List Record) :
    eventsOf (earlier ++ later) = eventsOf earlier ++ eventsOf later :=
  List.flatMap_append

theorem eventsOf_concat (earlier : List Record) (record : Record) :
    eventsOf (earlier ++ [record]) = eventsOf earlier ++ record.events := by
  rw [eventsOf_append, eventsOf, eventsOf, List.flatMap_singleton]

end Testbed
