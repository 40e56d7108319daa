import Testbed.Proofs.Amendment
import Testbed.Proofs.Call
import Testbed.Proofs.Cluster

namespace Testbed

/-!
# Revisions

Most calls are about one instance: they talk to collaborators, and in the end they may change that
instance.  A revision is such a change, with the call that makes it.  It is narrower than an amendment,
because it says which instance the call has to be about; and no revision touches what injections and
shaping note of an instance.

Whatever happens in such a call is plain: it neither shapes traffic nor removes a compute unit.
-/

namespace Event

/-- The shaping service that an event is an exchange with, if it is one. -/
def shaper? : Event → Option String
  | asked (.shape target _ _ _) _ | asked (.unshape target _ _) _ => some target
  | _ => none

/-- A compute unit has been removed. -/
abbrev removed (name : String) (grace : Option UInt32) : Event :=
  .deleted .replicaSet name grace

/-- Whether an event neither shapes traffic nor removes a compute unit. -/
def IsPlain (event : Event) : Prop :=
  event.shaper? = none ∧ ∀ name grace, event ≠ .removed name grace

theorem isPlain_of_image {request : ImageRequest} {reply : (Request.image request).Reply} :
    (asked (.image request) reply).IsPlain :=
  ⟨rfl, nofun⟩

theorem isPlain_of_awaited {condition : Condition} {outcome : WaitOutcome Error} :
    (awaited condition outcome).IsPlain :=
  ⟨rfl, nofun⟩

theorem isPlain_of_applied {resource : Resource} : (applied resource).IsPlain :=
  ⟨rfl, nofun⟩

/-- A request to the cluster that fails is plain. -/
theorem isPlain_of_error {request : ClusterRequest} {error : Error} :
    (asked (.cluster request) (.error error)).IsPlain := by
  refine ⟨rfl, fun name grace same => ?_⟩
  cases same

end Event

/-- The instance that a call describes, or gives an image. -/
def Call.describes? : Call → Option InstanceId
  | setImage id _ | setImageInstant id _ | setGitRepo id _ | commit id | edit id _
  | addFileBytes id _ _ _ | addFile id _ _ _ | addFolder id _ _ _ | setUser id _ => some id
  | _ => none

/-- What a call makes of an instance that it is about. -/
inductive Revision (call : Call) (id : InstanceId) (workload : Instance) : Instance → Prop where
  | edited (made : call = .edit id change) (edited : workload.edit change = .ok revised) :
      Revision call id workload revised
  | filed (describes : call.describes? = some id) (files : List InstanceFile) (group : Option Int64) :
      Revision call id workload { workload with files, fsGroup := group }
  | resolved (address : String) :
      Revision call id workload { workload with serviceAddress := some address }
  | prepared (describes : call.describes? = some id) (context : ContextId) :
      Revision call id workload { workload with context := some context, state := .preparing }
  | committed (describes : call.describes? = some id) (reference : String) :
      Revision call id workload { workload with image := some reference, state := .committed }

/-! ## What revisions leave alone -/

/-- What is noted of an instance apart from its description: who it is, how it is related to others,
and what injections and shaping have left. -/
structure Bonds where
  links : Links
  name : String
  collector : Option InstanceId
  /-- The cluster name of the shaping sidecar. -/
  target : Option String
  /-- The shaping in force. -/
  mode : Option ShapingKind

/-- What an instance is given by those that injected sidecars are to serve. -/
structure Wishes where
  observability : Observability
  /-- Whether traffic is to be shaped. -/
  isShaped : Bool
  port : UInt16

namespace Instance

def bonds (workload : Instance) : Bonds :=
  ⟨workload.links, workload.name, workload.collector, workload.fault.sidecar,
    workload.fault.activeMode⟩

def wishes (workload : Instance) : Wishes :=
  ⟨workload.observability, workload.fault.isEnabled, workload.fault.port⟩

/-- What an instance has been described as, whatever state it is in, whomever it is related to, and
whatever is noted of it. -/
def description (workload : Instance) : Instance :=
  { workload with
    state := .created
    parent := none
    sidecars := []
    collector := none
    serviceAddress := none
    fault := { workload.fault with activeMode := none, sidecar := none } }

end Instance

/-- Whether an edit changes what injected sidecars are to serve. -/
def Edit.IsWish (edit : Edit) : Prop :=
  edit.operation = .setObservability ∨ edit.operation = .setFaultInjection

theorem Edit.bonds_change (edit : Edit) (workload : Instance) :
    (edit.change workload).bonds = workload.bonds := by
  cases edit with
  | setProbe role probe => cases role <;> rfl
  | _ => rfl

theorem Edit.wishes_change (edit : Edit) (workload : Instance) (plain : ¬ edit.IsWish) :
    (edit.change workload).wishes = workload.wishes := by
  cases edit with
  | setProbe role probe => cases role <;> rfl
  | setFaultInjection | setFaultInterface | setFaultPort => exact absurd (Or.inr rfl) plain
  | setCollectorVersion | setOtlpEndpoint | setPrometheusEndpoint | setJaegerEndpoint
  | setOtlpExporter | setJaegerExporter | setPrometheusExporter | setRemoteWriteExporter =>
      exact absurd (Or.inl rfl) plain
  | _ => rfl

namespace Revision

variable {call : Call} {id : InstanceId} {workload revised : Instance}

theorem bonds_eq (revision : Revision call id workload revised) : revised.bonds = workload.bonds := by
  cases revision with
  | edited _ edited =>
      rcases Instance.edit_eq_ok_iff.mp edited with ⟨_, _, rfl⟩
      exact Edit.bonds_change _ workload
  | _ => rfl

/-- Only an edit changes the wishes of an instance. -/
theorem wishes_eq (revision : Revision call id workload revised)
    (unedited : ∀ change, call = .edit id change → ¬ change.IsWish) :
    revised.wishes = workload.wishes := by
  cases revision with
  | edited made edited =>
      rcases Instance.edit_eq_ok_iff.mp edited with ⟨_, _, rfl⟩
      exact Edit.wishes_change _ workload (unedited _ made)
  | _ => rfl

/-- An instance that a call does not describe keeps its description. -/
theorem description_eq (revision : Revision call id workload revised)
    (apart : call.describes? ≠ some id) : revised.description = workload.description := by
  cases revision with
  | edited made _ =>
      rw [made] at apart
      exact absurd rfl apart
  | filed describes | prepared describes | committed describes => exact absurd describes apart
  | resolved => rfl

end Revision
end Testbed
