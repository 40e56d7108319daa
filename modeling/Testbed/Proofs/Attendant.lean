import Testbed.Action.Sidecar
import Testbed.Proofs.Revision

namespace Testbed

/-!
# Attendants

An attendant is a sidecar that a first start injects, in one of two roles.  The roles are injected by
actions of the same shape, so what an injection makes and what it leaves is said here once, with the
role as a parameter: when an attendant is wanted, what it is made from, what it is described as, and
how its parent notes that it is there.

What an attendant is made like depends on the name and the wishes of its parent only.
-/

/-- What a sidecar is injected for. -/
inductive Attendant where
  /-- To receive the telemetry that the parent wants to be observed by. -/
  | collector
  /-- To shape the traffic of the pod. -/
  | shaper
  deriving DecidableEq

namespace Attendant

variable {role : Attendant} {parent sidecar : Instance} {wishes : Wishes} {handle : InstanceId}

/-- The name of an attendant, from that of its parent. -/
def nameFor : Attendant → String → String
  | collector, name => name ++ "-otel-collector"
  | shaper, name => name ++ "-fault"

/-- Whether a parent of these wishes is to have an attendant. -/
def isWanted : Attendant → Wishes → Bool
  | collector, wishes => wishes.observability.isEnabled
  | shaper, wishes => wishes.isShaped

/-- The image that an attendant is made from. -/
def imageFor (settings : Settings) (wishes : Wishes) : Attendant → String
  | collector => Action.collectorImage settings wishes.observability
  | shaper => settings.faultInjectionImage

/-- The file that a collector reads its configuration from. -/
def configFile (wishes : Wishes) : InstanceFile :=
  ⟨Observability.configPath, 0, Action.collectorFile wishes.observability, false⟩

/-- What an injection makes of a committed instance. -/
def fit (wishes : Wishes) (made : Instance) : Attendant → Instance
  | collector =>
    (Action.collectorEdits wishes.observability).foldl Edit.change
      (made.withDeployedFile (Action.collectorFile wishes.observability) Observability.configPath 0)
  | shaper => (Action.shapingEdits wishes.port).foldl Edit.change made

/-- An attendant as it is injected. -/
def made (role : Attendant) (parent : Instance) (id : InstanceId) (clusterName image : String)
    (context : ContextId) : Instance :=
  role.fit parent.wishes
    { id
      name := role.nameFor parent.name
      clusterName
      state := .committed
      image := some image
      context := some context }

/-- Whether a parent has a note that it has got an attendant. -/
def isNoted : Attendant → Instance → Bool
  | collector, parent => parent.collector.isSome
  | shaper, parent => parent.fault.sidecar.isSome

/-- Notes of a parent that an instance is its attendant. -/
def note (handle : InstanceId) (clusterName : String) (parent : Instance) : Attendant → Instance
  | collector => { parent with collector := some handle }
  | shaper => { parent with fault := { parent.fault with sidecar := some clusterName } }

/-- Whether the note of a parent is about the instance of this handle. -/
def Notes : Attendant → Instance → InstanceId → Instance → Prop
  | collector, parent, handle, _ => parent.collector = some handle
  | shaper, parent, _, sidecar => parent.fault.sidecar = some sidecar.clusterName

/-- Whether an attendant serves the wishes of its parent: a collector has the configuration, and a
shaping sidecar listens on the port that it is talked to on. -/
def Serves : Attendant → Wishes → Instance → Prop
  | collector, wishes, sidecar => sidecar.files = [configFile wishes]
  | shaper, wishes, sidecar =>
    wishes.port ∈ sidecar.tcpPorts ∧
      sidecar.env.get? "SERVE_ADDR" = some (Observability.listenAddress wishes.port)

/-! ## Notes -/

theorem isNoted_of_notes (notes : role.Notes parent handle sidecar) : role.isNoted parent = true := by
  cases role with
  | collector => exact Option.isSome_iff_exists.mpr ⟨_, notes⟩
  | shaper => exact Option.isSome_iff_exists.mpr ⟨_, notes⟩

theorem notes_note {clusterName : String} (named : sidecar.clusterName = clusterName) :
    role.Notes (role.note handle clusterName parent) handle sidecar := by
  cases role with
  | collector => rfl
  | shaper => exact congrArg some named.symm

theorem isNoted_note_self {clusterName : String} :
    role.isNoted (role.note handle clusterName parent) = true := by
  cases role <;> rfl

/-- A note in one role is none in the other. -/
theorem isNoted_note {other : Attendant} {clusterName : String} (apart : other ≠ role) :
    other.isNoted (role.note handle clusterName parent) = other.isNoted parent := by
  cases role with
  | collector =>
      cases other with
      | collector => exact absurd rfl apart
      | shaper => rfl
  | shaper =>
      cases other with
      | collector => rfl
      | shaper => exact absurd rfl apart

/-- A note leaves alone what attendants are made from, and who they are. -/
theorem note_keeps {clusterName : String} :
    (role.note handle clusterName parent).name = parent.name ∧
      (role.note handle clusterName parent).wishes = parent.wishes ∧
      (role.note handle clusterName parent).sidecars = parent.sidecars ∧
      (role.note handle clusterName parent).fault.activeMode = parent.fault.activeMode := by
  cases role <;> exact ⟨rfl, rfl, rfl, rfl⟩

/-- Whether there is a note can be read off the notes alone. -/
theorem isNoted_congr {workload : Instance} {value : Bool} (noted : role.isNoted workload = value)
    (collector : workload.collector = parent.collector)
    (target : workload.fault.sidecar = parent.fault.sidecar) : role.isNoted parent = value := by
  cases role with
  | collector => exact (congrArg Option.isSome collector).symm.trans noted
  | shaper => exact (congrArg Option.isSome target).symm.trans noted

theorem isNoted_of_bonds_eq {workload : Instance} {value : Bool} (noted : role.isNoted workload = value)
    (same : workload.bonds = parent.bonds) : role.isNoted parent = value :=
  isNoted_congr noted (congrArg Bonds.collector same) (congrArg Bonds.target same)

/-! ## Descriptions -/

theorem foldl_change {β : Type} (view : Instance → β) (edits : List Edit) (workload : Instance)
    (keeps : ∀ edit ∈ edits, ∀ workload : Instance, view (edit.change workload) = view workload) :
    view (edits.foldl Edit.change workload) = view workload := by
  induction edits generalizing workload with
  | nil => rfl
  | cons first rest inductionHypothesis =>
      have onward := inductionHypothesis (first.change workload) fun edit member =>
        keeps edit (List.mem_cons_of_mem first member)
      exact onward.trans (keeps first List.mem_cons_self workload)

theorem bonds_fit (workload : Instance) : (role.fit wishes workload).bonds = workload.bonds := by
  cases role with
  | collector => exact foldl_change Instance.bonds _ _ fun edit _ => edit.bonds_change
  | shaper => exact foldl_change Instance.bonds _ _ fun edit _ => edit.bonds_change

/-- The edits of a collector are about its arguments and its ports. -/
theorem view_of_collectorEdits {β : Type} (view : Instance → β) (workload : Instance)
    (args : ∀ (workload : Instance) args, view { workload with args } = view workload)
    (tcpPorts : ∀ (workload : Instance) tcpPorts, view { workload with tcpPorts } = view workload)
    (udpPorts : ∀ (workload : Instance) udpPorts, view { workload with udpPorts } = view workload) :
    view ((Action.collectorEdits wishes.observability).foldl Edit.change workload) =
      view workload := by
  refine foldl_change view _ _ fun edit member workload => ?_
  rcases List.mem_cons.mp member with rfl | listens
  · exact args workload _
  · rcases List.mem_append.mp listens with tcp | udp
    · rcases List.mem_map.mp tcp with ⟨port, _, rfl⟩
      exact tcpPorts workload _
    · rcases List.mem_map.mp udp with ⟨port, _, rfl⟩
      exact udpPorts workload _

theorem image_fit (workload : Instance) : (role.fit wishes workload).image = workload.image := by
  cases role with
  | collector =>
      exact view_of_collectorEdits Instance.image _ (fun _ _ => rfl) (fun _ _ => rfl) fun _ _ => rfl
  | shaper => rfl

/-- An attendant has its name and its cluster name from the start, and nothing is noted of it. -/
theorem bonds_made {clusterName image : String} {context : ContextId} :
    (role.made parent handle clusterName image context).bonds =
      ⟨⟨handle, clusterName, none, []⟩, role.nameFor parent.name, none, none, none⟩ :=
  bonds_fit _

theorem sidecars_made {clusterName image : String} {context : ContextId} :
    (role.made parent handle clusterName image context).sidecars = [] :=
  congrArg (fun bonds => bonds.links.sidecars) bonds_made

theorem image_made {clusterName image : String} {context : ContextId} :
    (role.made parent handle clusterName image context).image = some image :=
  image_fit _

/-- An attendant serves its parent when it is injected. -/
theorem serves_made {clusterName image : String} {context : ContextId} :
    role.Serves parent.wishes (role.made parent handle clusterName image context) := by
  cases role with
  | collector =>
      exact view_of_collectorEdits Instance.files _ (fun _ _ => rfl) (fun _ _ => rfl) fun _ _ => rfl
  | shaper => exact ⟨List.mem_singleton.mpr rfl, rfl⟩

/-- Whether an attendant serves its parent is a matter of its description. -/
theorem Serves.of_description_eq {other : Instance} (serves : role.Serves wishes sidecar)
    (same : other.description = sidecar.description) : role.Serves wishes other := by
  cases role with
  | collector =>
      have files := congrArg Instance.files same
      exact files.trans serves
  | shaper =>
      have ports := congrArg Instance.tcpPorts same
      have env := congrArg (fun described => described.env.get? "SERVE_ADDR") same
      exact ⟨ports ▸ serves.1, env.trans serves.2⟩

end Attendant
end Testbed
