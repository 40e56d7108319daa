import Mathlib.Data.List.Basic
import Mathlib.Data.List.Nodup
import Testbed.Proofs.Contents
import Testbed.Proofs.Course.Action
import Testbed.Proofs.Description
import Testbed.Proofs.Isolation.Host
import Testbed.Proofs.Isolation.Policy

namespace Testbed

/-!
# Which pods are selected

A compute unit takes the pods for its own that its selector picks, and a service sends its traffic to those that
its selector picks.  Both selectors name a cluster name, and every pod carries the cluster name of its owner, so
it can be seen from the registry alone who is selected.

The service of a member is compiled in two places: with the pod, when the pod is started for the first time,
and alone, when the address of the member is asked for.  In both it has the name of the member, while it selects
the pod that the member runs in, which for a sidecar is the pod of its parent.
-/

/-- Whether a compute unit takes the pods of a compute unit for its own. -/
def ReplicaSet.Adopts (unit other : ReplicaSet) : Prop :=
  other.metadata.space = unit.metadata.space ∧
    unit.spec.selector.Selects other.spec.template.metadata.labels

namespace Service

/-- Whether a service sends its traffic to the pods of a compute unit.  Without a selector it sends none to
anybody. -/
def Fronts (service : Service) (unit : ReplicaSet) : Prop :=
  service.spec.selector ≠ .empty ∧ unit.metadata.space = service.metadata.space ∧
    ({ matchLabels := service.spec.selector } : LabelSelector).Selects unit.spec.template.metadata.labels

/-- The ports of a service with a protocol. -/
def portsOf (service : Service) (protocol : String) : List UInt16 :=
  (service.spec.ports.filter fun port => port.protocol = protocol).map ServicePort.port

/-- Whether a service exposes these ports and no others. -/
structure Exposes (service : Service) (tcpPorts udpPorts : List UInt16) : Prop where
  tcp : service.portsOf "TCP" = tcpPorts
  udp : service.portsOf "UDP" = udpPorts
  /-- There are no ports but these, and all lead to the same port of the pod. -/
  direct : ∀ port ∈ service.spec.ports,
    (port.protocol = "TCP" ∨ port.protocol = "UDP") ∧ port.targetPort = port.port
  distinct : (service.spec.ports.map ServicePort.name).Nodup

end Service

/-! ## The names of ports -/

/-- Ports that differ have different names, whatever stands before their numbers. -/
theorem portName_injective (protocol : String) :
    Function.Injective fun port : UInt16 => protocol ++ toString port :=
  fun _ _ same => UInt16.toNat_inj.mp (toString_nat_injective ((String.append_right_inj _).mp same))

namespace Instance

variable {workload : Instance} {service : Service} {owner space : String}

/-- The service of an instance, with its ports in the order in which they were added. -/
theorem parts_of_service (offered : workload.service owner space = some service) :
    service.metadata.name = workload.clusterName ∧ service.metadata.space = space ∧
      service.spec.selector = .single Label.app owner ∧
      service.spec.ports =
        (workload.tcpPorts.map fun port => ⟨"tcp-" ++ toString port, port, port, "TCP"⟩) ++
          workload.udpPorts.map fun port => ⟨"udp-" ++ toString port, port, port, "UDP"⟩ := by
  rw [Instance.service] at offered
  split at offered
  · cases offered
  · cases offered
    exact ⟨rfl, rfl, rfl, rfl⟩

/-- An instance has a service if it has ports. -/
theorem isSome_service :
    (workload.service owner space).isSome = true ↔ workload.tcpPorts ≠ [] ∨ workload.udpPorts ≠ [] := by
  rw [Instance.service]
  cases workload.tcpPorts <;> cases workload.udpPorts <;> simp

/-- The ports of an instance are exposed as they are, each under a name of its own. -/
theorem exposes_of_service (sound : workload.HasSoundDescription)
    (offered : workload.service owner space = some service) :
    service.Exposes workload.tcpPorts workload.udpPorts := by
  have ports := (parts_of_service offered).2.2.2
  constructor
  · simp [Service.portsOf, ports, List.filter_append, List.filter_map, Function.comp_def,
      List.filter_true, List.filter_false]
  · simp [Service.portsOf, ports, List.filter_append, List.filter_map, Function.comp_def,
      List.filter_true, List.filter_false]
  · intro port listed
    rw [ports] at listed
    rcases List.mem_append.mp listed with tcp | udp
    · rcases List.mem_map.mp tcp with ⟨number, _, rfl⟩
      exact ⟨Or.inl rfl, rfl⟩
    · rcases List.mem_map.mp udp with ⟨number, _, rfl⟩
      exact ⟨Or.inr rfl, rfl⟩
  · rw [ports, List.map_append, List.map_map, List.map_map, List.nodup_append]
    refine ⟨sound.tcpPorts_nodup.map (portName_injective "tcp-"),
      sound.udpPorts_nodup.map (portName_injective "udp-"), ?_⟩
    -- The names begin differently.
    intro tcp listed udp again same
    rcases List.mem_map.mp listed with ⟨number, _, rfl⟩
    rcases List.mem_map.mp again with ⟨other, _, rfl⟩
    have begins := congrArg (fun name : String => name.toList.head?) same
    simp at begins

end Instance

/-! ## What is compiled from a registry -/

/-- The selector of a compute unit names the owner of its pods. -/
theorem Pod.selector_of_replicaSet {pod : Pod} {unit : ReplicaSet} (made : pod.replicaSet = .ok unit) :
    unit.spec.selector = .single Label.app pod.parent.clusterName := by
  rcases parts_of_replicaSet made with ⟨_, _, _, spec⟩
  rw [spec]

theorem Pod.service_mem_memberResources {pod : Pod} {member : Instance} {service : Service}
    (offered : member.service pod.parent.clusterName pod.space = some service) :
    .service service ∈ pod.memberResources member := by
  simp [memberResources, offered]

/-- Whether the pod of an instance can be compiled to this.  When a started instance gets another image, its pod
is compiled with this image before the instance itself has it. -/
def Registry.CompilesTo (registry : Registry) (settings : Settings) (id : InstanceId)
    (compiled : CompiledPod) : Prop :=
  ∃ workload image, registry.get? id = some workload ∧
    registry.compile settings { workload with image } = .ok compiled

/-- Where the service of an instance is compiled, if it has one. -/
inductive Registry.Serves (setup : Setup) (registry : Registry) (id : InstanceId) (service : Service) :
    Prop where
  /-- With the pod that the instance runs in, under the name of the instance. -/
  | started {member : Instance} {compiled : CompiledPod} (found : registry.get? id = some member)
      (compiles : registry.CompilesTo setup.settings (registry.leaderOf id) compiled)
      (listed : .service service ∈ compiled.supporting)
      (named : service.metadata.name = member.clusterName)
  /-- When the address of the instance is asked for. -/
  | addressed {events : List Event} {result : Except Error String} {after : Registry}
      {reply : (Request.cluster (.apply (.service service))).Reply}
      (course : Action.Course setup (Action.address id) registry events result after)
      (asked : .asked (.cluster (.apply (.service service))) reply ∈ events)

namespace Registry

variable {setup : Setup} {settings : Settings} {registry : Registry} {id other : InstanceId}
  {workload member leader : Instance} {compiled second : CompiledPod} {service : Service}

/-- What is known of the compute unit of an instance. -/
theorem CompilesTo.unit (compiles : registry.CompilesTo settings id compiled)
    (found : registry.get? id = some workload) :
    compiled.replicaSet.metadata.space = settings.space ∧
      compiled.replicaSet.spec.selector = .single Label.app workload.clusterName ∧
      compiled.replicaSet.spec.template.metadata.labels.get? Label.app = some workload.clusterName := by
  rcases compiles with ⟨same, image, known, made⟩
  obtain rfl := Option.some.inj (known.symm.trans found)
  rcases labels_of_compile made with ⟨space, labels⟩
  rcases compile_eq_ok_iff.mp made with ⟨pod, assembled, unit, _⟩
  have parent := (pod_eq_ok_iff.mp assembled).2.1
  refine ⟨space, ?_, ?_⟩
  · rw [Pod.selector_of_replicaSet unit, parent]
  · rw [labels, Instance.get?_podLabels_app]

theorem CompilesTo.registered (compiles : registry.CompilesTo settings id compiled) :
    ∃ workload, registry.get? id = some workload := by
  rcases compiles with ⟨workload, _, found, _⟩
  exact ⟨workload, found⟩

/-- A selector by the cluster name of an instance picks the pods of that instance and of no other. -/
theorem WellLinked.selects_iff (linked : registry.WellLinked) (found : registry.get? id = some workload)
    (compiles : registry.CompilesTo settings other compiled) :
    (LabelSelector.single Label.app workload.clusterName).Selects
      compiled.replicaSet.spec.template.metadata.labels ↔ other = id := by
  rcases compiles.registered with ⟨another, there⟩
  rw [LabelSelector.selects_single_iff, (compiles.unit there).2.2, Option.some.injEq]
  constructor
  · exact fun same => linked.distinct there found same
  · rintro rfl
    rw [Option.some.inj (there.symm.trans found)]

/-- A compute unit takes the pods of its owner for its own, and no others. -/
theorem WellLinked.adopts_iff (linked : registry.WellLinked)
    (compiles : registry.CompilesTo settings id compiled)
    (again : registry.CompilesTo settings other second) :
    compiled.replicaSet.Adopts second.replicaSet ↔ other = id := by
  rcases compiles.registered with ⟨workload, found⟩
  rcases again.registered with ⟨another, there⟩
  rcases compiles.unit found with ⟨space, selector, _⟩
  rw [ReplicaSet.Adopts, selector, linked.selects_iff found again, space, (again.unit there).1]
  exact and_iff_right rfl

/-- A service for the pod of an instance sends its traffic there, and nowhere else. -/
theorem WellLinked.fronts_iff (linked : registry.WellLinked) (found : registry.get? id = some leader)
    (offered : member.service leader.clusterName settings.space = some service)
    (compiles : registry.CompilesTo settings other compiled) :
    service.Fronts compiled.replicaSet ↔ other = id := by
  rcases compiles.registered with ⟨another, there⟩
  rcases Instance.parts_of_service offered with ⟨_, space, selector, _⟩
  have selective : StringMap.single Label.app leader.clusterName ≠ .empty := by
    intro empty
    have bound := congrArg (fun map => map.get? Label.app) empty
    rw [StringMap.get?_single, if_pos rfl] at bound
    cases bound
  rw [Service.Fronts, selector, space, (compiles.unit there).1]
  refine (and_iff_right selective).trans ((and_iff_right rfl).trans ?_)
  exact linked.selects_iff found compiles

/-- The members of a pod are those whose handles it has, but for the image of the parent. -/
theorem mem_members_as_iff {pod : Pod} {image : Option String} (found : registry.get? id = some leader)
    (assembled : registry.pod settings { leader with image } = .ok pod) :
    member ∈ pod.members ↔ member = { leader with image } ∨
      ∃ handle ∈ registry.sidecarsOf id, registry.get? handle = some member := by
  rcases pod_eq_ok_iff.mp assembled with ⟨collected, parent, _⟩
  rw [Pod.members, parent, List.mem_cons, mem_of_mapM_find collected, sidecarsOf_eq found]

/-- What is of a member of a pod is of an instance of the registry. -/
theorem exists_of_mem_members {pod : Pod} {image : Option String} (found : registry.get? id = some leader)
    (assembled : registry.pod settings { leader with image } = .ok pod) (listed : member ∈ pod.members) :
    ∃ handle ∈ registry.podHandles id, ∃ known image,
      registry.get? handle = some known ∧ member = { known with image } := by
  rcases (mem_members_as_iff found assembled).mp listed with rfl | ⟨handle, follows, there⟩
  · exact ⟨id, mem_podHandles_iff.mpr (Or.inl rfl), leader, image, found, rfl⟩
  · exact ⟨handle, mem_podHandles_iff.mpr (Or.inr follows), member, member.image, there, rfl⟩

/-- A service that is compiled with a pod under the name of an instance is that of the instance. -/
theorem WellLinked.offered_of_compiled (linked : registry.WellLinked)
    (led : registry.get? id = some leader) (compiles : registry.CompilesTo settings id compiled)
    (listed : .service service ∈ compiled.supporting) (found : registry.get? other = some member)
    (named : service.metadata.name = member.clusterName) :
    member.service leader.clusterName settings.space = some service := by
  rcases compiles with ⟨same, image, known, made⟩
  obtain rfl := Option.some.inj (known.symm.trans led)
  rcases compile_eq_ok_iff.mp made with ⟨pod, assembled, _, supporting⟩
  rcases pod_eq_ok_iff.mp assembled with ⟨_, parent, space, _⟩
  rw [supporting] at listed
  rcases Pod.supports_of_mem listed with ⟨another, there, supports⟩
  cases supports with
  | service offered =>
      rcases exists_of_mem_members known assembled there with ⟨handle, _, owner, _, registered, rfl⟩
      have name := (Instance.parts_of_service offered).1
      obtain rfl := linked.distinct registered found (name.symm.trans named)
      obtain rfl := Option.some.inj (registered.symm.trans found)
      rw [parent, space] at offered
      exact offered

/-- Every service that is compiled with a pod is that of somebody who runs in the pod. -/
theorem exists_serves (linked : registry.WellLinked) (led : registry.get? id = some leader)
    (leads : leader.parent = none) (compiles : registry.CompilesTo setup.settings id compiled)
    (listed : .service service ∈ compiled.supporting) :
    ∃ other ∈ registry.podHandles id, registry.Serves setup other service := by
  have whole := compiles
  rcases compiles with ⟨same, image, known, made⟩
  obtain rfl := Option.some.inj (known.symm.trans led)
  rcases compile_eq_ok_iff.mp made with ⟨pod, assembled, _, supporting⟩
  rcases Pod.supports_of_mem (supporting ▸ listed) with ⟨_, there, supports⟩
  cases supports with
  | service offered =>
      rcases exists_of_mem_members known assembled there with ⟨handle, follows, owner, _, found, rfl⟩
      have leader := (linked.leaderOf_eq_iff ((parentOf_eq known).trans leads)).mpr follows
      rw [← leader] at whole
      exact ⟨handle, follows, .started found whole listed (Instance.parts_of_service offered).1⟩

/-- Whoever runs in a pod and has ports has a service among what is compiled for the pod. -/
theorem exists_service_iff (linked : registry.WellLinked) (led : registry.get? id = some leader)
    (compiles : registry.CompilesTo settings id compiled) (follows : other ∈ registry.podHandles id)
    (found : registry.get? other = some member) :
    (∃ service, .service service ∈ compiled.supporting ∧ service.metadata.name = member.clusterName) ↔
      member.tcpPorts ≠ [] ∨ member.udpPorts ≠ [] := by
  constructor
  · rintro ⟨service, listed, named⟩
    have offered := linked.offered_of_compiled led compiles listed found named
    exact Instance.isSome_service.mp (Option.isSome_iff_exists.mpr ⟨service, offered⟩)
  · intro listens
    rcases compiles with ⟨same, image, known, made⟩
    obtain rfl := Option.some.inj (known.symm.trans led)
    rcases compile_eq_ok_iff.mp made with ⟨pod, assembled, _, supporting⟩
    have serves := (@Instance.isSome_service member pod.parent.clusterName pod.space).mpr listens
    rcases Option.isSome_iff_exists.mp serves with ⟨service, offered⟩
    have present : ∃ there ∈ pod.members,
        there.service pod.parent.clusterName pod.space = some service := by
      rcases mem_podHandles_iff.mp follows with rfl | sidecar
      · obtain rfl := Option.some.inj (known.symm.trans found)
        exact ⟨_, (mem_members_as_iff known assembled).mpr (Or.inl rfl), offered⟩
      · exact ⟨_, (mem_members_as_iff known assembled).mpr (Or.inr ⟨other, sidecar, found⟩), offered⟩
    rcases present with ⟨there, among, offers⟩
    refine ⟨service, ?_, (Instance.parts_of_service offered).1⟩
    rw [supporting]
    exact Pod.mem_supporting among (Pod.service_mem_memberResources offers)

end Registry

/-! ## What is applied for an address -/

namespace Action

variable {setup : Setup} {before after : Registry} {events : List Event} {id : InstanceId}
  {workload : Instance} {service : Service} {reply : (Request.cluster (.apply (.service service))).Reply}

/-- The service that is applied when an address is asked for is that of the instance. -/
theorem offered_of_address {result : Except Error String}
    (course : Course setup (address id) before events result after)
    (asked : .asked (.cluster (.apply (.service service))) reply ∈ events) :
    ∃ workload owner, before.get? id = some workload ∧ before.podOwner workload = .ok owner ∧
      workload.service owner setup.settings.space = some service := by
  rcases course_address course with
    ⟨_, _, rfl, _⟩ | ⟨workload, ⟨found, _⟩, ⟨_, _, rfl, _⟩ | ⟨_, lookup, _⟩⟩
  · cases asked
  · cases asked
  · rcases lookup.offered asked with ⟨owner, owned, offered⟩
    exact ⟨workload, owner, found, owned, offered⟩

end Action

/-! ## Exactness -/

namespace Registry

variable {setup : Setup} {registry : Registry} {id : InstanceId} {member leader : Instance}
  {service : Service}

/-- Wherever the service of an instance is compiled, it is the one for the owner of the pod that the instance
runs in. -/
theorem Serves.offered (serves : registry.Serves setup id service) (linked : registry.WellLinked)
    (found : registry.get? id = some member) (led : registry.get? (registry.leaderOf id) = some leader) :
    member.service leader.clusterName setup.settings.space = some service := by
  cases serves with
  | started known compiles listed named =>
      obtain rfl := Option.some.inj (known.symm.trans found)
      exact linked.offered_of_compiled led compiles listed found named
  | addressed course asked =>
      rcases Action.offered_of_address course asked with ⟨same, owner, known, owned, offered⟩
      obtain rfl := Option.some.inj (known.symm.trans found)
      have hosted := (hostOf_eq_some_iff found).mpr owned
      obtain rfl := Option.some.inj ((hostOf_of_leader led).symm.trans hosted)
      exact offered

/-- Whoever has been deployed can be compiled. -/
theorem exists_compilesTo {history : List Record} (reached : Reaches setup history registry)
    (found : registry.get? id = some member) (settled : member.state.IsSettled) :
    ∃ compiled, registry.CompilesTo setup.settings id compiled := by
  rcases reached.invariant with ⟨linked, lockstep⟩
  have imaged := hereditary_image.of_reaches reached
  rcases exists_compile linked lockstep imaged found settled.late setup.settings with ⟨compiled, made⟩
  exact ⟨compiled, member, member.image, found, made⟩

end Registry

/-- Whatever is done with a testbed, and whatever fails, selectors are exact.  The compute unit of an instance
takes the pods of that instance for its own, and those of no other.  The service of an instance is the same
wherever it is compiled.  It exposes the ports of the instance under names of their own, and sends its traffic
to the pod that the instance runs in, and to no other.  With a pod, one service is compiled for each member that
has ports, and no other. -/
theorem selection_of_reaches {setup : Setup} {history : List Record} {registry : Registry}
    (reached : Reaches setup history registry) :
    (∀ id compiled other second, registry.CompilesTo setup.settings id compiled →
      registry.CompilesTo setup.settings other second →
      (compiled.replicaSet.Adopts second.replicaSet ↔ other = id)) ∧
    (∀ id member service, registry.get? id = some member → registry.Serves setup id service →
      service.metadata.name = member.clusterName ∧
      service.Exposes member.tcpPorts member.udpPorts ∧
      (∀ other compiled, registry.CompilesTo setup.settings other compiled →
        (service.Fronts compiled.replicaSet ↔ other = registry.leaderOf id)) ∧
      ∀ again, registry.Serves setup id again → again = service) ∧
    ∀ id leader compiled, registry.get? id = some leader → leader.parent = none →
      registry.CompilesTo setup.settings id compiled →
      (∀ service, .service service ∈ compiled.supporting →
        ∃ other ∈ registry.podHandles id, registry.Serves setup other service) ∧
      ∀ other ∈ registry.podHandles id, ∀ member, registry.get? other = some member →
        ((∃ service, .service service ∈ compiled.supporting ∧
          service.metadata.name = member.clusterName) ↔ member.tcpPorts ≠ [] ∨ member.udpPorts ≠ []) := by
  have linked := reached.invariant.1
  refine ⟨fun id compiled other second first again => linked.adopts_iff first again, ?_, ?_⟩
  · intro id member service found serves
    rcases linked.exists_leader found with ⟨leader, led, _⟩
    have offered := serves.offered linked found led
    refine ⟨(Instance.parts_of_service offered).1, ?_, ?_, ?_⟩
    · exact Instance.exposes_of_service (soundness_of_reaches reached found).1 offered
    · exact fun other compiled compiles => linked.fronts_iff led offered compiles
    · intro again alike
      exact Option.some.inj ((alike.offered linked found led).symm.trans offered)
  · intro id leader compiled led leads compiles
    exact ⟨fun service listed => Registry.exists_serves linked led leads compiles listed,
      fun other follows member found => Registry.exists_service_iff linked led compiles follows found⟩

/-- In a started pod, the service of the sidecar exposes the port of the sidecar and sends its traffic to the pod
of the owner. -/
theorem selection_of_podStart :
    let ended := trial .plain .agreeable Call.podStart
    Reaches .plain ended.1 ended.2 ∧ ∃ compiled service,
      ended.2.CompilesTo Setup.plain.settings ⟨0⟩ compiled ∧
      compiled.replicaSet.Adopts compiled.replicaSet ∧
      .service service ∈ compiled.supporting ∧ service.metadata.name = "side" ∧
      service.Exposes [80] [] ∧ service.Fronts compiled.replicaSet := by
  intro ended
  have reached : Reaches .plain ended.1 ended.2 := reaches_trial .plain .agreeable Call.podStart
  have host : ended.2.leaderOf ⟨1⟩ = ⟨0⟩ := by decide +kernel
  have follows : ⟨1⟩ ∈ ended.2.podHandles ⟨0⟩ := by decide +kernel
  have leads : (ended.2.get? ⟨0⟩).map Instance.parent = some none := by decide +kernel
  have listens : (ended.2.get? ⟨1⟩).map (fun member =>
      (member.clusterName, member.tcpPorts, member.udpPorts)) = some ("side", [80], []) := by decide +kernel
  have started : (ended.2.get? ⟨0⟩).map Instance.state = some .started := by decide +kernel
  rcases Option.map_eq_some_iff.mp leads with ⟨leader, there, alone⟩
  rcases Option.map_eq_some_iff.mp listens with ⟨member, found, parts⟩
  obtain ⟨named, tcp, udp⟩ : member.clusterName = "side" ∧ member.tcpPorts = [80] ∧ member.udpPorts = [] := by
    simpa only [Prod.mk.injEq] using parts
  rw [there, Option.map_some, Option.some.injEq] at started
  rcases Registry.exists_compilesTo reached there (started ▸ trivial) with ⟨compiled, compiles⟩
  rcases selection_of_reaches reached with ⟨adopts, serves, services⟩
  have offered := ((services ⟨0⟩ leader compiled there alone compiles).2 ⟨1⟩ follows member found).mpr
  rcases offered (Or.inl (by simp [tcp])) with ⟨service, listed, same⟩
  have served : ended.2.Serves .plain ⟨1⟩ service := .started found (host.symm ▸ compiles) listed same
  rcases serves ⟨1⟩ member service found served with ⟨_, exposes, fronts, _⟩
  rw [tcp, udp] at exposes
  exact ⟨reached, compiled, service, compiles, (adopts _ _ _ _ compiles compiles).mpr rfl, listed,
    same.trans named, exposes, (fronts ⟨0⟩ compiled compiles).mpr host.symm⟩

end Testbed
