import Testbed.Proofs.Completion
import Testbed.Proofs.Enlistment
import Testbed.Proofs.Selection

namespace Testbed

/-!
# Where collectors listen

The ports of a collector and its configuration are made separately from what its parent wants to be observed by.
The ports are described one by one, which skips those that are zero and those that are there already, while the
configuration has an endpoint for every receiver.  They agree: the collector has the ports that its receivers
listen on, and no others, and so have its service and its container.
-/

namespace Json

mutual

/-- The texts that are called an endpoint, at every depth. -/
def endpoints : Json → List String
  | array items => itemEndpoints items
  | object members => memberEndpoints members
  | null | bool _ | integer _ | decimal _ | string _ => []

/-- The endpoints in items. -/
def itemEndpoints : List Json → List String
  | [] => []
  | item :: rest => item.endpoints ++ itemEndpoints rest

/-- The endpoints among members and in them. -/
def memberEndpoints : List (String × Json) → List String
  | [] => []
  | (name, value) :: rest =>
    (if name = "endpoint" then value.toString?.toList else []) ++ value.endpoints ++ memberEndpoints rest

end

end Json

namespace Observability

variable {config : Observability}

/-! ## Endpoints -/

theorem listenAddress_injective : Function.Injective listenAddress :=
  portName_injective "0.0.0.0:"

/-- The ports of the receivers over TCP, in the order in which a collector gets them. -/
def tcpReceivers (config : Observability) : List UInt16 :=
  config.otlpPort.toList ++ config.jaeger.toList.flatMap fun ports => [ports.grpc, ports.thriftHttp]

/-- The ports of the receivers over UDP. -/
def udpReceivers (config : Observability) : List UInt16 :=
  config.jaeger.toList.map SpanPorts.thriftCompact

theorem endpoints_listener (port : UInt16) : (listener port).endpoints = [listenAddress port] := by
  simp [listener, Json.endpoints, Json.memberEndpoints, Json.toString?]

/-- The endpoints of the receivers are where they listen, in some order.  What is fetched for metrics is no
endpoint. -/
theorem endpoints_receivers :
    (Json.record config.receivers).endpoints.Perm
      ((config.tcpReceivers ++ config.udpReceivers).map listenAddress) := by
  have listed : (Json.record config.receivers).endpoints =
      (config.jaeger.toList.flatMap (fun ports => [ports.grpc, ports.thriftCompact, ports.thriftHttp]) ++
        config.otlpPort.toList).map listenAddress := by
    rw [receivers]
    cases config.jaeger <;> cases config.otlpPort <;> cases config.prometheus <;>
      simp [Json.record, Json.strings, Json.endpoints, Json.memberEndpoints, Json.itemEndpoints,
        endpoints_listener]
  rw [listed, tcpReceivers, udpReceivers]
  refine List.Perm.map listenAddress ?_
  cases config.jaeger with
  | none => simp
  | some ports =>
      refine List.perm_append_comm.trans ?_
      rw [List.append_assoc]
      exact (((List.Perm.swap _ _ []).cons _).append_left _)

end Observability

/-! ## Ports -/

theorem Instance.HasSoundDescription.foldl {workload : Instance} {edits : List Edit}
    (held : workload.HasSoundDescription) (bears : workload.Bears edits) :
    (edits.foldl Edit.change workload).HasSoundDescription := by
  induction edits generalizing workload with
  | nil => exact held
  | cons first rest inductionHypothesis =>
      rcases bears with ⟨edited, onward⟩
      exact inductionHypothesis (held.change (Instance.edit_eq_ok_iff.mp edited).2.1) onward

/-- Ports that are added one by one stand behind those that are there. -/
theorem Edit.ports_foldl (add : UInt16 → Edit) (ports : Instance → List UInt16)
    (appends : ∀ (workload : Instance) port,
      ports ((add port).change workload) = ports workload ++ [port])
    (listed : List UInt16) (workload : Instance) :
    ports ((listed.map add).foldl Edit.change workload) = ports workload ++ listed := by
  induction listed generalizing workload with
  | nil => exact (List.append_nil _).symm
  | cons first rest inductionHypothesis =>
      rw [List.map_cons, List.foldl_cons, inductionHypothesis, appends, List.append_assoc,
        List.singleton_append]

namespace Attendant

variable {parent : Instance} {id : InstanceId} {clusterName image : String} {context : ContextId}

/-- There is no more than one port over UDP. -/
theorem eraseDups_udpPorts (config : Observability) :
    config.udpPorts.eraseDups = config.udpReceivers.filter (· != 0) := by
  rw [Observability.udpPorts, Observability.udpReceivers]
  cases config.jaeger with
  | none => rfl
  | some ports =>
      rw [Option.toList_some, List.map_singleton, List.filter_singleton]
      cases ports.thriftCompact != 0 <;> rfl

theorem ports_collector :
    (collector.made parent id clusterName image context).tcpPorts =
        (parent.observability.tcpReceivers.filter (· != 0)).eraseDups ∧
      (collector.made parent id clusterName image context).udpPorts =
        parent.observability.udpReceivers.filter (· != 0) := by
  have first (workload : Instance) (ports : List UInt16) :
      ((ports.map Edit.addTcpPort).foldl Edit.change workload).tcpPorts = workload.tcpPorts ++ ports :=
    Edit.ports_foldl _ Instance.tcpPorts (fun _ _ => rfl) ports workload
  have last (workload : Instance) (ports : List UInt16) :
      ((ports.map Edit.addUdpPort).foldl Edit.change workload).udpPorts = workload.udpPorts ++ ports :=
    Edit.ports_foldl _ Instance.udpPorts (fun _ _ => rfl) ports workload
  rw [made, fit, Action.collectorEdits, List.foldl_cons, List.foldl_append]
  constructor
  · rw [foldl_change Instance.tcpPorts, first]
    · rfl
    · intro edit listed workload
      rcases List.mem_map.mp listed with ⟨port, _, rfl⟩
      rfl
  · rw [last, foldl_change Instance.udpPorts, ← eraseDups_udpPorts]
    · rfl
    · intro edit listed workload
      rcases List.mem_map.mp listed with ⟨port, _, rfl⟩
      rfl

theorem hasSoundDescription_collector :
    (collector.made parent id clusterName image context).HasSoundDescription := by
  have blank : Instance.HasSoundDescription { id, name := collector.nameFor parent.name, clusterName } :=
    hereditary_description.blank
  exact Instance.HasSoundDescription.foldl { blank with } (Instance.bears_collectorEdits rfl rfl rfl)

end Attendant

/-! ## Services and containers -/

/-- Whether a container exposes these ports and no others. -/
def Container.Exposes (container : Container) (tcpPorts udpPorts : List UInt16) : Prop :=
  container.ports = (tcpPorts.map fun port => { containerPort := port, protocol := "TCP" }) ++
    udpPorts.map fun port => { containerPort := port, protocol := "UDP" }

/-- Whether a compiled pod exposes the ports of a member and no others, under the name of the member: in a
container, and in a service if there are ports. -/
structure CompiledPod.Exposes (compiled : CompiledPod) (member : Instance) : Prop where
  present : ∃ container ∈ compiled.podSpec.containers, container.name = member.clusterName
  container : ∀ container ∈ compiled.podSpec.containers, container.name = member.clusterName →
    container.Exposes member.tcpPorts member.udpPorts
  offered : (∃ service, .service service ∈ compiled.supporting ∧ service.metadata.name = member.clusterName) ↔
    member.tcpPorts ≠ [] ∨ member.udpPorts ≠ []
  service : ∀ service, .service service ∈ compiled.supporting → service.metadata.name = member.clusterName →
    service.Exposes member.tcpPorts member.udpPorts

theorem Instance.exposes_of_container {workload : Instance} {container : Container}
    (made : workload.container = .ok container) :
    container.Exposes workload.tcpPorts workload.udpPorts := by
  rw [Instance.container] at made
  split at made
  · cases made
  · cases made
    rfl

/-- A pod exposes the ports of a member that no other has the cluster name of. -/
theorem Pod.exposes_of_compile {pod : Pod} {compiled : CompiledPod} {member : Instance}
    (made : pod.compile = .ok compiled) (listed : member ∈ pod.members) (sound : member.HasSoundDescription)
    (alone : ∀ other ∈ pod.members, other.clusterName = member.clusterName → other = member) :
    compiled.Exposes member := by
  rcases parts_of_compile made with ⟨supporting, _, _, _, containers⟩
  have own {service : Service} (supports : .service service ∈ compiled.supporting)
      (named : service.metadata.name = member.clusterName) :
      member.service pod.parent.clusterName pod.space = some service := by
    rw [supporting] at supports
    rcases supports_of_mem supports with ⟨other, there, offers⟩
    cases offers with
    | service offers =>
        have same := alone other there ((Instance.name_of_service offers).symm.trans named)
        rw [← same]
        exact offers
  constructor
  · rcases exists_of_mem_right containers.flip listed with ⟨container, there, made⟩
    exact ⟨container, there, (Instance.parts_of_container made).1⟩
  · intro container there named
    rcases exists_of_mem_right containers there with ⟨other, among, made⟩
    have same := alone other among ((Instance.parts_of_container made).1.symm.trans named)
    rw [← same]
    exact Instance.exposes_of_container made
  · constructor
    · rintro ⟨service, supports, named⟩
      exact Instance.isSome_service.mp (Option.isSome_iff_exists.mpr ⟨service, own supports named⟩)
    · intro ported
      rcases Option.isSome_iff_exists.mp (Instance.isSome_service.mpr ported) with ⟨service, offers⟩
      refine ⟨service, ?_, (Instance.parts_of_service offers).1⟩
      rw [supporting]
      exact mem_supporting listed (service_mem_memberResources offers)
  · exact fun service supports named => Instance.exposes_of_service sound (own supports named)

/-! ## Injections -/

/-- Whether a collector listens as it is configured to: its ports are those that its receivers listen on, once
each, over TCP and over UDP. -/
structure Instance.ListensFor (collector : Instance) (config : Observability) : Prop where
  tcp : collector.tcpPorts = (config.tcpReceivers.filter (· != 0)).eraseDups
  udp : collector.udpPorts = config.udpReceivers.filter (· != 0)
  configured : collector.args = ["--config", Observability.configPath]
  file : collector.files = [⟨Observability.configPath, 0,
    Text.Utf8.encode (config.collectorConfig.indented 0), false⟩]
  /-- Every endpoint in the section of the receivers is an address to listen on, and the ports among these are
  those of the collector. -/
  agreement : ∃ receivers, config.collectorConfig.member? "receivers" = some receivers ∧
    (∀ endpoint ∈ receivers.endpoints, ∃ port, endpoint = Observability.listenAddress port) ∧
    ∀ port, (port ∈ collector.tcpPorts ∨ port ∈ collector.udpPorts) ↔
      port ≠ 0 ∧ Observability.listenAddress port ∈ receivers.endpoints

theorem Attendant.args_collector {parent : Instance} {id : InstanceId} {clusterName image : String}
    {context : ContextId} :
    (collector.made parent id clusterName image context).args = ["--config", Observability.configPath] := by
  rw [made, fit, Action.collectorEdits, List.foldl_cons, foldl_change Instance.args]
  · rfl
  · intro edit listed workload
    rcases List.mem_append.mp listed with tcp | udp
    · rcases List.mem_map.mp tcp with ⟨port, _, rfl⟩
      rfl
    · rcases List.mem_map.mp udp with ⟨port, _, rfl⟩
      rfl

theorem Attendant.listensFor_collector {parent : Instance} {id : InstanceId} {clusterName image : String}
    {context : ContextId} :
    (collector.made parent id clusterName image context).ListensFor parent.observability := by
  have file : Attendant.Serves .collector parent.wishes (collector.made parent id clusterName image context) :=
    serves_made
  rcases ports_collector with ⟨tcp, udp⟩
  refine ⟨tcp, udp, args_collector, file, .record parent.observability.receivers, rfl, ?_, fun port => ?_⟩
  · intro endpoint listed
    rcases List.mem_map.mp (Observability.endpoints_receivers.mem_iff.mp listed) with ⟨port, _, rfl⟩
    exact ⟨port, rfl⟩
  · rw [tcp, udp, Observability.endpoints_receivers.mem_iff,
      List.mem_map_of_injective Observability.listenAddress_injective, List.mem_append, List.mem_eraseDups,
      List.mem_filter, List.mem_filter, bne_iff_ne, ← or_and_right, and_comm]

/-- When an attendant has been enlisted, nobody else has its cluster name. -/
theorem Registry.eq_nextId_of_enlist {before grown : Registry} {parent other : Instance} {id handle : InstanceId}
    {role : Attendant} {clusterName image : String} {context : ContextId} (found : before.get? id = some parent)
    (joined : before.add (role.made parent before.nextId clusterName image context) = .ok grown)
    (there : (grown.enlist role id before.nextId clusterName).get? handle = some other)
    (same : other.clusterName = clusterName) : handle = before.nextId := by
  have named : (role.made parent before.nextId clusterName image context).clusterName = clusterName :=
    congrArg (fun bonds : Bonds => bonds.links.clusterName) Attendant.bonds_made
  have free := hasClusterName_eq_false_iff.mp (add_eq_ok_iff.mp joined).1
  rw [named] at free
  by_contra apart
  by_cases leads : handle = id
  · subst leads
    rw [get?_enlist_self (found_add joined found) (ne_nextId found), Option.some.injEq] at there
    refine free handle parent found (Eq.trans ?_ same)
    rw [← there]
    cases role <;> rfl
  · rw [get?_enlist_of_ne leads, get?_add joined, if_neg apart] at there
    rcases Option.map_eq_some_iff.mp there with ⟨known, stood, rfl⟩
    exact free handle known stood same

/-- What the pod of a parent is compiled to exposes the ports of an attendant that has just been enlisted. -/
theorem Registry.exposes_of_enlist {before grown : Registry} {parent : Instance} {id : InstanceId} {role : Attendant}
    {clusterName image : String} {context : ContextId} {settings : Settings} {compiled : CompiledPod}
    (found : before.get? id = some parent)
    (joined : before.add (role.made parent before.nextId clusterName image context) = .ok grown)
    (sound : (role.made parent before.nextId clusterName image context).HasSoundDescription)
    (compiles : (grown.enlist role id before.nextId clusterName).CompilesTo settings id compiled) :
    compiled.Exposes { role.made parent before.nextId clusterName image context with parent := some id } := by
  have following := get?_enlist_nextId found joined
  have leading : (grown.enlist role id before.nextId clusterName).get? id = some (role.note before.nextId clusterName
      { parent with sidecars := parent.sidecars ++ [before.nextId] }) :=
    get?_enlist_self (found_add joined found) (ne_nextId found)
  have named : (role.made parent before.nextId clusterName image context).clusterName = clusterName :=
    congrArg (fun bonds : Bonds => bonds.links.clusterName) Attendant.bonds_made
  rcases compiles with ⟨host, given, led, made⟩
  rcases compile_eq_ok_iff.mp made with ⟨pod, assembled, unit, supporting⟩
  have whole : pod.compile = .ok compiled := Pod.compile_eq_ok_iff.mpr ⟨unit, supporting⟩
  refine Pod.exposes_of_compile whole ?_ { sound with } fun other among same => ?_
  · refine (mem_members_as_iff led assembled).mpr (Or.inr ⟨before.nextId, ?_, following⟩)
    rw [sidecarsOf_eq leading, Attendant.note_keeps.2.2.1]
    exact List.mem_append_right _ (List.mem_singleton.mpr rfl)
  · rcases (mem_members_as_iff led assembled).mp among with rfl | ⟨handle, _, there⟩
    · exact absurd (eq_nextId_of_enlist found joined led (same.trans named)) (ne_nextId found)
    · obtain rfl := eq_nextId_of_enlist found joined there (same.trans named)
      exact Option.some.inj (there.symm.trans following)

/-- After an injection that succeeds, the parent has a collector among its sidecars that listens as it is
configured to, and whatever the pod of the parent is compiled to exposes the ports of the collector. -/
theorem listening_of_injection {setup : Setup} {before after : Registry} {parent : Instance} {events : List Event}
    (found : before.get? parent.id = some parent)
    (course : Action.Course setup (Action.injectCollector parent) before events (.ok ()) after) :
    ∃ host collector, after.get? parent.id = some host ∧ after.get? before.nextId = some collector ∧
      host.collector = some before.nextId ∧ before.nextId ∈ host.sidecars ∧
      collector.ListensFor parent.observability ∧
      ∀ settings compiled, after.CompilesTo settings parent.id compiled → compiled.Exposes collector := by
  have injection : Action.Course setup (Action.inject .collector parent) before events (.ok ()) after := course
  have injects := Action.injects_of_course rfl rfl injection
  cases injects with
  | enlisted _ _ joined =>
      refine ⟨_, _, Registry.get?_enlist_self (Registry.found_add joined found) (Registry.ne_nextId found),
        Registry.get?_enlist_nextId found joined, rfl, List.mem_append_right _ (List.mem_singleton.mpr rfl),
        { Attendant.listensFor_collector with }, fun settings compiled compiles => ?_⟩
      exact Registry.exposes_of_enlist found joined Attendant.hasSoundDescription_collector compiles

/-- An instance that wants to be observed is described and committed.  Two of its receivers share a port. -/
def Call.observed : List Call :=
  [.create "main", .setImage ⟨0⟩ "busybox", .edit ⟨0⟩ (.setOtlpEndpoint 4318),
    .edit ⟨0⟩ (.setJaegerEndpoint ⟨14250, 6831, 4318⟩), .commit ⟨0⟩]

/-- The collector of that instance has each port once, and so does its service. -/
theorem listening_of_observed :
    let before := (trial .plain .agreeable Call.observed).2
    ∃ parent events after collector compiled service, before.get? ⟨0⟩ = some parent ∧
      Action.Course .plain (Action.injectCollector parent) before events (.ok ()) after ∧
      after.get? ⟨1⟩ = some collector ∧ collector.tcpPorts = [4318, 14250] ∧ collector.udpPorts = [6831] ∧
      after.CompilesTo Setup.plain.settings ⟨0⟩ compiled ∧ .service service ∈ compiled.supporting ∧
      service.metadata.name = collector.clusterName ∧ service.Exposes [4318, 14250] [6831] := by
  intro before
  have wished : (before.get? ⟨0⟩).map (fun parent => (parent.id, parent.observability.otlpPort,
      parent.observability.jaeger)) = some (⟨0⟩, some 4318, some ⟨14250, 6831, 4318⟩) := by decide +kernel
  have granted : (before.get? ⟨0⟩).any (fun parent =>
      let ended := (Action.injectCollector parent .plain before).follow .agreeable
      ended.2.1.isOk && (ended.2.2.get? ⟨0⟩).any fun host =>
        (ended.2.2.compile Setup.plain.settings host).isOk) = true := by decide +kernel
  rcases Option.map_eq_some_iff.mp wished with ⟨parent, found, wishes⟩
  simp only [Prod.mk.injEq] at wishes
  rcases wishes with ⟨named, otlp, jaeger⟩
  rw [found, Option.any_some, Bool.and_eq_true] at granted
  have taken := Program.course_follow .agreeable (Action.injectCollector parent .plain before)
  generalize (Action.injectCollector parent .plain before).follow .agreeable = ended at taken granted
  rcases ended with ⟨events, result, after⟩
  rcases granted with ⟨succeeded, compilable⟩
  cases result with
  | error error => cases succeeded
  | ok value =>
      have course : Action.Course .plain (Action.injectCollector parent) before events (.ok ()) after := taken
      rcases listening_of_injection (named.symm ▸ found) course with
        ⟨host, collector, led, there, _, _, listens, exposed⟩
      have next : before.nextId = ⟨1⟩ := by decide +kernel
      rw [named] at led
      rw [next] at there
      have tcp : collector.tcpPorts = [4318, 14250] := by
        rw [listens.tcp, Observability.tcpReceivers, otlp, jaeger]
        decide
      have udp : collector.udpPorts = [6831] := by
        rw [listens.udp, Observability.udpReceivers, jaeger]
        decide
      rw [led, Option.any_some] at compilable
      cases made : after.compile Setup.plain.settings host with
      | error error =>
          rw [made] at compilable
          cases compilable
      | ok compiled =>
          have compiles : after.CompilesTo Setup.plain.settings ⟨0⟩ compiled := ⟨host, host.image, led, made⟩
          have exposes := exposed _ compiled (named.symm ▸ compiles)
          have ported : collector.tcpPorts ≠ [] ∨ collector.udpPorts ≠ [] := by
            rw [tcp]
            exact Or.inl nofun
          rcases exposes.offered.mpr ported with ⟨service, supports, same⟩
          refine ⟨parent, events, after, collector, compiled, service, found, course, there, tcp, udp, compiles,
            supports, same, ?_⟩
          have offered := exposes.service service supports same
          rw [tcp, udp] at offered
          exact offered

end Testbed
