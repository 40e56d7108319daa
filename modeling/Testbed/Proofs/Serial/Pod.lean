import Testbed.Proofs.Serial.Basic
import Testbed.Resource.Workload

namespace Testbed
namespace Json

/-!
# Serial forms of pods

A compute unit is the deepest of all resources: its template has containers, which have probes, mounts and
privileges.  Each record is read back because its fields are, from the innermost outwards.
-/

variable {present : Json → Json}

theorem inverts_metadata (arranges : Rearranges present) :
    Inverts present Metadata.toJson Metadata.ofJson := by
  refine inverts_record arranges (fun _ => rfl) (by decide) fun value => ?_
  simp only [List.map_cons, List.map_nil, (inverts_string arranges).required,
    Inverts.defaulted_map arranges, Option.bind_eq_bind, Option.bind_some]
  rfl

/-! ## Probes -/

theorem inverts_httpGet (arranges : Rearranges present) :
    Inverts present HttpGet.toJson HttpGet.ofJson := by
  refine inverts_record arranges (fun _ => rfl) (by decide) fun value => ?_
  simp only [List.map_cons, List.map_nil, (inverts_string arranges).required,
    (inverts_port arranges).required, Option.bind_eq_bind, Option.bind_some]
  rfl

theorem inverts_tcpSocket (arranges : Rearranges present) :
    Inverts present TcpSocket.toJson TcpSocket.ofJson := by
  refine inverts_record arranges (fun _ => rfl) (by decide) fun value => ?_
  simp only [List.map_cons, List.map_nil, (inverts_port arranges).required, Option.bind_eq_bind,
    Option.bind_some]
  rfl

theorem inverts_command (arranges : Rearranges present) :
    Inverts present Command.toJson Command.ofJson := by
  refine inverts_record arranges (fun _ => rfl) (by decide) fun value => ?_
  simp only [List.map_cons, List.map_nil, (inverts_strings arranges).required, Option.bind_eq_bind,
    Option.bind_some]
  rfl

theorem inverts_probe (arranges : Rearranges present) :
    Inverts present Probe.toJson Probe.ofJson := by
  refine inverts_record arranges (fun _ => rfl) (by decide) fun value => ?_
  simp only [List.map_cons, List.map_nil, (inverts_httpGet arranges).optional,
    (inverts_tcpSocket arranges).optional, (inverts_command arranges).optional,
    (inverts_int32 arranges).optional, Option.bind_eq_bind, Option.bind_some]
  rfl

/-! ## Volumes -/

theorem inverts_configMapSource (arranges : Rearranges present) :
    Inverts present ConfigMapSource.toJson ConfigMapSource.ofJson := by
  refine inverts_record arranges (fun _ => rfl) (by decide) fun value => ?_
  simp only [List.map_cons, List.map_nil, (inverts_string arranges).required,
    (inverts_int32 arranges).optional, Option.bind_eq_bind, Option.bind_some]
  rfl

theorem inverts_claimSource (arranges : Rearranges present) :
    Inverts present ClaimSource.toJson ClaimSource.ofJson := by
  refine inverts_record arranges (fun _ => rfl) (by decide) fun value => ?_
  simp only [List.map_cons, List.map_nil, (inverts_string arranges).required, Option.bind_eq_bind,
    Option.bind_some]
  rfl

theorem inverts_volume (arranges : Rearranges present) :
    Inverts present Volume.toJson Volume.ofJson := by
  refine inverts_record arranges (fun _ => rfl) (by decide) fun value => ?_
  simp only [List.map_cons, List.map_nil, (inverts_string arranges).required,
    (inverts_configMapSource arranges).optional, (inverts_claimSource arranges).optional,
    Option.bind_eq_bind, Option.bind_some]
  rfl

theorem inverts_volumeMount (arranges : Rearranges present) :
    Inverts present VolumeMount.toJson VolumeMount.ofJson := by
  refine inverts_record arranges (fun _ => rfl) (by decide) fun value => ?_
  simp only [List.map_cons, List.map_nil, (inverts_string arranges).required,
    (inverts_string arranges).optional, Option.bind_eq_bind, Option.bind_some]
  rfl

/-! ## Containers -/

theorem inverts_envVar (arranges : Rearranges present) :
    Inverts present EnvVar.toJson EnvVar.ofJson := by
  refine inverts_record arranges (fun _ => rfl) (by decide) fun value => ?_
  simp only [List.map_cons, List.map_nil, (inverts_string arranges).required, Option.bind_eq_bind,
    Option.bind_some]
  rfl

theorem inverts_containerPort (arranges : Rearranges present) :
    Inverts present ContainerPort.toJson ContainerPort.ofJson := by
  refine inverts_record arranges (fun _ => rfl) (by decide) fun value => ?_
  simp only [List.map_cons, List.map_nil, Inverts.defaulted_text arranges,
    (inverts_port arranges).required, (inverts_string arranges).required, Option.bind_eq_bind,
    Option.bind_some]
  rfl

theorem inverts_resourceRequirements (arranges : Rearranges present) :
    Inverts present ResourceRequirements.toJson ResourceRequirements.ofJson := by
  refine inverts_record arranges (fun _ => rfl) (by decide) fun value => ?_
  simp only [List.map_cons, List.map_nil, Inverts.defaulted_map arranges, Option.bind_eq_bind,
    Option.bind_some]
  rfl

theorem inverts_capabilities (arranges : Rearranges present) :
    Inverts present Capabilities.toJson Capabilities.ofJson := by
  refine inverts_record arranges (fun _ => rfl) (by decide) fun value => ?_
  simp only [List.map_cons, List.map_nil, (inverts_strings arranges).defaulted_list,
    Option.bind_eq_bind, Option.bind_some]
  rfl

theorem inverts_securityContext (arranges : Rearranges present) :
    Inverts present SecurityContext.toJson SecurityContext.ofJson := by
  refine inverts_record arranges (fun _ => rfl) (by decide) fun value => ?_
  simp only [List.map_cons, List.map_nil, (inverts_bool arranges).optional,
    (inverts_capabilities arranges).optional, Option.bind_eq_bind, Option.bind_some]
  rfl

theorem inverts_container (arranges : Rearranges present) :
    Inverts present Container.toJson Container.ofJson := by
  refine inverts_record arranges (fun _ => rfl) (by decide) fun value => ?_
  simp only [List.map_cons, List.map_nil, (inverts_string arranges).required,
    (inverts_string arranges).optional, (inverts_strings arranges).defaulted_list,
    (inverts_list arranges (inverts_envVar arranges)).defaulted_list,
    (inverts_list arranges (inverts_containerPort arranges)).defaulted_list,
    (inverts_resourceRequirements arranges).optional, (inverts_probe arranges).optional,
    (inverts_list arranges (inverts_volumeMount arranges)).defaulted_list,
    (inverts_securityContext arranges).optional, Option.bind_eq_bind, Option.bind_some]
  rfl

/-! ## Pods -/

theorem inverts_podSecurityContext (arranges : Rearranges present) :
    Inverts present PodSecurityContext.toJson PodSecurityContext.ofJson := by
  refine inverts_record arranges (fun _ => rfl) (by decide) fun value => ?_
  simp only [List.map_cons, List.map_nil, (inverts_int64 arranges).optional, Option.bind_eq_bind,
    Option.bind_some]
  rfl

theorem inverts_podSpec (arranges : Rearranges present) :
    Inverts present PodSpec.toJson PodSpec.ofJson := by
  refine inverts_record arranges (fun _ => rfl) (by decide) fun value => ?_
  simp only [List.map_cons, List.map_nil, (inverts_string arranges).optional,
    (inverts_list arranges (inverts_container arranges)).required,
    (inverts_list arranges (inverts_container arranges)).defaulted_list,
    (inverts_list arranges (inverts_volume arranges)).defaulted_list,
    (inverts_podSecurityContext arranges).optional, Option.bind_eq_bind, Option.bind_some]
  rfl

theorem inverts_podMetadata (arranges : Rearranges present) :
    Inverts present PodMetadata.toJson PodMetadata.ofJson := by
  refine inverts_record arranges (fun _ => rfl) (by decide) fun value => ?_
  simp only [List.map_cons, List.map_nil, (inverts_map arranges).required, Option.bind_eq_bind,
    Option.bind_some]
  rfl

theorem inverts_podTemplate (arranges : Rearranges present) :
    Inverts present PodTemplate.toJson PodTemplate.ofJson := by
  refine inverts_record arranges (fun _ => rfl) (by decide) fun value => ?_
  simp only [List.map_cons, List.map_nil, (inverts_podMetadata arranges).required,
    (inverts_podSpec arranges).required, Option.bind_eq_bind, Option.bind_some]
  rfl

theorem inverts_labelSelector (arranges : Rearranges present) :
    Inverts present LabelSelector.toJson LabelSelector.ofJson := by
  refine inverts_record arranges (fun _ => rfl) (by decide) fun value => ?_
  simp only [List.map_cons, List.map_nil, Inverts.defaulted_map arranges, Option.bind_eq_bind,
    Option.bind_some]
  rfl

theorem inverts_replicaSetSpec (arranges : Rearranges present) :
    Inverts present ReplicaSet.Spec.toJson ReplicaSet.Spec.ofJson := by
  refine inverts_record arranges (fun _ => rfl) (by decide) fun value => ?_
  simp only [List.map_cons, List.map_nil, (inverts_count arranges).required,
    (inverts_labelSelector arranges).required, (inverts_podTemplate arranges).required,
    Option.bind_eq_bind, Option.bind_some]
  rfl

theorem inverts_replicaSet (arranges : Rearranges present) :
    Inverts present ReplicaSet.toJson ReplicaSet.ofJson := by
  refine inverts_record arranges (fun _ => rfl) (by decide) fun value => ?_
  simp only [List.map_cons, List.map_nil, (inverts_string arranges).required,
    (inverts_metadata arranges).required, (inverts_replicaSetSpec arranges).required,
    Option.bind_eq_bind, Option.bind_some]
  rfl

end Json
end Testbed
