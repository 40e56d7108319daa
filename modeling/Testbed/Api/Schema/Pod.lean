import Testbed.Api.Schema.Container

namespace Testbed
namespace Schema

/-!
The shapes of pods: what they consist of, where they may be placed, and what they report.
-/

open Shape (optional)

def nodeSelectorTerm : Shape :=
  let requirements : Shape :=
    .list (.record "NodeSelectorRequirement" (texts ["key", "operator"] ++ textLists ["values"]))
  .record "NodeSelectorTerm"
    [optional "matchExpressions" requirements, optional "matchFields" requirements]

def podAffinityTerm : Shape :=
  .record "PodAffinityTerm"
    ([optional "labelSelector" labelSelector, optional "namespaceSelector" labelSelector] ++
      textLists ["matchLabelKeys", "mismatchLabelKeys", "namespaces"] ++ texts ["topologyKey"])

/-- Pods to be near to, or far from. -/
def podAffinity (name : String) : Shape :=
  .record name
    [optional "preferredDuringSchedulingIgnoredDuringExecution"
        (.list (.record "WeightedPodAffinityTerm"
          (integers ["weight"] ++ [optional "podAffinityTerm" podAffinityTerm]))),
      optional "requiredDuringSchedulingIgnoredDuringExecution" (.list podAffinityTerm)]

/-- Where a pod should or has to be placed. -/
def affinity : Shape :=
  .record "Affinity"
    [optional "nodeAffinity" (.record "NodeAffinity"
        [optional "preferredDuringSchedulingIgnoredDuringExecution"
            (.list (.record "PreferredSchedulingTerm"
              (integers ["weight"] ++ [optional "preference" nodeSelectorTerm]))),
          optional "requiredDuringSchedulingIgnoredDuringExecution" (.record "NodeSelector"
            [optional "nodeSelectorTerms" (.list nodeSelectorTerm)])]),
      optional "podAffinity" (podAffinity "PodAffinity"),
      optional "podAntiAffinity" (podAffinity "PodAntiAffinity")]

def topologySpreadConstraint : Shape :=
  .record "TopologySpreadConstraint"
    (integers ["maxSkew", "minDomains"] ++ textLists ["matchLabelKeys"] ++
      texts ["nodeAffinityPolicy", "nodeTaintsPolicy", "topologyKey", "whenUnsatisfiable"] ++
      [optional "labelSelector" labelSelector])

def podSecurityContext : Shape :=
  .record "PodSecurityContext"
    (securityOptions ++ longIntegers ["fsGroup"] ++
      texts ["fsGroupChangePolicy", "seLinuxChangePolicy", "supplementalGroupsPolicy"] ++
      [optional "supplementalGroups" (.list (.integer 64)),
        optional "sysctls" (.list (.record "Sysctl" (texts ["name", "value"])))])

/-- What a pod is to be. -/
def podSpec : Shape :=
  .record "PodSpec"
    (texts ["dnsPolicy", "hostname", "nodeName", "preemptionPolicy", "priorityClassName",
        "restartPolicy", "runtimeClassName", "schedulerName", "serviceAccount",
        "serviceAccountName", "subdomain"] ++
      flags ["automountServiceAccountToken", "enableServiceLinks", "hostIPC", "hostNetwork",
        "hostPID", "hostUsers", "setHostnameAsFQDN", "shareProcessNamespace"] ++
      integers ["priority"] ++
      longIntegers ["activeDeadlineSeconds", "terminationGracePeriodSeconds"] ++
      [optional "affinity" affinity, optional "containers" (.list container),
        optional "dnsConfig" (.record "PodDNSConfig"
          (textLists ["nameservers", "searches"] ++
            [optional "options" (.list (.record "PodDNSConfigOption" (texts ["name", "value"])))])),
        optional "ephemeralContainers" (.list ephemeralContainer),
        optional "hostAliases" (.list (.record "HostAlias"
          (textLists ["hostnames"] ++ texts ["ip"]))),
        optional "imagePullSecrets" (.list localReference),
        optional "initContainers" (.list container), optional "nodeSelector" stringMap,
        optional "os" (.record "PodOS" (texts ["name"])), optional "overhead" quantities,
        optional "readinessGates" (.list (.record "PodReadinessGate" (texts ["conditionType"]))),
        optional "resourceClaims" (.list (.record "PodResourceClaim"
          (texts ["name", "resourceClaimName", "resourceClaimTemplateName"]))),
        optional "resources" resourceRequirements,
        optional "schedulingGates" (.list (.record "PodSchedulingGate" (texts ["name"]))),
        optional "securityContext" podSecurityContext,
        optional "tolerations" (.list (.record "Toleration"
          (texts ["effect", "key", "operator", "value"] ++ longIntegers ["tolerationSeconds"]))),
        optional "topologySpreadConstraints" (.list topologySpreadConstraint),
        optional "volumes" (.list volume)])

/-- How a container is doing. -/
def containerState : Shape :=
  .record "ContainerState"
    [optional "running" (.record "ContainerStateRunning" (instants ["startedAt"])),
      optional "terminated" (.record "ContainerStateTerminated"
        (texts ["containerID", "message", "reason"] ++ integers ["exitCode", "signal"] ++
          instants ["finishedAt", "startedAt"])),
      optional "waiting" (.record "ContainerStateWaiting" (texts ["message", "reason"]))]

/-- What is reported of a container. -/
def containerStatus : Shape :=
  .record "ContainerStatus"
    (texts ["containerID", "image", "imageID", "name"] ++ flags ["ready", "started"] ++
      integers ["restartCount"] ++
      [optional "allocatedResources" quantities,
        optional "allocatedResourcesStatus" (.list (.record "ResourceStatus"
          (texts ["name"] ++
            [optional "resources" (.list (.record "ResourceHealth"
              (texts ["health", "resourceID"])))]))),
        optional "lastState" containerState, optional "resources" resourceRequirements,
        optional "state" containerState,
        optional "user" (.record "ContainerUser"
          [optional "linux" (.record "LinuxContainerUser"
            (longIntegers ["gid", "uid"] ++
              [optional "supplementalGroups" (.list (.integer 64))]))]),
        optional "volumeMounts" (.list (.record "VolumeMountStatus"
          (texts ["mountPath", "name", "recursiveReadOnly"] ++ flags ["readOnly"])))])

/-- What is reported of a pod. -/
def podStatus : Shape :=
  let addresses (name : String) : Shape := .list (.record name (texts ["ip"]))
  .record "PodStatus"
    (texts ["hostIP", "message", "nominatedNodeName", "phase", "podIP", "qosClass", "reason",
        "resize"] ++
      instants ["startTime"] ++
      [optional "conditions" (.list (condition "PodCondition" (instants ["lastProbeTime"]))),
        optional "containerStatuses" (.list containerStatus),
        optional "ephemeralContainerStatuses" (.list containerStatus),
        optional "hostIPs" (addresses "HostIP"),
        optional "initContainerStatuses" (.list containerStatus),
        optional "podIPs" (addresses "PodIP"),
        optional "resourceClaimStatuses" (.list (.record "PodResourceClaimStatus"
          (texts ["name", "resourceClaimName"])))])

/-- A pod as it is stored. -/
def pod : Shape :=
  object "v1" "Pod" [optional "spec" podSpec, optional "status" podStatus]

/-- A replica set as it is stored. -/
def replicaSet : Shape :=
  object "apps/v1" "ReplicaSet"
    [optional "spec" (.record "ReplicaSetSpec"
        (integers ["minReadySeconds", "replicas"] ++
          [optional "selector" labelSelector,
            optional "template" (.record "PodTemplateSpec"
              [optional "metadata" objectMetadata, optional "spec" podSpec])])),
      optional "status" (.record "ReplicaSetStatus"
        (integers ["availableReplicas", "fullyLabeledReplicas", "readyReplicas", "replicas"] ++
          longIntegers ["observedGeneration"] ++
          [optional "conditions" (.list (condition "ReplicaSetCondition" []))]))]

end Schema
end Testbed
