import Testbed.Api.Schema.Basic

namespace Testbed
namespace Schema

/-!
The shapes of services.
-/

open Shape (optional)

def servicePort : Shape :=
  .record "ServicePort"
    (texts ["appProtocol", "name", "protocol"] ++ integers ["nodePort", "port"] ++
      [optional "targetPort" .integerOrText])

/-- What a service is to be. -/
def serviceSpec : Shape :=
  .record "ServiceSpec"
    (texts ["clusterIP", "externalName", "externalTrafficPolicy", "internalTrafficPolicy",
        "ipFamilyPolicy", "loadBalancerClass", "loadBalancerIP", "sessionAffinity",
        "trafficDistribution", "type"] ++
      textLists ["clusterIPs", "externalIPs", "ipFamilies", "loadBalancerSourceRanges"] ++
      flags ["allocateLoadBalancerNodePorts", "publishNotReadyAddresses"] ++
      integers ["healthCheckNodePort"] ++
      [optional "ports" (.list servicePort), optional "selector" stringMap,
        optional "sessionAffinityConfig" (.record "SessionAffinityConfig"
          [optional "clientIP" (.record "ClientIPConfig" (integers ["timeoutSeconds"]))])])

/-- What is reported of a service. -/
def serviceStatus : Shape :=
  .record "ServiceStatus"
    [optional "conditions" (.list (condition "Condition" (longIntegers ["observedGeneration"]))),
      optional "loadBalancer" (.record "LoadBalancerStatus"
        [optional "ingress" (.list (.record "LoadBalancerIngress"
          (texts ["hostname", "ip", "ipMode"] ++
            [optional "ports" (.list (.record "PortStatus"
              (texts ["error", "protocol"] ++ integers ["port"])))])))])]

/-- A service as it is stored. -/
def service : Shape :=
  object "v1" "Service" [optional "spec" serviceSpec, optional "status" serviceStatus]

end Schema
end Testbed
