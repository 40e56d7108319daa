import Testbed.Api.Schema.Volume

namespace Testbed
namespace Schema

/-!
The shapes of containers: what they run, how they are probed, what they are allowed to do, and how commands in
them end.
-/

open Shape (optional)

/-- A key of an object with texts. -/
def keyReference (name : String) : Shape :=
  .record name (texts ["key", "name"] ++ flags ["optional"])

def environmentVariable : Shape :=
  .record "EnvVar"
    (texts ["name", "value"] ++
      [optional "valueFrom" (.record "EnvVarSource"
        [optional "configMapKeyRef" (keyReference "ConfigMapKeySelector"),
          optional "fieldRef" fieldReference, optional "resourceFieldRef" resourceReference,
          optional "secretKeyRef" (keyReference "SecretKeySelector")])])

def environmentSource : Shape :=
  .record "EnvFromSource"
    (texts ["prefix"] ++
      [optional "configMapRef" (.record "ConfigMapEnvSource" (texts ["name"] ++ flags ["optional"])),
        optional "secretRef" (.record "SecretEnvSource" (texts ["name"] ++ flags ["optional"]))])

/-- A command, a request or a connection. -/
def handlers : List Field :=
  [optional "exec" (.record "ExecAction" (textLists ["command"])),
    optional "httpGet" (.record "HTTPGetAction"
      (texts ["host", "path", "scheme"] ++
        [optional "httpHeaders" (.list (.record "HTTPHeader" (texts ["name", "value"]))),
          optional "port" .integerOrText])),
    optional "tcpSocket" (.record "TCPSocketAction"
      (texts ["host"] ++ [optional "port" .integerOrText]))]

def lifecycleHandler : Shape :=
  .record "LifecycleHandler"
    (handlers ++ [optional "sleep" (.record "SleepAction" (longIntegers ["seconds"]))])

def probe : Shape :=
  .record "Probe"
    (handlers ++
      integers ["failureThreshold", "initialDelaySeconds", "periodSeconds", "successThreshold",
        "timeoutSeconds"] ++
      longIntegers ["terminationGracePeriodSeconds"] ++
      [optional "grpc" (.record "GRPCAction" (integers ["port"] ++ texts ["service"]))])

def resourceRequirements : Shape :=
  .record "ResourceRequirements"
    [optional "claims" (.list (.record "ResourceClaim" (texts ["name", "request"]))),
      optional "limits" quantities, optional "requests" quantities]

/-- What both pods and containers are allowed to do. -/
def securityOptions : List Field :=
  [optional "appArmorProfile" (.record "AppArmorProfile" (texts ["localhostProfile", "type"])),
    optional "seLinuxOptions" (.record "SELinuxOptions" (texts ["level", "role", "type", "user"])),
    optional "seccompProfile" (.record "SeccompProfile" (texts ["localhostProfile", "type"])),
    optional "windowsOptions" (.record "WindowsSecurityContextOptions"
      (texts ["gmsaCredentialSpec", "gmsaCredentialSpecName", "runAsUserName"] ++
        flags ["hostProcess"]))] ++
    longIntegers ["runAsGroup", "runAsUser"] ++ flags ["runAsNonRoot"]

def securityContext : Shape :=
  .record "SecurityContext"
    (securityOptions ++
      flags ["allowPrivilegeEscalation", "privileged", "readOnlyRootFilesystem"] ++
      texts ["procMount"] ++
      [optional "capabilities" (.record "Capabilities" (textLists ["add", "drop"]))])

def containerPort : Shape :=
  .record "ContainerPort"
    (integers ["containerPort", "hostPort"] ++ texts ["hostIP", "name", "protocol"])

/-- The members of a container. -/
def containerFields : List Field :=
  texts ["image", "imagePullPolicy", "name", "restartPolicy", "terminationMessagePath",
      "terminationMessagePolicy", "workingDir"] ++
    textLists ["args", "command"] ++ flags ["stdin", "stdinOnce", "tty"] ++
    [optional "env" (.list environmentVariable), optional "envFrom" (.list environmentSource),
      optional "lifecycle" (.record "Lifecycle"
        [optional "postStart" lifecycleHandler, optional "preStop" lifecycleHandler]),
      optional "livenessProbe" probe, optional "ports" (.list containerPort),
      optional "readinessProbe" probe,
      optional "resizePolicy" (.list (.record "ContainerResizePolicy"
        (texts ["resourceName", "restartPolicy"]))),
      optional "resources" resourceRequirements, optional "securityContext" securityContext,
      optional "startupProbe" probe,
      optional "volumeDevices" (.list (.record "VolumeDevice" (texts ["devicePath", "name"]))),
      optional "volumeMounts" (.list (.record "VolumeMount"
        (texts ["mountPath", "mountPropagation", "name", "recursiveReadOnly", "subPath",
            "subPathExpr"] ++
          flags ["readOnly"])))]

def container : Shape :=
  .record "Container" containerFields

/-- A container that is added to a running pod. -/
def ephemeralContainer : Shape :=
  .record "EphemeralContainer" (containerFields ++ texts ["targetContainerName"])

/-- How a command in a container ended. -/
def commandStatus : Shape :=
  .record "Status"
    [optional "apiVersion" (.exactly "v1"), optional "kind" (.exactly "Status"),
      optional "metadata" listMetadata, optional "code" (.integer 32),
      optional "details" (.record "StatusDetails"
        [optional "causes" (.list (.record "StatusCause"
            [optional "field" .string, optional "message" .string, optional "reason" .string])),
          optional "group" .string, optional "kind" .string, optional "name" .string,
          optional "retryAfterSeconds" (.integer 32), optional "uid" .string]),
      optional "message" .string, optional "reason" .string, optional "status" .string]

end Schema
end Testbed
