import BuildScheduler.Kubernetes.Schema

/-!
# The schemas of pods

Containers, pods and what belongs to them, version 1 of the API. The schema of containers is
complete. That of pods is not: members that it leaves out are skipped, whatever they are.
-/

namespace BuildScheduler.Kubernetes.Schema

def strings : Schema := .list .string

def stringMap : Schema := .map .string

/-! Containers -/

def execAction : Schema := .object "ExecAction" [opt "command" strings]

def httpHeader : Schema := .object "HTTPHeader" [req "name" .string, req "value" .string]

def httpGetAction : Schema := .object "HTTPGetAction" [
  opt "host" .string, opt "httpHeaders" (.list httpHeader), opt "path" .string,
  req "port" .intOrString, opt "scheme" .string]

def tcpSocketAction : Schema := .object "TCPSocketAction" [
  opt "host" .string, req "port" .intOrString]

def grpcAction : Schema := .object "GRPCAction" [req "port" .int32, opt "service" .string]

def sleepAction : Schema := .object "SleepAction" [req "seconds" .int64]

def probe : Schema := .object "Probe" [
  opt "exec" execAction, opt "failureThreshold" .int32, opt "grpc" grpcAction,
  opt "httpGet" httpGetAction, opt "initialDelaySeconds" .int32, opt "periodSeconds" .int32,
  opt "successThreshold" .int32, opt "tcpSocket" tcpSocketAction,
  opt "terminationGracePeriodSeconds" .int64, opt "timeoutSeconds" .int32]

def lifecycleHandler : Schema := .object "LifecycleHandler" [
  opt "exec" execAction, opt "httpGet" httpGetAction, opt "sleep" sleepAction,
  opt "tcpSocket" tcpSocketAction]

def lifecycle : Schema := .object "Lifecycle" [
  opt "postStart" lifecycleHandler, opt "preStop" lifecycleHandler]

/-- A reference to one key of a named object. -/
def keySelector (title : String) : Schema := .object title [
  req "key" .string, req "name" .string, opt "optional" .bool]

def fieldSelector : Schema := .object "ObjectFieldSelector" [
  opt "apiVersion" .string, req "fieldPath" .string]

def resourceFieldSelector : Schema := .object "ResourceFieldSelector" [
  opt "containerName" .string, opt "divisor" .string, req "resource" .string]

def envVarSource : Schema := .object "EnvVarSource" [
  opt "configMapKeyRef" (keySelector "ConfigMapKeySelector"), opt "fieldRef" fieldSelector,
  opt "resourceFieldRef" resourceFieldSelector, opt "secretKeyRef" (keySelector "SecretKeySelector")]

def envVar : Schema := .object "EnvVar" [
  req "name" .string, opt "value" .string, opt "valueFrom" envVarSource]

/-- A reference to a whole named object. -/
def envSource (title : String) : Schema := .object title [req "name" .string, opt "optional" .bool]

def envFromSource : Schema := .object "EnvFromSource" [
  opt "configMapRef" (envSource "ConfigMapEnvSource"), opt "prefix" .string,
  opt "secretRef" (envSource "SecretEnvSource")]

def containerPort : Schema := .object "ContainerPort" [
  req "containerPort" .int32, opt "hostIP" .string, opt "hostPort" .int32, opt "name" .string,
  opt "protocol" .string]

def resourceClaim : Schema := .object "ResourceClaim" [req "name" .string, opt "request" .string]

def resourceRequirements : Schema := .object "ResourceRequirements" [
  opt "claims" (.list resourceClaim), opt "limits" stringMap, opt "requests" stringMap]

def resizePolicy : Schema := .object "ContainerResizePolicy" [
  req "resourceName" .string, req "restartPolicy" .string]

def volumeMount : Schema := .object "VolumeMount" [
  req "mountPath" .string, opt "mountPropagation" .string, req "name" .string,
  opt "readOnly" .bool, opt "recursiveReadOnly" .string, opt "subPath" .string,
  opt "subPathExpr" .string]

def volumeDevice : Schema := .object "VolumeDevice" [req "devicePath" .string, req "name" .string]

def capabilities : Schema := .object "Capabilities" [opt "add" strings, opt "drop" strings]

/-- A profile given by its type and a local path. -/
def securityProfile (title : String) : Schema := .object title [
  opt "localhostProfile" .string, req "type" .string]

def seLinuxOptions : Schema := .object "SELinuxOptions" [
  opt "level" .string, opt "role" .string, opt "type" .string, opt "user" .string]

def windowsOptions : Schema := .object "WindowsSecurityContextOptions" [
  opt "gmsaCredentialSpec" .string, opt "gmsaCredentialSpecName" .string, opt "hostProcess" .bool,
  opt "runAsUserName" .string]

def securityContext : Schema := .object "SecurityContext" [
  opt "allowPrivilegeEscalation" .bool, opt "appArmorProfile" (securityProfile "AppArmorProfile"),
  opt "capabilities" capabilities, opt "privileged" .bool, opt "procMount" .string,
  opt "readOnlyRootFilesystem" .bool, opt "runAsGroup" .int64, opt "runAsNonRoot" .bool,
  opt "runAsUser" .int64, opt "seLinuxOptions" seLinuxOptions,
  opt "seccompProfile" (securityProfile "SeccompProfile"), opt "windowsOptions" windowsOptions]

def container : Schema := .object "Container" [
  opt "args" strings, opt "command" strings, opt "env" (.list envVar),
  opt "envFrom" (.list envFromSource), opt "image" .string, opt "imagePullPolicy" .string,
  opt "lifecycle" lifecycle, opt "livenessProbe" probe, req "name" .string,
  opt "ports" (.list containerPort), opt "readinessProbe" probe,
  opt "resizePolicy" (.list resizePolicy), opt "resources" resourceRequirements,
  opt "restartPolicy" .string, opt "securityContext" securityContext, opt "startupProbe" probe,
  opt "stdin" .bool, opt "stdinOnce" .bool, opt "terminationMessagePath" .string,
  opt "terminationMessagePolicy" .string, opt "tty" .bool, opt "volumeDevices" (.list volumeDevice),
  opt "volumeMounts" (.list volumeMount), opt "workingDir" .string]

/-! Pods -/

def ownerReference : Schema := .object "OwnerReference" [
  req "apiVersion" .string, opt "blockOwnerDeletion" .bool, opt "controller" .bool,
  req "kind" .string, req "name" .string, req "uid" .string]

def managedFields : Schema := .object "ManagedFieldsEntry" [
  opt "apiVersion" .string, opt "fieldsType" .string, opt "manager" .string,
  opt "operation" .string, opt "subresource" .string, opt "time" .time]

def objectMeta : Schema := .object "ObjectMeta" [
  opt "annotations" stringMap, opt "creationTimestamp" .time,
  opt "deletionGracePeriodSeconds" .int64, opt "deletionTimestamp" .time,
  opt "finalizers" strings, opt "generateName" .string, opt "generation" .int64,
  opt "labels" stringMap, opt "managedFields" (.list managedFields), opt "name" .string,
  opt "namespace" .string, opt "ownerReferences" (.list ownerReference),
  opt "resourceVersion" .string, opt "selfLink" .string, opt "uid" .string]

def gitRepoVolume : Schema := .object "GitRepoVolumeSource" [
  opt "directory" .string, req "repository" .string, opt "revision" .string]

def keyToPath : Schema := .object "KeyToPath" [
  req "key" .string, opt "mode" .int32, req "path" .string]

def secretVolume : Schema := .object "SecretVolumeSource" [
  opt "defaultMode" .int32, opt "items" (.list keyToPath), opt "optional" .bool,
  opt "secretName" .string]

def configMapVolume : Schema := .object "ConfigMapVolumeSource" [
  opt "defaultMode" .int32, opt "items" (.list keyToPath), req "name" .string, opt "optional" .bool]

def emptyDirVolume : Schema := .object "EmptyDirVolumeSource" [
  opt "medium" .string, opt "sizeLimit" .string]

def hostPathVolume : Schema := .object "HostPathVolumeSource" [req "path" .string, opt "type" .string]

def claimVolume : Schema := .object "PersistentVolumeClaimVolumeSource" [
  req "claimName" .string, opt "readOnly" .bool]

def volume : Schema := .object "Volume" [
  opt "configMap" configMapVolume, opt "emptyDir" emptyDirVolume, opt "gitRepo" gitRepoVolume,
  opt "hostPath" hostPathVolume, req "name" .string, opt "persistentVolumeClaim" claimVolume,
  opt "secret" secretVolume]

def localReference : Schema := .object "LocalObjectReference" [req "name" .string]

def toleration : Schema := .object "Toleration" [
  opt "effect" .string, opt "key" .string, opt "operator" .string, opt "tolerationSeconds" .int64,
  opt "value" .string]

def podSpec : Schema := .object "PodSpec" [
  opt "activeDeadlineSeconds" .int64, opt "automountServiceAccountToken" .bool,
  req "containers" (.list container), opt "dnsPolicy" .string, opt "enableServiceLinks" .bool,
  opt "hostIPC" .bool, opt "hostNetwork" .bool, opt "hostPID" .bool, opt "hostUsers" .bool,
  opt "hostname" .string, opt "imagePullSecrets" (.list localReference),
  opt "initContainers" (.list container), opt "nodeName" .string, opt "nodeSelector" stringMap,
  opt "overhead" stringMap, opt "preemptionPolicy" .string, opt "priority" .int32,
  opt "priorityClassName" .string, opt "restartPolicy" .string, opt "runtimeClassName" .string,
  opt "schedulerName" .string, opt "serviceAccount" .string, opt "serviceAccountName" .string,
  opt "setHostnameAsFQDN" .bool, opt "shareProcessNamespace" .bool, opt "subdomain" .string,
  opt "terminationGracePeriodSeconds" .int64, opt "tolerations" (.list toleration),
  opt "volumes" (.list volume)]

def stateRunning : Schema := .object "ContainerStateRunning" [opt "startedAt" .time]

def stateTerminated : Schema := .object "ContainerStateTerminated" [
  opt "containerID" .string, req "exitCode" .int32, opt "finishedAt" .time, opt "message" .string,
  opt "reason" .string, opt "signal" .int32, opt "startedAt" .time]

def stateWaiting : Schema := .object "ContainerStateWaiting" [
  opt "message" .string, opt "reason" .string]

def containerState : Schema := .object "ContainerState" [
  opt "running" stateRunning, opt "terminated" stateTerminated, opt "waiting" stateWaiting]

def volumeMountStatus : Schema := .object "VolumeMountStatus" [
  req "mountPath" .string, req "name" .string, opt "readOnly" .bool, opt "recursiveReadOnly" .string]

def containerStatus : Schema := .object "ContainerStatus" [
  opt "allocatedResources" stringMap, opt "containerID" .string, req "image" .string,
  req "imageID" .string, opt "lastState" containerState, req "name" .string, req "ready" .bool,
  opt "resources" resourceRequirements, req "restartCount" .int32, opt "started" .bool,
  opt "state" containerState, opt "volumeMounts" (.list volumeMountStatus)]

def podCondition : Schema := .object "PodCondition" [
  opt "lastProbeTime" .time, opt "lastTransitionTime" .time, opt "message" .string,
  opt "reason" .string, req "status" .string, req "type" .string]

def hostIp : Schema := .object "HostIP" [req "ip" .string]

def podIp : Schema := .object "PodIP" [req "ip" .string]

def podStatus : Schema := .object "PodStatus" [
  opt "conditions" (.list podCondition), opt "containerStatuses" (.list containerStatus),
  opt "ephemeralContainerStatuses" (.list containerStatus), opt "hostIP" .string,
  opt "hostIPs" (.list hostIp), opt "initContainerStatuses" (.list containerStatus),
  opt "message" .string, opt "nominatedNodeName" .string, opt "phase" .string, opt "podIP" .string,
  opt "podIPs" (.list podIp), opt "qosClass" .string, opt "reason" .string, opt "resize" .string,
  opt "startTime" .time]

def pod : Schema := .object "Pod" [
  req "apiVersion" (.constant "v1"), req "kind" (.constant "Pod"), req "metadata" objectMeta,
  opt "spec" podSpec, opt "status" podStatus]

end BuildScheduler.Kubernetes.Schema
