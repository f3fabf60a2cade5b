import SandboxPods.Pod.Basic
import SandboxPods.Json.Record

/-!
# Pods on the wire

The JSON form of pods and nodes. Fields that a reader supplies by default are
left out when they hold the default, apart from the few that are always written;
reading what was written gives the same object back.
-/
namespace SandboxPods
open Json

def Quantity.toJson (q : Quantity) : Value := .string q.text

def Quantity.ofJson? (v : Value) : Option Quantity := (Json.text v).map Quantity.mk

namespace ObjectMeta

def toJson (m : ObjectMeta) : Value := .object (
  ("name", .string m.name) ::
  textMember "namespace" m.podNamespace ++
  tableMember "labels" .string m.labels)

def ofJson? (v : Value) : Option ObjectMeta := do
  let f ← fields ["name", "namespace", "labels"] v
  return {
    name := ← f.withDefault "name" "" text
    podNamespace := ← f.withDefault "namespace" "" text
    labels := ← f.withDefault "labels" {} (tableOf text) }

end ObjectMeta

def portNumber (n : UInt16) : Value := .int n.toNat

namespace ContainerPort

def toJson (p : ContainerPort) : Value := .object (
  ("containerPort", portNumber p.containerPort) ::
  optionalMember "hostPort" portNumber p.hostPort ++
  [("protocol", .string p.protocol)])

def ofJson? (v : Value) : Option ContainerPort := do
  let f ← fields ["containerPort", "hostPort", "protocol"] v
  return {
    containerPort := ← f.required "containerPort" port
    hostPort := ← f.optional "hostPort" port
    protocol := ← f.withDefault "protocol" "TCP" text }

end ContainerPort

namespace ResourceRequirements

def toJson (r : ResourceRequirements) : Value := .object (
  tableMember "requests" Quantity.toJson r.requests ++
  tableMember "limits" Quantity.toJson r.limits)

def ofJson? (v : Value) : Option ResourceRequirements := do
  let f ← fields ["requests", "limits"] v
  return {
    requests := ← f.withDefault "requests" {} (tableOf Quantity.ofJson?)
    limits := ← f.withDefault "limits" {} (tableOf Quantity.ofJson?) }

end ResourceRequirements

namespace VolumeMount

def toJson (m : VolumeMount) : Value := .object (
  ("name", .string m.name) ::
  ("mountPath", .string m.mountPath) ::
  (if m.readOnly then [("readOnly", .bool true)] else []))

def ofJson? (v : Value) : Option VolumeMount := do
  let f ← fields ["name", "mountPath", "readOnly"] v
  return {
    name := ← f.required "name" text
    mountPath := ← f.required "mountPath" text
    readOnly := ← f.withDefault "readOnly" false boolean }

end VolumeMount

namespace PodContainer

def toJson (c : PodContainer) : Value := .object (
  ("name", .string c.name) ::
  ("image", .string c.image) ::
  optionalMember "imagePullPolicy" .string c.imagePullPolicy ++
  listMember "command" .string c.command ++
  listMember "ports" ContainerPort.toJson c.ports ++
  listMember "volumeMounts" VolumeMount.toJson c.volumeMounts ++
  (if c.resources.isEmpty then [] else [("resources", c.resources.toJson)]))

def fieldNames : List String :=
  ["name", "image", "imagePullPolicy", "command", "ports", "volumeMounts", "resources"]

def ofJson? (v : Value) : Option PodContainer := do
  let f ← fields fieldNames v
  return {
    name := ← f.required "name" text
    image := ← f.withDefault "image" "" text
    imagePullPolicy := ← f.optional "imagePullPolicy" text
    command := ← f.withDefault "command" [] (listOf text)
    ports := ← f.withDefault "ports" [] (listOf ContainerPort.ofJson?)
    volumeMounts := ← f.withDefault "volumeMounts" [] (listOf VolumeMount.ofJson?)
    resources := ← f.withDefault "resources" {} ResourceRequirements.ofJson? }

end PodContainer

namespace Volume

/-- A source with a single text field. -/
def sourceToJson (name value : String) : Value := .object [(name, .string value)]

def sourceOfJson? (name : String) (v : Value) : Option String :=
  (fields [name] v).bind (fun f => f.required name text)

def toJson (v : Volume) : Value := .object (
  ("name", .string v.name) ::
  (if v.emptyDir then [("emptyDir", .object [])] else []) ++
  optionalMember "hostPath" (sourceToJson "path") v.hostPath ++
  optionalMember "configMap" (sourceToJson "name") v.configMap)

def ofJson? (v : Value) : Option Volume := do
  let f ← fields ["name", "emptyDir", "hostPath", "configMap"] v
  let emptyDir ← f.optional "emptyDir" (fields [])
  return {
    name := ← f.required "name" text
    emptyDir := emptyDir.isSome
    hostPath := ← f.optional "hostPath" (sourceOfJson? "path")
    configMap := ← f.optional "configMap" (sourceOfJson? "name") }

end Volume

namespace PodSpec

def long (n : Int64) : Value := .int n.toInt

def readLong (v : Value) : Option Int64 :=
  (integer (-9223372036854775808) 9223372036854775807 v).map Int64.ofInt

def toJson (s : PodSpec) : Value := .object (
  optionalMember "automountServiceAccountToken" .bool s.automountServiceAccountToken ++
  optionalMember "enableServiceLinks" .bool s.enableServiceLinks ++
  optionalMember "nodeName" .string s.nodeName ++
  optionalMember "terminationGracePeriodSeconds" long s.terminationGracePeriodSeconds ++
  optionalMember "hostUsers" .bool s.hostUsers ++
  optionalMember "restartPolicy" .string s.restartPolicy ++
  optionalMember "resources" ResourceRequirements.toJson s.resources ++
  listMember "volumes" Volume.toJson s.volumes ++
  [("containers", .array (s.containers.map PodContainer.toJson))])

def fieldNames : List String :=
  ["automountServiceAccountToken", "enableServiceLinks", "nodeName",
    "terminationGracePeriodSeconds", "hostUsers", "restartPolicy", "resources", "volumes",
    "containers"]

def ofJson? (v : Value) : Option PodSpec := do
  let f ← fields fieldNames v
  return {
    automountServiceAccountToken := ← f.optional "automountServiceAccountToken" boolean
    enableServiceLinks := ← f.optional "enableServiceLinks" boolean
    nodeName := ← f.optional "nodeName" text
    terminationGracePeriodSeconds := ← f.optional "terminationGracePeriodSeconds" readLong
    hostUsers := ← f.optional "hostUsers" boolean
    restartPolicy := ← f.optional "restartPolicy" text
    resources := ← f.optional "resources" ResourceRequirements.ofJson?
    volumes := ← f.withDefault "volumes" [] (listOf Volume.ofJson?)
    containers := ← f.withDefault "containers" [] (listOf PodContainer.ofJson?) }

end PodSpec

namespace PodPhase

def name : PodPhase → String
  | .pending => "Pending"
  | .running => "Running"
  | .succeeded => "Succeeded"
  | .failed => "Failed"
  | .unknown => "Unknown"

def ofName? (s : String) : Option PodPhase :=
  [.pending, .running, .succeeded, .failed, .unknown].find? (fun p => p.name == s)

/-- A phase is its name, or an object with the name as its only key and null under it. -/
def ofJson? : Value → Option PodPhase
  | .string s => ofName? s
  | .object [(s, .null)] => ofName? s
  | _ => none

end PodPhase

namespace ContainerStatus

def toJson (s : ContainerStatus) : Value := .object (
  ("name", .string s.name) :: optionalMember "containerID" .string s.containerId)

def ofJson? (v : Value) : Option ContainerStatus := do
  let f ← fields ["name", "containerID"] v
  return {
    name := ← f.required "name" text
    containerId := ← f.optional "containerID" text }

end ContainerStatus

namespace PodStatus

def toJson (s : PodStatus) : Value := .object (
  optionalMember "phase" (fun p => .string p.name) s.phase ++
  textMember "hostIP" s.hostIp ++
  textMember "podIP" s.podIp ++
  listMember "containerStatuses" ContainerStatus.toJson s.containerStatuses)

def ofJson? (v : Value) : Option PodStatus := do
  let f ← fields ["phase", "hostIP", "podIP", "containerStatuses"] v
  return {
    phase := ← f.optional "phase" PodPhase.ofJson?
    hostIp := ← f.withDefault "hostIP" "" text
    podIp := ← f.withDefault "podIP" "" text
    containerStatuses := ← f.withDefault "containerStatuses" [] (listOf ContainerStatus.ofJson?) }

end PodStatus

namespace Pod

def toJson (p : Pod) : Value := .object (
  ("apiVersion", .string p.apiVersion) ::
  ("kind", .string p.kind) ::
  ("metadata", p.metadata.toJson) ::
  ("spec", p.spec.toJson) ::
  (if p.status.isEmpty then [] else [("status", p.status.toJson)]))

def ofJson? (v : Value) : Option Pod := do
  let f ← fields ["apiVersion", "kind", "metadata", "spec", "status"] v
  return {
    apiVersion := ← f.withDefault "apiVersion" "v1" text
    kind := ← f.withDefault "kind" "Pod" text
    metadata := ← f.withDefault "metadata" {} ObjectMeta.ofJson?
    spec := ← f.withDefault "spec" {} PodSpec.ofJson?
    status := ← f.withDefault "status" {} PodStatus.ofJson? }

/-- The items of a list of pods. -/
def listOfJson? (v : Value) : Option (List Pod) := do
  let f ← fields ["items"] v
  f.withDefault "items" [] (listOf ofJson?)

end Pod

namespace ClusterNode

def toJson (n : ClusterNode) : Value := .object [
  ("metadata", n.metadata.toJson),
  ("status", .object [
    ("capacity", ofTable Quantity.toJson n.capacity),
    ("allocatable", ofTable Quantity.toJson n.allocatable)])]

def statusOfJson? (v : Value) : Option (Resources × Resources) := do
  let f ← fields ["capacity", "allocatable"] v
  return (← f.withDefault "capacity" {} (tableOf Quantity.ofJson?),
    ← f.withDefault "allocatable" {} (tableOf Quantity.ofJson?))

def ofJson? (v : Value) : Option ClusterNode := do
  let f ← fields ["metadata", "status"] v
  let (capacity, allocatable) ← f.withDefault "status" ({}, {}) statusOfJson?
  return { metadata := ← f.withDefault "metadata" {} ObjectMeta.ofJson?, capacity, allocatable }

end ClusterNode
end SandboxPods
