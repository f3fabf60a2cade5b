import SandboxPods.Pod.Basic
import SandboxPods.Sandbox.Spec
import SandboxPods.Settings.Basic

/-!
# The pod of a sandbox

A sandbox runs as a pod whose containers are its roles. Every role starts the
init program from a read-only mount and sees the bind mounts; the `app` role also
has a scratch directory. A sandbox whose workload property is `app` has a sidecar,
which takes the published ports when it proxies the traffic. The request for
processor time follows from the share of the node's memory.
-/
namespace SandboxPods

namespace Role

def app : String := "app"

def sidecar : String := "sidecar"

end Role

/-! ## Labels -/

def ownerProperty : String := "executor:owner"

def workloadProperty : String := "network.container_workload"

def ownerLabel : String := "cloudfoundry.org/owner-name"

/-- Properties that show on the pod, with their labels. -/
def labelledProperties : List (String × String) := [
  ("network.app_id", "cloudfoundry.org/app-guid"),
  ("network.org_id", "cloudfoundry.org/org-guid"),
  ("network.space_id", "cloudfoundry.org/space-guid"),
  (workloadProperty, "cloudfoundry.org/workload-type"),
  (ownerProperty, ownerLabel)]

def podLabels (properties : Properties) : Table String :=
  Table.ofList (labelledProperties.filterMap (fun p =>
    (properties.get? p.1).map (fun value => (p.2, value))))

/-! ## Resources -/

def mebibyte : Float := 1048576

/-- Processors for an amount of memory, in proportion to the node's processors per memory. -/
def cpuShare (memory : UInt64) (nodeCpu nodeMemory : Float) : Float :=
  if nodeMemory ≤ 0 then 0
  else memory.toFloat / mebibyte * (nodeCpu / (nodeMemory / mebibyte))

/-- Whole thousandths of a processor. -/
def cpuMillis (share : Float) : UInt64 := (share * 1000).toUInt64

/-- What an image leaves of a limit. -/
def remaining (limit used : UInt64) : UInt64 := if limit ≤ used then 0 else limit - used

/-! ## The plan -/

/-- All that a pod is built from. -/
structure PodPlan where
  settings : Settings
  nodeName : String
  spec : SandboxSpec
  image : String
  ports : List ContainerPort
  cpuShare : Float
  /-- Bytes of the disk limit that the image takes. -/
  rootfsSize : UInt64

namespace PodPlan

def initPath : String := "/tmp/garden-init"

def scratchVolume : String := "tmp"

def initVolume : String := "init-bin"

def initMount : VolumeMount := { name := initVolume, mountPath := initPath, readOnly := true }

def scratchMount : VolumeMount := { name := scratchVolume, mountPath := "/tmp" }

/-- The workload has a sidecar. -/
def hasSidecar (p : PodPlan) : Bool := p.spec.properties.get? workloadProperty == some Role.app

/-- The published ports are the sidecar's. -/
def isProxied (p : PodPlan) : Bool := p.hasSidecar && p.settings.containerProxy

def diskLimit (p : PodPlan) : Resources :=
  if p.spec.disk = 0 then {}
  else Table.ofList [(Resources.ephemeralStorage,
    Quantity.ofUnits (remaining p.spec.disk p.rootfsSize))]

def podResources (p : PodPlan) : ResourceRequirements := {
  requests := Table.ofList [(Resources.cpu, Quantity.ofMillis (cpuMillis p.cpuShare))]
  limits := Table.ofList [(Resources.memory, Quantity.ofUnits p.spec.memory)] }

def bindVolumeName (index : Nat) : String := "bind-mount-" ++ toString index

/-- The source of trusted certificates is a config map, any other source a host directory. -/
def bindVolume (p : PodPlan) (index : Nat) (mount : BindMount) : Volume :=
  if p.settings.trustedCertsDir = some mount.source then
    { name := bindVolumeName index, configMap := some p.settings.trustedCertsConfigMap }
  else { name := bindVolumeName index, hostPath := some mount.source }

def bindMount (index : Nat) (mount : BindMount) : VolumeMount :=
  { name := bindVolumeName index, mountPath := mount.destination, readOnly := true }

def bindMounts (p : PodPlan) : List VolumeMount := p.spec.bindMounts.mapIdx bindMount

def volumes (p : PodPlan) : List Volume :=
  { name := scratchVolume, emptyDir := true } ::
    { name := initVolume, hostPath := some p.settings.initBinary } ::
    p.spec.bindMounts.mapIdx p.bindVolume

def appContainer (p : PodPlan) : PodContainer := {
  name := Role.app
  image := p.image
  imagePullPolicy := some "IfNotPresent"
  command := [initPath]
  ports := if p.isProxied then [] else p.ports
  volumeMounts := scratchMount :: initMount :: p.bindMounts
  resources := { limits := p.diskLimit } }

def sidecarContainer (p : PodPlan) : PodContainer := {
  name := Role.sidecar
  image := p.settings.sidecarImage
  command := [initPath]
  ports := if p.isProxied then p.ports else []
  volumeMounts := initMount :: p.bindMounts }

def containers (p : PodPlan) : List PodContainer :=
  p.appContainer :: if p.hasSidecar then [p.sidecarContainer] else []

/-- The pod to submit. -/
def pod (p : PodPlan) : Pod := {
  metadata := {
    name := p.spec.handle
    podNamespace := p.settings.podNamespace
    labels := podLabels p.spec.properties }
  spec := {
    automountServiceAccountToken := some false
    enableServiceLinks := some false
    nodeName := some p.nodeName
    terminationGracePeriodSeconds :=
      some (Int64.ofNat (p.settings.terminationGracePeriod / Span.second))
    hostUsers := some true
    restartPolicy := some "Never"
    resources := some p.podResources
    volumes := p.volumes
    containers := p.containers } }

end PodPlan
end SandboxPods
