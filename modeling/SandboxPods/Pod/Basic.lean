import SandboxPods.Table
import SandboxPods.Quantity

/-!
# Pods and nodes

The part of the cluster's objects that sandboxes need: a pod with its containers,
their ports, mounts and resources, its volumes and its status, and a node with
its capacity. Optional parts are those the cluster may leave out.
-/
namespace SandboxPods

abbrev Resources := Table Quantity

namespace Resources

def cpu : String := "cpu"

def memory : String := "memory"

def ephemeralStorage : String := "ephemeral-storage"

def pods : String := "pods"

end Resources

structure ObjectMeta where
  name : String := ""
  podNamespace : String := ""
  labels : Table String := {}
  deriving DecidableEq, Repr, Inhabited

structure ContainerPort where
  containerPort : UInt16
  hostPort : Option UInt16 := none
  protocol : String := "TCP"
  deriving DecidableEq, Repr, Inhabited

structure ResourceRequirements where
  requests : Resources := {}
  limits : Resources := {}
  deriving DecidableEq, Repr, Inhabited

def ResourceRequirements.isEmpty (r : ResourceRequirements) : Bool :=
  r.requests.isEmpty && r.limits.isEmpty

structure VolumeMount where
  name : String
  mountPath : String
  readOnly : Bool := false
  deriving DecidableEq, Repr, Inhabited

structure PodContainer where
  name : String
  image : String := ""
  imagePullPolicy : Option String := none
  command : List String := []
  ports : List ContainerPort := []
  volumeMounts : List VolumeMount := []
  resources : ResourceRequirements := {}
  deriving DecidableEq, Repr, Inhabited

/-- A volume with its sources; a well-formed volume has exactly one. -/
structure Volume where
  name : String
  emptyDir : Bool := false
  hostPath : Option String := none
  configMap : Option String := none
  deriving DecidableEq, Repr, Inhabited

structure PodSpec where
  automountServiceAccountToken : Option Bool := none
  enableServiceLinks : Option Bool := none
  nodeName : Option String := none
  terminationGracePeriodSeconds : Option Int64 := none
  hostUsers : Option Bool := none
  restartPolicy : Option String := none
  /-- Requests and limits of the pod as a whole. -/
  resources : Option ResourceRequirements := none
  volumes : List Volume := []
  containers : List PodContainer := []
  deriving DecidableEq, Repr, Inhabited

inductive PodPhase where
  | pending | running | succeeded | failed | unknown
  deriving DecidableEq, Repr

structure ContainerStatus where
  name : String
  /-- The runtime's identifier, with the runtime's scheme in front. -/
  containerId : Option String := none
  deriving DecidableEq, Repr, Inhabited

structure PodStatus where
  phase : Option PodPhase := none
  hostIp : String := ""
  podIp : String := ""
  containerStatuses : List ContainerStatus := []
  deriving DecidableEq, Repr, Inhabited

def PodStatus.isEmpty (s : PodStatus) : Bool :=
  s.phase.isNone && s.hostIp.isEmpty && s.podIp.isEmpty && s.containerStatuses.isEmpty

structure Pod where
  apiVersion : String := "v1"
  kind : String := "Pod"
  metadata : ObjectMeta := {}
  spec : PodSpec := {}
  status : PodStatus := {}
  deriving DecidableEq, Repr, Inhabited

namespace Pod

def name (p : Pod) : String := p.metadata.name

def podNamespace (p : Pod) : String := p.metadata.podNamespace

def isRunning (p : Pod) : Bool := p.status.phase == some .running

/-- The ports of all containers, in order. -/
def ports (p : Pod) : List ContainerPort := p.spec.containers.flatMap (·.ports)

/-- Every host port that a container declares. -/
def hostPorts (p : Pod) : List UInt16 := p.ports.filterMap (·.hostPort)

end Pod

structure ClusterNode where
  metadata : ObjectMeta := {}
  capacity : Resources := {}
  allocatable : Resources := {}
  deriving DecidableEq, Repr, Inhabited

end SandboxPods
