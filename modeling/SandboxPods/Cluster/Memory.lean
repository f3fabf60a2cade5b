import SandboxPods.Cluster.Request

/-!
# A cluster in memory

A stand-in for the cluster, with which a client can be run where there is none, as
in tests. It has no part in what is shown about calls: that holds whoever answers
them, and a result that needs the cluster to behave in a certain way names that as a
condition.

The stand-in keeps pods as they were submitted and gives every one of them a status
of its own making. How fast it is shows in reads: a new pod may stay unseen for some
of them and takes some more to run, and a deleted pod may linger for some. A
negative number of reads never ends.
-/
namespace SandboxPods

/-- How a cluster treats the pods that it is given. -/
structure PodPace where
  unseen : Int := 0
  starting : Int := 0
  lingering : Int := 0
  /-- The phase of a pod that has started. -/
  phase : PodPhase := .running
  /-- Containers that get no identifier. -/
  unidentified : List String := []

structure StoredPod where
  pod : Pod
  /-- Reads that do not find it yet. -/
  unseen : Int := 0
  /-- Reads until it has started. -/
  starting : Int := 0
  /-- Reads until it is gone, once its deletion was asked for. -/
  leaving : Option Int := none
  deriving Inhabited

/-- A pod with the status it starts with. -/
def PodPace.started (pace : PodPace) (pod : Pod) : Pod :=
  let identifier (c : PodContainer) : Option String :=
    if pace.unidentified.contains c.name then none
    else some ("containerd://" ++ pod.name ++ "-" ++ c.name)
  { pod with status := {
      phase := some pace.phase
      hostIp := "10.0.0.1"
      podIp := "10.1.0.5"
      containerStatuses :=
        pod.spec.containers.map (fun c => { name := c.name, containerId := identifier c }) } }

/-- The pod starts when no read is left to wait for. -/
def PodPace.startIfDue (pace : PodPace) (p : StoredPod) : StoredPod :=
  if p.starting = 0 then { p with pod := pace.started p.pod } else p

/-- Stored pods in the order in which they came. -/
abbrev MemoryCluster := List StoredPod

namespace MemoryCluster

def isNamed (podNamespace name : String) (p : StoredPod) : Bool :=
  p.pod.name == name && p.pod.podNamespace == podNamespace

def listPods (c : MemoryCluster) (podNamespace : String) : List Pod :=
  (c.map (·.pod)).filter (fun p => p.podNamespace == podNamespace)

/-- What one read does to a stored pod, and what it finds. -/
def readStored (pace : PodPace) (p : StoredPod) : Option StoredPod × Option Pod :=
  if 0 < p.unseen then (some { p with unseen := p.unseen - 1 }, none)
  else match p.leaving with
    | some reads =>
      if reads = 0 then (none, none) else (some { p with leaving := some (reads - 1) }, some p.pod)
    | none =>
      if p.starting = 0 then (some p, some p.pod)
      else
        let p := pace.startIfDue { p with starting := p.starting - 1 }
        (some p, some p.pod)

def read (pace : PodPace) (podNamespace name : String) :
    MemoryCluster → Except ClusterError Pod × MemoryCluster
  | [] => (.error (.notFound .pod name), [])
  | p :: rest =>
    if isNamed podNamespace name p then
      let (stored, found) := readStored pace p
      (found.elim (.error (.notFound .pod name)) .ok, stored.toList ++ rest)
    else (read pace podNamespace name rest).map id (p :: ·)

/-- Accepts a pod unless there is one of its name. -/
def submit (pace : PodPace) (pod : Pod) (c : MemoryCluster) :
    Except ClusterError Pod × MemoryCluster :=
  if c.any (isNamed pod.podNamespace pod.name) then
    (.error (.alreadyExists .pod pod.name), c)
  else
    let p := pace.startIfDue {
      pod := { pod with status.phase := some .pending }
      unseen := pace.unseen
      starting := pace.starting }
    (.ok p.pod, c ++ [p])

/-- Removes a pod, or lets it linger. -/
def delete (pace : PodPace) (podNamespace name : String) :
    MemoryCluster → Except ClusterError Unit × MemoryCluster
  | [] => (.error (.notFound .pod name), [])
  | p :: rest =>
    if isNamed podNamespace name p then
      (.ok (), if pace.lingering = 0 then rest
        else { p with leaving := some pace.lingering } :: rest)
    else (delete pace podNamespace name rest).map id (p :: ·)

end MemoryCluster
end SandboxPods
