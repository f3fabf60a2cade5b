import SandboxPods.Execution.Basic
import SandboxPods.Number.Shortest
import SandboxPods.Pod.Plan

/-!
# Sandboxes

A sandbox as its client keeps it: the pod as last read, which may be stale, what
was computed at creation, and the tasks of its roles once they are known. Files
move through the `app` role, and processes run in it or in the sidecar.
-/
namespace SandboxPods

structure PortMapping where
  hostPort : UInt16
  containerPort : UInt16
  deriving DecidableEq, Repr

structure SandboxInfo where
  state : String
  hostIp : String
  containerIp : String
  externalIp : String
  mappedPorts : List PortMapping
  deriving DecidableEq, Repr

structure Sandbox where
  handle : String
  pod : Pod
  env : List String := []
  cpuShare : Float := 0
  rootfsSize : UInt64 := 0
  tasks : Tasks := {}
  deriving Repr, Inhabited

namespace Sandbox

/-- The property that says how far a sandbox's creation got. -/
def stateProperty : String := "garden.state"

def stateCreated : String := "created"

/-- Stands for every state in a filter. -/
def stateAll : String := "all"

/-- The property that records the grace time in nanoseconds. -/
def graceTimeProperty : String := "garden.grace-time"

/-- Bounding and inheritable capabilities of every process. -/
def capabilities : List String := [
  "CAP_CHOWN", "CAP_DAC_OVERRIDE", "CAP_FOWNER", "CAP_FSETID", "CAP_KILL", "CAP_SETGID",
  "CAP_SETUID", "CAP_SETPCAP", "CAP_NET_BIND_SERVICE", "CAP_NET_RAW", "CAP_SYS_CHROOT",
  "CAP_MKNOD", "CAP_AUDIT_WRITE", "CAP_SETFCAP"]

/-- A sandbox is known by the name of its pod. -/
def ofPod (pod : Pod) : Sandbox := { handle := pod.name, pod }

def hasTasks (s : Sandbox) : Bool := !s.tasks.isEmpty

/-- The task of a role. -/
def task (s : Sandbox) (role : String) : Except LifecycleError RoleTask :=
  match s.tasks.get? role with
  | some t => .ok t
  | none => .error (.tasksNotAttached s.handle role)

/-- What a port of the pod publishes; a port without a host port shows zero. -/
def mapping (p : ContainerPort) : PortMapping := ⟨p.hostPort.getD 0, p.containerPort⟩

def info (s : Sandbox) : SandboxInfo := {
  state := "active"
  hostIp := s.pod.status.hostIp
  containerIp := s.pod.status.podIp
  externalIp := s.pod.status.hostIp
  mappedPorts := s.pod.ports.map mapping }

/-! ## Processes -/

/-- The role in which a request runs. -/
def roleOf (request : ExecutionRequest) : String :=
  if request.image.isEmpty then Role.app else Role.sidecar

/-- The full description of a request's process for a resolved user. -/
def executionSpec (s : Sandbox) (request : ExecutionRequest) (user : SandboxUser) :
    ExecutionSpec := {
  args := request.path :: request.args
  env := Environment.ofParts s.env request.user user.uid request.env
  cwd := if request.dir.isEmpty then user.home else request.dir
  user := ⟨user.uid, user.gid, request.user⟩
  capabilities }

/-- The requested identifier, or the fresh one. -/
def executionId (request : ExecutionRequest) (fresh : String) : ExecutionId :=
  ⟨(request.id.filter (!·.isEmpty)).getD fresh⟩

/-- Resolves a request; `users` resolves a name on the root filesystem of a task. -/
def run (s : Sandbox) (request : ExecutionRequest) (fresh : String)
    (users : RoleTask → String → Except IdentityError SandboxUser) :
    Except LifecycleError Execution := do
  let role := roleOf request
  let task ← s.task role
  match users task request.user with
  | .error cause => .error (.userLookupFailed request.user cause)
  | .ok user =>
    .ok { id := executionId request fresh, role, spec := s.executionSpec request user, task }

/-! ## Files -/

/-- Moves files through the app role; `copy` does so for its task. -/
def transfer {α : Type} (s : Sandbox) (direction : TransferDirection)
    (copy : RoleTask → Except CopyError α) : Except LifecycleError α := do
  let task ← s.task Role.app
  match copy task with
  | .ok a => .ok a
  | .error cause => .error (.streamFailed direction cause)

/-! ## Rendering -/

/-- How a sandbox shows in a debugging text. -/
def rendered (s : Sandbox) : String :=
  "Container \x7b handle: " ++ Text.quoted s.handle ++ ", cpu_share: " ++
    Shortest.render s.cpuShare ++ ", rootfs_size: " ++ toString s.rootfsSize.toNat ++
    ", tasks: [" ++ String.intercalate ", " (s.tasks.keys.map Text.quoted) ++ "] \x7d"

end Sandbox
end SandboxPods
