import SandboxPods.Client.Basic

/-!
# Claiming the ports of a new sandbox

Explicit host ports inside the pool's range are held like allocated ones, and an
explicit port that is already held refuses the whole description. Then the lowest
free ports serve the requests without a host port, in order. A claim that fails
leaves the pool as it was.
-/
namespace SandboxPods

/-- The ports that a sandbox's pod declares, and those of them that the pool holds for it. -/
structure PortClaim where
  claimed : List UInt16
  ports : List ContainerPort
  deriving DecidableEq, Repr

namespace PortClaim

/-- The explicit host ports that the pool is responsible for. -/
def explicitPorts (pool : PortPool) (requests : List PortRequest) : List UInt16 :=
  (requests.map (·.hostPort)).filter (fun p => p ≠ 0 && pool.contains p)

/-- Holds each port in turn. -/
def reserveEach (pool : PortPool) : List UInt16 → Except LifecycleError PortPool
  | [] => .ok pool
  | port :: rest =>
    match pool.reserve port with
    | some pool => reserveEach pool rest
    | none => .error (.invalidSpec (.portInUse port))

/-- How many requests leave the host port to the pool. -/
def missing (requests : List PortRequest) : Nat :=
  (requests.filter (fun r => r.hostPort == 0)).length

/-- The requests with the fresh ports put in where no host port is given. -/
def assign : List PortRequest → List UInt16 → List ContainerPort
  | [], _ => []
  | r :: rest, fresh =>
    if r.hostPort = 0 then
      { containerPort := r.containerPort, hostPort := some (fresh.headD 0) } ::
        assign rest fresh.tail
    else { containerPort := r.containerPort, hostPort := some r.hostPort } :: assign rest fresh

def make (pool : PortPool) (requests : List PortRequest) :
    Except LifecycleError (PortPool × PortClaim) := do
  let given := explicitPorts pool requests
  let reserved ← reserveEach pool given
  match reserved.allocate (missing requests) with
  | .error e => .error (.resourceExhausted e.requested e.available)
  | .ok (fresh, after) => .ok (after, ⟨given ++ fresh, assign requests fresh⟩)

end PortClaim
end SandboxPods
