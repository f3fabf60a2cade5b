import SandboxPods.Cluster.Request
import SandboxPods.PortPool
import SandboxPods.Sandbox.Basic
import SandboxPods.Stores

/-!
# The client's books and its conversations

A client manages the sandboxes of one namespace on one node. Its books hold the
held host ports, the registered handles and their properties. Each sandbox it ever
made keeps a position of its own, so that a sandbox that is gone is told apart
from a later one of the same handle.

Calls that talk to the cluster or to the runtime are cut at their waits: a call is
a value that says what it waits for, and an event takes it, with the books, to its
next wait. Other calls may run in between.
-/
namespace SandboxPods

/-- A point in time, in nanoseconds. -/
abbrev Instant := Nat

/-- What a client learned when it connected. -/
structure Client where
  settings : Settings
  nodeName : String
  node : ClusterNode
  deriving Repr

namespace Client

def capacityAmount (c : Client) (name : String) : Float :=
  ((c.node.capacity.get? name).bind Quantity.amount?).getD 0

/-- The share of processors that goes with an amount of memory on the client's node. -/
def shareOf (c : Client) (memory : UInt64) : Float :=
  cpuShare memory (c.capacityAmount Resources.cpu) (c.capacityAmount Resources.memory)

end Client

/-! ## Books -/

structure Books where
  ports : PortPool := .empty
  /-- Positions of the registered sandboxes. -/
  registry : Registry Nat := {}
  properties : PropertyStore := {}
  sandboxes : List Sandbox := []

namespace Books

instance : Inhabited Books := ⟨{}⟩

def sandbox (b : Books) (key : Nat) : Sandbox := b.sandboxes.getD key default

def modify (b : Books) (key : Nat) (f : Sandbox → Sandbox) : Books :=
  { b with sandboxes := b.sandboxes.modify key f }

/-- Claims the sandbox's handle for it. -/
def register (b : Books) (s : Sandbox) : Except LifecycleError (Books × Nat) := do
  let key := b.sandboxes.length
  let registry ← b.registry.add s.handle key
  return ({ b with registry, sandboxes := b.sandboxes ++ [s] }, key)

/-- The position of a registered sandbox. -/
def lookup (b : Books) (handle : String) : Except LifecycleError Nat := b.registry.get handle

def setProperty (b : Books) (handle name value : String) : Books :=
  { b with properties := b.properties.set handle name value }

/-- Gives up ports that a call had claimed for itself. -/
def releasePorts (b : Books) (ports : List UInt16) : Books :=
  { b with ports := b.ports.releaseAll ports }

/-- Forgets a handle with the ports of its pod. -/
def forget (b : Books) (handle : String) (pod : Pod) : Books :=
  { b with
    ports := b.ports.releaseAll pod.hostPorts
    registry := b.registry.erase handle
    properties := b.properties.destroy handle }

end Books

/-! ## Conversations -/

/-- What a call asks of a collaborator. -/
inductive Ask where
  | cluster (call : ClusterCall)
  | pull (reference : ImageReference) (credentials : Option Credentials)
  | deleteImage (id : ImageId)
  /-- Tasks for the statuses that carry an identifier, by role. -/
  | loadTasks (statuses : List ContainerStatus)

/-- What a collaborator answers; creating and reading a pod both answer a pod. -/
inductive Answer where
  | node (result : Except ClusterError ClusterNode)
  | pods (result : Except ClusterError (List Pod))
  | pod (result : Except ClusterError Pod)
  | deleted (result : Except ClusterError Unit)
  | pulled (result : Except EngineError PulledImage)
  | imageDeleted (result : Except EngineError Unit)
  | tasks (result : Except EngineError Tasks)

/-- What ends a wait. -/
inductive Event where
  | answered (answer : Answer)
  /-- A pause is over. -/
  | woke
  /-- The deadline passed first. -/
  | expired

/-- What a call waits for. Of an own event and the deadline at one instant the own event
comes first. -/
inductive Awaiting where
  | answer (ask : Ask) (limit : Option Instant)
  | pause (wake : Instant) (limit : Instant)
  | nothing

end SandboxPods
