import SandboxPods.Client.Basic

/-!
# What a client reports

The sandboxes that match a filter, the node's capacity as read at the start, and
the usage of sandboxes from samples joined with the books.
-/
namespace SandboxPods

/-! ## Listing -/

/-- A filter without a state asks for created sandboxes; the state `all` asks for any. -/
def effectiveFilter (filter : Properties) : Properties :=
  match filter.get? Sandbox.stateProperty with
  | none => filter.insert Sandbox.stateProperty Sandbox.stateCreated
  | some state => if state = Sandbox.stateAll then filter.erase Sandbox.stateProperty else filter

/-- The registered sandboxes whose properties match, by their positions. -/
def Books.sandboxesMatching (b : Books) (filter : Properties) : List Nat :=
  b.registry.values.filter (fun key =>
    b.properties.matchesAll (b.sandbox key).handle (effectiveFilter filter))

/-! ## Capacity -/

structure Capacity where
  memory : UInt64
  disk : UInt64
  schedulableDisk : UInt64
  maxSandboxes : UInt64
  deriving DecidableEq, Repr

def Client.capacity (c : Client) : Capacity :=
  let count (resources : Resources) (name : String) := Quantity.count (resources.get? name)
  { memory := count c.node.allocatable Resources.memory
    disk := count c.node.capacity Resources.ephemeralStorage
    schedulableDisk := count c.node.allocatable Resources.ephemeralStorage
    maxSandboxes := count c.node.capacity Resources.pods }

/-! ## Usage -/

structure NetworkUsage where
  rx : UInt64
  tx : UInt64
  deriving DecidableEq, Repr

structure Usage where
  memory : UInt64
  /-- What the sample says plus the root filesystem. -/
  disk : UInt64
  cpuNanos : UInt64
  /-- The share of processors times the age. -/
  cpuEntitlementNanos : UInt64
  ageNanos : UInt64
  /-- Present when both directions were counted. -/
  network : Option NetworkUsage
  deriving DecidableEq, Repr

def networkOf (sample : Sample) : Option NetworkUsage :=
  match sample.rx, sample.tx with
  | some rx, some tx => some ⟨rx, tx⟩
  | _, _ => none

def usageOf (s : Sandbox) (sample : Sample) : Usage := {
  memory := sample.memory
  disk := sample.disk + s.rootfsSize
  cpuNanos := sample.cpuNanos
  cpuEntitlementNanos := (s.cpuShare * sample.ageNanos.toFloat).toUInt64
  ageNanos := sample.ageNanos
  network := networkOf sample }

/-- The usage of one sampled handle, which must be registered. -/
def Books.usage (b : Books) (handle : String) (sample : Sample) : Except LifecycleError Usage :=
  match b.lookup handle with
  | .ok key => .ok (usageOf (b.sandbox key) sample)
  | .error _ => .error (.sandboxNotFound handle)

/-- The usage of every sampled handle. -/
def Books.usages (b : Books) (samples : Except TelemetryError (Table Sample)) :
    Except LifecycleError (Table Usage) :=
  match samples with
  | .error cause => .error (.telemetry cause)
  | .ok samples =>
    (samples.toList.mapM (fun e => (b.usage e.1 e.2).map (fun u => (e.1, u)))).map Table.ofList

end SandboxPods
