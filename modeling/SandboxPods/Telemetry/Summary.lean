import SandboxPods.Failure
import SandboxPods.Json.Lenient
import SandboxPods.Json.Reader
import SandboxPods.Time.Timestamp
import SandboxPods.Http.Endpoint

/-!
# Usage samples from the node agent

The node agent reports, for every pod of every namespace on the node, when it
started and what its containers, its network and its ephemeral storage use. A
sandbox's sample is taken from the pod of its name and that pod's `app` container;
of several such pods the last one counts. A counter that is missing is zero,
except that network counters may be absent. The age is the time since the start,
zero without a start, for a start in the future, and when it does not fit
sixty-four signed bits of nanoseconds.

As JSON a sample is a flat record of its counters; the network's are null where
there are none.
-/
namespace SandboxPods

/-- One usage sample of a sandbox. -/
structure Sample where
  memory : UInt64 := 0
  disk : UInt64 := 0
  cpuNanos : UInt64 := 0
  ageNanos : UInt64 := 0
  rx : Option UInt64 := none
  tx : Option UInt64 := none
  deriving DecidableEq, Repr

namespace Sample
open Json

def toJson (x : Sample) : Value := .object [
  ("memory", ofWord64 x.memory),
  ("disk", ofWord64 x.disk),
  ("cpu", ofWord64 x.cpuNanos),
  ("age", ofWord64 x.ageNanos),
  ("rx", ofOption ofWord64 x.rx),
  ("tx", ofOption ofWord64 x.tx)]

def ofJson (v : Value) : Sample := {
  memory := word64At v "memory"
  disk := word64At v "disk"
  cpuNanos := word64At v "cpu"
  ageNanos := word64At v "age"
  rx := (intAt? v "rx").map (fun n => UInt64.ofNat n.toNat)
  tx := (intAt? v "tx").map (fun n => UInt64.ofNat n.toNat) }

end Sample

inductive TelemetryError where
  | status (code : Nat)
  | decode (reason : String)
  | transport (reason : String)
  deriving DecidableEq, Repr

/-- The name by which programs tell these failures apart. -/
def TelemetryError.kind : TelemetryError → String
  | .status _ => "Status"
  | .decode _ => "Decode"
  | .transport _ => "Transport"

def TelemetryError.message : TelemetryError → String
  | .status code => "request failed, status: " ++ toString code
  | .decode reason => "failed to decode summary: " ++ reason
  | .transport reason => "transport error: " ++ reason

instance : Failure TelemetryError := ⟨TelemetryError.kind, TelemetryError.message⟩

structure ContainerStats where
  name : String
  cpuNanos : Option UInt64
  workingSet : Option UInt64
  deriving DecidableEq, Repr

structure PodStats where
  name : String
  podNamespace : String
  started : Option Timestamp
  containers : List ContainerStats
  rx : Option UInt64
  tx : Option UInt64
  ephemeralUsed : Option UInt64
  deriving DecidableEq, Repr

structure Summary where
  pods : List PodStats
  deriving DecidableEq, Repr

namespace Summary
open Json

/-! ## Reading -/

/-- A record of one optional counter. -/
def counterOfJson? (name : String) (v : Value) : Option (Option UInt64) :=
  (fields [name] v).bind (fun f => f.optionalByName name word64)

def containerOfJson? (v : Value) : Option ContainerStats := do
  let f ← fields ["name", "cpu", "memory"] v
  return {
    name := ← f.required "name" text
    cpuNanos := (← f.optional "cpu" (counterOfJson? "usageCoreNanoSeconds")).join
    workingSet := (← f.optional "memory" (counterOfJson? "workingSetBytes")).join }

def podRefOfJson? (v : Value) : Option (String × String) := do
  let f ← fields ["name", "namespace"] v
  return (← f.required "name" text, ← f.withDefault "namespace" "" text)

def networkOfJson? (v : Value) : Option (Option UInt64 × Option UInt64) := do
  let f ← fields ["rxBytes", "txBytes"] v
  return (← f.optionalByName "rxBytes" word64, ← f.optionalByName "txBytes" word64)

def timestampOfJson? (v : Value) : Option Timestamp := (text v).bind Timestamp.read?

def podOfJson? (v : Value) : Option PodStats := do
  let f ← fields ["podRef", "startTime", "containers", "network", "ephemeral-storage"] v
  let (name, podNamespace) ← f.required "podRef" podRefOfJson?
  let network ← f.optional "network" networkOfJson?
  return {
    name, podNamespace
    started := ← f.optional "startTime" timestampOfJson?
    containers := ← f.withDefault "containers" [] (listOf containerOfJson?)
    rx := network.bind (·.1)
    tx := network.bind (·.2)
    ephemeralUsed := (← f.optional "ephemeral-storage" (counterOfJson? "usedBytes")).join }

def ofJson? (v : Value) : Option Summary := do
  let f ← fields ["pods"] v
  return ⟨← f.withDefault "pods" [] (listOf podOfJson?)⟩

/-! ## Samples -/

def appContainer : String := "app"

/-- Nanoseconds since the start, as far as they count. -/
def age (now : Timestamp) (started : Option Timestamp) : UInt64 :=
  match started with
  | none => 0
  | some t =>
    let d := now.nanosSince t
    if 0 ≤ d ∧ d < 9223372036854775808 then UInt64.ofNat d.toNat else 0

/-- The sample a pod gives, if it has an app container. -/
def sampleOf (now : Timestamp) (pod : PodStats) : Option Sample :=
  (pod.containers.find? (fun c => c.name == appContainer)).map (fun app => {
    memory := app.workingSet.getD 0
    disk := pod.ephemeralUsed.getD 0
    cpuNanos := app.cpuNanos.getD 0
    ageNanos := age now pod.started
    rx := pod.rx
    tx := pod.tx })

/-- The samples of the requested sandboxes. -/
def samples (s : Summary) (handles : List String) (now : Timestamp) : Table Sample :=
  Table.ofList (s.pods.filterMap (fun pod =>
    if handles.contains pod.name then (sampleOf now pod).map (fun x => (pod.name, x)) else none))

/-! ## Asking the node agent -/

def request : HttpRequest := { method := "GET", path := "/stats/summary" }

def ofReply (reply : Except HttpError HttpReply) : Except TelemetryError Summary :=
  match reply with
  | .error e => .error (.transport e.message)
  | .ok r =>
    if !r.isSuccess then .error (.status r.status)
    else match (Json.read? r.body).bind ofJson? with
      | some s => .ok s
      | none => .error (.decode "not a summary")

end Summary
end SandboxPods
