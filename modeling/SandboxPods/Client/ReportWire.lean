import SandboxPods.Client.Report
import SandboxPods.Json.Value

/-!
# Reports in JSON

The forms in which operators see the node's capacity, the usage of sandboxes and a
list of sandboxes.
-/
namespace SandboxPods
open Json

def Capacity.toJson (c : Capacity) : Value := .object [
  ("memory_in_bytes", ofWord64 c.memory),
  ("disk_in_bytes", ofWord64 c.disk),
  ("schedulable_disk_in_bytes", ofWord64 c.schedulableDisk),
  ("max_containers", ofWord64 c.maxSandboxes)]

def NetworkUsage.toJson (n : NetworkUsage) : Value := .object [
  ("rx_bytes", ofWord64 n.rx),
  ("tx_bytes", ofWord64 n.tx)]

def Usage.toJson (u : Usage) : Value := .object [
  ("memory_usage_bytes", ofWord64 u.memory),
  ("disk_usage_bytes", ofWord64 u.disk),
  ("cpu_usage_ns", ofWord64 u.cpuNanos),
  ("cpu_entitlement_ns", ofWord64 u.cpuEntitlementNanos),
  ("age_ns", ofWord64 u.ageNanos),
  ("network", ofOption NetworkUsage.toJson u.network)]

def PortMapping.toJson (m : PortMapping) : Value := .object [
  ("host_port", ofNat m.hostPort.toNat),
  ("container_port", ofNat m.containerPort.toNat)]

def SandboxInfo.toJson (i : SandboxInfo) : Value := .object [
  ("state", .string i.state),
  ("host_ip", .string i.hostIp),
  ("container_ip", .string i.containerIp),
  ("external_ip", .string i.externalIp),
  ("mapped_ports", .array (i.mappedPorts.map PortMapping.toJson))]

/-- A sandbox in a list: its handle and its properties. -/
def Books.entryToJson (b : Books) (key : Nat) : Value :=
  let handle := (b.sandbox key).handle
  .object [("handle", .string handle),
    ("properties", ofTable .string (b.properties.all handle))]

end SandboxPods
