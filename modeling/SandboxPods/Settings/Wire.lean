import SandboxPods.Json.Writer
import SandboxPods.Settings.Document

/-!
# Settings in JSON

Settings are given in JSON as in a document, with null members left out; what does
not fit leaves all of them at their defaults. They are shown side by side with
every default filled in, a span as its seconds and the nanoseconds beyond them.
-/
namespace SandboxPods.Settings
open Json

mutual

/-- The document that a value stands for. -/
def nodeOf : Value → Yaml.Node
  | .object members => .mapping none (entriesOf members)
  | .array _ => .sequence none []
  | .string s => .scalar none .double s
  | v => .scalar none .plain (compact v)

def entriesOf : List (String × Value) → List (Yaml.Node × Yaml.Node)
  | [] => []
  | (_, .null) :: rest => entriesOf rest
  | (name, v) :: rest => (.scalar none .double name, nodeOf v) :: entriesOf rest

end

def ofJson (v : Value) : Settings := (ofDocument? ⟨nodeOf v, #[]⟩).getD {}

def spanToJson (t : Span) : Value := .array [ofNat (t / Span.second), ofNat (t % Span.second)]

def toJson (s : Settings) : Value := .object [
  ("namespace", .string s.podNamespace),
  ("node_name", ofOption .string s.nodeName),
  ("sidecar_image", .string s.sidecarImage),
  ("trusted_certs_dir", ofOption .string s.trustedCertsDir),
  ("trusted_certs_config_map", .string s.trustedCertsConfigMap),
  ("enable_container_proxy", .bool s.containerProxy),
  ("init_binary", .string s.initBinary),
  ("create_timeout", spanToJson s.createTimeout),
  ("delete_timeout", spanToJson s.deleteTimeout),
  ("poll_interval", spanToJson s.pollInterval),
  ("termination_grace_period", spanToJson s.terminationGracePeriod),
  ("api_url", .string s.cluster.apiUrl),
  ("socket", .string s.runtime.socket),
  ("kubelet_address", .string s.agent.address),
  ("kubelet_port", ofNat s.agent.port.toNat),
  ("nstar_bin", .string s.copy.helper),
  ("tar_bin", .string s.copy.archiver)]

end SandboxPods.Settings
