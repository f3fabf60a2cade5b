import SandboxPods.Failure
import SandboxPods.Time.Span

/-!
# Settings

What an operator may set: the namespace that holds every sandbox's pod, the node,
what goes into pods, how long to wait, and how to reach the cluster, the runtime,
the node agent and the copy helper. Everything has a default. Settings are valid
when the namespace is named and polling pauses for some time; only the reading of
documents demands that.
-/
namespace SandboxPods

/-- The cluster's plain HTTP endpoint, usually a proxy on the node. -/
structure ClusterSettings where
  apiUrl : String := "http://127.0.0.1:8001"
  deriving DecidableEq, Repr

structure RuntimeSettings where
  socket : String := "/var/run/docker.sock"
  deriving DecidableEq, Repr

structure AgentSettings where
  address : String := "127.0.0.1"
  port : UInt16 := 10255
  deriving DecidableEq, Repr

/-- The program that enters a sandbox and the archiver it starts there. -/
structure CopySettings where
  helper : String := "/var/lib/rep/bin/nstar"
  archiver : String := "/var/lib/rep/bin/tar"
  deriving DecidableEq, Repr

structure Settings where
  podNamespace : String := "cf-workloads"
  nodeName : Option String := none
  sidecarImage : String := ""
  /-- Bind-mount source that the trusted certificates' config map replaces. -/
  trustedCertsDir : Option String := none
  trustedCertsConfigMap : String := "trusted-system-certs"
  containerProxy : Bool := false
  initBinary : String := "/var/lib/rep/bin/init"
  createTimeout : Span := 120 * Span.second
  deleteTimeout : Span := 10 * Span.second
  pollInterval : Span := 500 * Span.millisecond
  terminationGracePeriod : Span := 5 * Span.second
  cluster : ClusterSettings := {}
  runtime : RuntimeSettings := {}
  agent : AgentSettings := {}
  copy : CopySettings := {}
  deriving DecidableEq, Repr

/-- What makes settings invalid. -/
inductive SettingsFault where
  | namespaceEmpty
  | pollIntervalZero
  deriving DecidableEq, Repr

def SettingsFault.message : SettingsFault → String
  | .namespaceEmpty => "namespace cannot be empty"
  | .pollIntervalZero => "poll_interval must be greater than zero"

inductive SettingsError where
  | notFound (directory : String)
  | invalid (fault : SettingsFault)
  /-- The operating system could not give the document's text. -/
  | unreadable (reason : String)
  /-- The text is no document of settings. -/
  | malformed (reason : String)
  deriving DecidableEq, Repr

/-- The name by which programs tell these failures apart. -/
def SettingsError.kind : SettingsError → String
  | .notFound _ => "ConfigNotFound"
  | .invalid _ => "InvalidConfig"
  | .unreadable _ => "Io"
  | .malformed _ => "Yaml"

def SettingsError.message : SettingsError → String
  | .notFound directory => "configuration file not found in " ++ directory
  | .invalid fault => "invalid configuration: " ++ fault.message
  | .unreadable reason => "I/O error: " ++ reason
  | .malformed reason => "YAML parse error: " ++ reason

instance : Failure SettingsError := ⟨SettingsError.kind, SettingsError.message⟩

namespace Settings

/-- The first fault, an empty namespace before a zero interval. -/
def fault? (s : Settings) : Option SettingsFault :=
  if s.podNamespace.isEmpty then some .namespaceEmpty
  else if s.pollInterval = 0 then some .pollIntervalZero
  else none

def validate (s : Settings) : Except SettingsError Settings :=
  match s.fault? with
  | some f => .error (.invalid f)
  | none => .ok s

/-- The environment variable that names the node. -/
def nodeNameVariable : String := "NODE_NAME"

/-- The configured node name, else the environment's, else the machine's own; empty names
do not count. -/
def resolveNodeName (s : Settings) (environment : Option String) (machine : String) : String :=
  ((s.nodeName.filter (!·.isEmpty)).or (environment.filter (!·.isEmpty))).getD machine

end Settings
end SandboxPods
