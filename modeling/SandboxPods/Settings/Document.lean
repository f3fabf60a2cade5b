import SandboxPods.PathEntry
import SandboxPods.Settings.Basic
import SandboxPods.Yaml.Node

/-!
# Documents of settings

Settings are read from one YAML document whose root is a mapping or empty.
Unknown keys are passed over, a known key may stand only once, and a section may
be empty. A text setting takes the source text of any scalar, whatever it looks
like; an optional one is unset by an unquoted null and by nothing; a flag and a
port must be written as such, unquoted or as a literal block with the tag of their
kind; a span is read from the text of any scalar. Aliases count as the nodes they
stand for, in keys and in values.

A directory may hold its settings under one of three names; the first that exists
counts, even when it cannot be read. The file system is given as a look-up from
paths to what is there.
-/
namespace SandboxPods.Settings
open Yaml

/-- The text of a scalar. -/
def text : Node → Option String
  | .scalar _ _ s => some s
  | _ => none

def isNullWord (s : String) : Bool := s ∈ ["null", "Null", "NULL", "~"]

def nullTag : String := "tag:yaml.org,2002:null"

/-- A text, or none for an unquoted null or nothing. -/
def optionalText : Node → Option (Option String)
  | .scalar (some tag) .plain s =>
    if tag = nullTag then (if isNullWord s then some none else none) else some (some s)
  | .scalar none .plain s => if s.isEmpty || isNullWord s then some none else some (some s)
  | .scalar _ _ s => some (some s)
  | _ => none

/-- The text of a scalar that may stand for a value of the kind with this tag. -/
def bareText (kind : String) : Node → Option String
  | .scalar _ .plain s => some s
  | .scalar (some tag) .literal s => if tag = kind then some s else none
  | _ => none

def flag (n : Node) : Option Bool :=
  (bareText "tag:yaml.org,2002:bool" n).bind (fun s =>
    if s ∈ ["true", "True", "TRUE"] then some true
    else if s ∈ ["false", "False", "FALSE"] then some false
    else none)

/-- Digits of a base, at least one of them. -/
def digits? (base : Nat) (cs : List Char) : Option Nat :=
  if cs.isEmpty then none
  else cs.foldl (fun n c => n.bind (fun n =>
    (Percent.hexValue? c).bind (fun d => if d < base then some (n * base + d) else none))) (some 0)

/-- A natural number: decimal without leading zeros, or with a base mark. -/
def natural? (s : String) : Option Nat :=
  let cs := match s.toList with
    | '+' :: rest => rest
    | cs => cs
  match cs with
  | '0' :: 'x' :: rest => digits? 16 rest
  | '0' :: 'o' :: rest => digits? 8 rest
  | '0' :: 'b' :: rest => digits? 2 rest
  | '0' :: _ :: _ => none
  | cs => digits? 10 cs

def portNumber (n : Node) : Option UInt16 :=
  ((bareText "tag:yaml.org,2002:int" n).bind natural?).bind (fun n =>
    if n < 65536 then some (UInt16.ofNat n) else none)

def span (n : Node) : Option Span := (text n).bind Span.read?

/-! ## Sections -/

def memberOf (name : String) : List (String × Node) → Option Node
  | [] => none
  | m :: rest => if m.1 = name then some m.2 else memberOf name rest

/-- The members of a section, none when a known key stands twice or a key is no scalar. -/
def sectionMembers (d : Yaml.Document) (names : List String) :
    Node → Option (List (String × Node))
  | .mapping _ members =>
    (members.mapM (fun m => (text (d.resolve m.1)).map (fun k => (k, m.2)))).bind (fun ms =>
      if names.all (fun n => (ms.filter (fun m => m.1 == n)).length ≤ 1) then
        some ((ms.filter (fun m => names.contains m.1)).map (fun m => (m.1, d.resolve m.2)))
      else none)
  | .scalar _ .plain "" => some []
  | _ => none

/-- A setting, or its default when the key is absent. -/
def setting {α : Type} (ms : List (String × Node)) (name : String) (default : α)
    (read : Node → Option α) : Option α :=
  match memberOf name ms with
  | none => some default
  | some n => read n

def clusterOfNode (d : Yaml.Document) (n : Node) : Option ClusterSettings := do
  let ms ← sectionMembers d ["api_url"] n
  return ⟨← setting ms "api_url" ({} : ClusterSettings).apiUrl text⟩

def runtimeOfNode (d : Yaml.Document) (n : Node) : Option RuntimeSettings := do
  let ms ← sectionMembers d ["socket"] n
  return ⟨← setting ms "socket" ({} : RuntimeSettings).socket text⟩

def agentOfNode (d : Yaml.Document) (n : Node) : Option AgentSettings := do
  let ms ← sectionMembers d ["address", "port"] n
  return ⟨← setting ms "address" ({} : AgentSettings).address text,
    ← setting ms "port" ({} : AgentSettings).port portNumber⟩

def copyOfNode (d : Yaml.Document) (n : Node) : Option CopySettings := do
  let ms ← sectionMembers d ["nstar_bin", "tar_bin"] n
  return ⟨← setting ms "nstar_bin" ({} : CopySettings).helper text,
    ← setting ms "tar_bin" ({} : CopySettings).archiver text⟩

def keys : List String :=
  ["namespace", "node_name", "sidecar_image", "trusted_certs_dir", "trusted_certs_config_map",
    "enable_container_proxy", "init_binary", "create_timeout", "delete_timeout", "poll_interval",
    "termination_grace_period", "cluster", "runtime", "kubelet", "stream"]

/-- The settings a document denotes, not validated. -/
def ofDocument? (document : Yaml.Document) : Option Settings := do
  let ms ← sectionMembers document keys document.root
  let d : Settings := {}
  return {
    podNamespace := ← setting ms "namespace" d.podNamespace text
    nodeName := ← setting ms "node_name" d.nodeName optionalText
    sidecarImage := ← setting ms "sidecar_image" d.sidecarImage text
    trustedCertsDir := ← setting ms "trusted_certs_dir" d.trustedCertsDir optionalText
    trustedCertsConfigMap := ← setting ms "trusted_certs_config_map" d.trustedCertsConfigMap text
    containerProxy := ← setting ms "enable_container_proxy" d.containerProxy flag
    initBinary := ← setting ms "init_binary" d.initBinary text
    createTimeout := ← setting ms "create_timeout" d.createTimeout span
    deleteTimeout := ← setting ms "delete_timeout" d.deleteTimeout span
    pollInterval := ← setting ms "poll_interval" d.pollInterval span
    terminationGracePeriod :=
      ← setting ms "termination_grace_period" d.terminationGracePeriod span
    cluster := ← setting ms "cluster" d.cluster (clusterOfNode document)
    runtime := ← setting ms "runtime" d.runtime (runtimeOfNode document)
    agent := ← setting ms "kubelet" d.agent (agentOfNode document)
    copy := ← setting ms "stream" d.copy (copyOfNode document) }

/-- The settings a text denotes, not validated; a text without a document is all defaults. -/
def ofText? (s : String) : Option Settings :=
  match Yaml.Document.readAll? s with
  | some [] => some {}
  | some [d] => ofDocument? d
  | _ => none

def read (s : String) : Except SettingsError Settings :=
  match ofText? s with
  | none => .error (.malformed "not a document of settings")
  | some settings => settings.validate

/-! ## Finding the settings -/

/-- Candidate names in order of preference. -/
def fileNames : List String := ["podgarden.yml", "podgarden.yaml", ".podgarden/config.yml"]

def load (look : String → PathEntry) (path : String) : Except SettingsError Settings :=
  match look path with
  | .absent => .error (.unreadable PathEntry.absentReason)
  | .unreadable reason => .error (.unreadable reason)
  | .file text => read text

/-- The settings of a directory. -/
def discover (look : String → PathEntry) (directory : String) : Except SettingsError Settings :=
  let paths := fileNames.map (fun n => directory ++ "/" ++ n)
  match paths.find? (fun p => decide (look p ≠ .absent)) with
  | some path => load look path
  | none => .error (.notFound directory)

end SandboxPods.Settings
