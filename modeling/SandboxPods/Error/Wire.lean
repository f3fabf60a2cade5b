import SandboxPods.Error
import SandboxPods.Json.Lenient

/-!
# Failures in JSON

A failure is a record of its kind and of what that kind carries. A failure that
another one caused holds the record of its cause. What is left out is empty, and a
kind that does not exist is no failure.
-/
namespace SandboxPods
open Json

def ObjectKind.ofName : String → ObjectKind
  | "node" => .node
  | "namespace" => .podNamespace
  | _ => .pod

def ClusterError.ofJson? (v : Value) : Option ClusterError :=
  let kind := ObjectKind.ofName (textAt v "object")
  let reason := textAt v "message"
  match textAt v "kind" with
  | "NotFound" => some (.notFound kind (textAt v "name"))
  | "AlreadyExists" => some (.alreadyExists kind (textAt v "name"))
  | "Api" => some (.api (natAt v "status") reason)
  | "Decode" => some (.decode reason)
  | "Transport" => some (.transport reason)
  | _ => none

def EngineError.ofJson? (v : Value) : Option EngineError :=
  let reason := textAt v "message"
  match textAt v "kind" with
  | "NotServing" => some (.notServing reason)
  | "ImageNotFound" => some (.imageNotFound reason)
  | "PullFailed" => some (.pullFailed reason)
  | "TaskNotFound" => some (.taskNotFound reason)
  | "ProcessNotFound" => some (.processNotFound reason)
  | "ExecFailed" => some (.execFailed reason)
  | "Io" => some (.io reason)
  | "Runtime" => some (.runtime reason)
  | _ => none

def IdentityError.ofJson? (v : Value) : Option IdentityError :=
  match textAt v "kind" with
  | "UnknownUser" => some (.unknownUser (textAt v "username"))
  | "Malformed" => some (.malformed (textAt v "username"))
  | "Read" => some (.read (textAt v "path") (textAt v "message"))
  | _ => none

def CopyError.ofJson? (v : Value) : Option CopyError :=
  match textAt v "kind" with
  | "Spawn" => some (.spawn (textAt v "program") (textAt v "message"))
  | "Input" => some (.input (textAt v "message") (textAt v "stderr"))
  | "Failed" => some (.failed (intAt? v "code") (textAt v "stderr"))
  | _ => none

def TelemetryError.ofJson? (v : Value) : Option TelemetryError :=
  match textAt v "kind" with
  | "Status" => some (.status (natAt v "status"))
  | "Decode" => some (.decode (textAt v "message"))
  | "Transport" => some (.transport (textAt v "message"))
  | _ => none

def HttpError.ofJson? (v : Value) : Option HttpError :=
  let reason := textAt v "message"
  match textAt v "kind" with
  | "InvalidEndpoint" => some (.invalidEndpoint reason)
  | "Connect" => some (.connect (textAt v "authority") reason)
  | "Handshake" => some (.handshake reason)
  | "Build" => some (.build reason)
  | "Request" => some (.request reason)
  | "Body" => some (.body reason)
  | _ => none

/-- The direction of a failed transfer and the operation that is not offered are fixed. -/
def LifecycleError.ofJson? (v : Value) : Option LifecycleError :=
  let handle := textAt v "handle"
  let id := textAt v "id"
  let operation := textAt v "operation"
  let causes := textsAt v "causes"
  let source := member v "source"
  match textAt v "kind" with
  | "AlreadyExists" => some (.alreadyExists handle)
  | "NotFound" => some (.notFound handle)
  | "PropertyNotFound" =>
    some (.propertyNotFound ((textAt? source "name").getD (textAt v "name")))
  | "ResourceExhausted" => some (.resourceExhausted (natAt v "requested") (natAt v "available"))
  | "DiskLimitExceeded" => some (.diskLimitExceeded causes)
  | "CreateTimeout" => some (.createTimeout handle)
  | "DeleteTimeout" => some (.deleteTimeout handle)
  | "UserLookupFailed" =>
    (IdentityError.ofJson? source).map (.userLookupFailed (textAt v "user"))
  | "StreamFailed" => (CopyError.ofJson? source).map (.streamFailed .streamIn)
  | "ContainerNotFound" => some (.sandboxNotFound handle)
  | "TasksNotAttached" => some (.tasksNotAttached handle (textAt v "role"))
  | "NotStarted" => some (.notStarted id)
  | "ProcessFailed" =>
    some (.processFailed id ((intAt? v "exit_code").map Int32.ofInt) causes)
  | "Unsupported" => some (.unsupported .bulkInfo)
  | "InvalidSpec" => some (.invalidSpec (.stated (textAt v "message")))
  | "Cluster" => (ClusterError.ofJson? source).map (.cluster operation)
  | "Engine" => (EngineError.ofJson? source).map (.engine operation)
  | "Telemetry" => (TelemetryError.ofJson? source).map .telemetry
  | "NotServing" => some .notServing
  | _ => none

end SandboxPods
