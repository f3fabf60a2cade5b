import SandboxPods.Handle
import SandboxPods.Image.Reference
import SandboxPods.Cluster.Error
import SandboxPods.Engine.Basic
import SandboxPods.Identity.Passwd
import SandboxPods.PortPool
import SandboxPods.Telemetry.Summary
import SandboxPods.Transfer.Helper

/-!
# Failures of the life cycle

What can go wrong with a sandbox, from the refusal of its description to the
failure of a collaborator. A failure that several things caused keeps each of
them, one line per cause.
-/
namespace SandboxPods

/-- The causes of one failure, in the order in which they came up. -/
abbrev Causes := List String

def Causes.message (causes : Causes) : String := String.intercalate "\n" causes

/-- What is wrong with the description of a sandbox. -/
inductive SpecFault where
  | handle (handle : String) (fault : HandleError)
  | image (uri : String) (fault : ImageReferenceError)
  | portInUse (port : UInt16)
  | stated (reason : String)
  deriving DecidableEq, Repr

def SpecFault.message : SpecFault → String
  | .handle text fault => "handle " ++ Text.quoted text ++ ": " ++ fault.message
  | .image uri fault => "image " ++ Text.quoted uri ++ ": " ++ fault.message
  | .portInUse port => "host port " ++ toString port.toNat ++ " is already in use"
  | .stated reason => reason

/-- Operations of sandboxes that pods do not offer. -/
inductive UnsupportedOperation where
  | attach | bulkNetOut | netOut | netIn | currentLimits | sandboxMetrics | stop | ttyResize
  | bulkInfo
  deriving DecidableEq, Repr

def UnsupportedOperation.name : UnsupportedOperation → String
  | .attach => "attach"
  | .bulkNetOut => "bulk net out"
  | .netOut => "net out"
  | .netIn => "net in"
  | .currentLimits => "current limits"
  | .sandboxMetrics => "container metrics"
  | .stop => "stop"
  | .ttyResize => "tty resize"
  | .bulkInfo => "bulk info"

inductive TransferDirection where
  | streamIn | streamOut
  deriving DecidableEq, Repr

def TransferDirection.name : TransferDirection → String
  | .streamIn => "stream-in"
  | .streamOut => "stream-out"

inductive LifecycleError where
  | alreadyExists (handle : String)
  | notFound (handle : String)
  | propertyNotFound (name : String)
  | resourceExhausted (requested available : Nat)
  | diskLimitExceeded (causes : Causes)
  | createTimeout (handle : String)
  | deleteTimeout (handle : String)
  | userLookupFailed (user : String) (cause : IdentityError)
  | streamFailed (direction : TransferDirection) (cause : CopyError)
  | sandboxNotFound (handle : String)
  | tasksNotAttached (handle role : String)
  | notStarted (id : String)
  /-- The exit code is kept when the process reported one. -/
  | processFailed (id : String) (exitCode : Option Int32) (causes : Causes)
  | unsupported (operation : UnsupportedOperation)
  | invalidSpec (fault : SpecFault)
  | cluster (operation : String) (cause : ClusterError)
  | engine (operation : String) (cause : EngineError)
  | telemetry (cause : TelemetryError)
  | notServing
  deriving DecidableEq, Repr

namespace LifecycleError

/-- The name by which programs tell these failures apart. -/
def kind : LifecycleError → String
  | .alreadyExists _ => "AlreadyExists"
  | .notFound _ => "NotFound"
  | .propertyNotFound _ => "PropertyNotFound"
  | .resourceExhausted .. => "ResourceExhausted"
  | .diskLimitExceeded _ => "DiskLimitExceeded"
  | .createTimeout _ => "CreateTimeout"
  | .deleteTimeout _ => "DeleteTimeout"
  | .userLookupFailed .. => "UserLookupFailed"
  | .streamFailed .. => "StreamFailed"
  | .sandboxNotFound _ => "ContainerNotFound"
  | .tasksNotAttached .. => "TasksNotAttached"
  | .notStarted _ => "NotStarted"
  | .processFailed .. => "ProcessFailed"
  | .unsupported _ => "Unsupported"
  | .invalidSpec _ => "InvalidSpec"
  | .cluster .. => "Cluster"
  | .engine .. => "Engine"
  | .telemetry _ => "Telemetry"
  | .notServing => "NotServing"

def missingProperty (name : String) : String := "property does not exist: " ++ name

def message : LifecycleError → String
  | .alreadyExists handle => "Handle '" ++ handle ++ "' already in use"
  | .notFound handle => "unknown handle: " ++ handle
  | .propertyNotFound name => missingProperty name
  | .resourceExhausted requested available =>
    PortsExhausted.message ⟨requested, available⟩
  | .diskLimitExceeded causes => causes.message
  | .createTimeout _ => "timed out waiting for pod to be running"
  | .deleteTimeout handle => "timed out waiting for pod " ++ handle ++ " to be deleted"
  | .userLookupFailed user cause => "get user " ++ Text.quoted user ++ ": " ++ cause.message
  | .streamFailed direction cause => direction.name ++ ": nstar: " ++ cause.message
  | .sandboxNotFound handle => "failed to get container " ++ handle ++ " for metrics"
  | .tasksNotAttached handle role =>
    "container " ++ handle ++ " has no " ++ role ++ " task attached"
  | .notStarted id => "process " ++ id ++ " has not been started"
  | .processFailed id _ causes => "process " ++ id ++ " failed:\n" ++ causes.message
  | .unsupported operation => operation.name ++ " is not implemented"
  | .invalidSpec fault => "invalid container spec: " ++ fault.message
  | .cluster operation cause => operation ++ ": " ++ cause.message
  | .engine operation cause => operation ++ ": " ++ cause.message
  | .telemetry cause => "failed to get metrics: " ++ cause.message
  | .notServing => "runtime is not serving"

/-- The exit code that a failed process still reported. -/
def exitCode : LifecycleError → Option Int32
  | .processFailed _ code _ => code
  | _ => none

end LifecycleError

instance : Failure LifecycleError := ⟨LifecycleError.kind, LifecycleError.message⟩

end SandboxPods
