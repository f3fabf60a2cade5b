import SandboxPods.Failure
import SandboxPods.Table

/-!
# The node's container runtime

What the runtime takes and gives: credentials for a registry, pulled images, the
tasks that run a pod's roles, the full description of one execution inside a
task, its exit status and the signals it can be sent. It issues identifiers for
containers, for processes and for images; the kind is part of the type, so one
cannot be used for another.
-/
namespace SandboxPods

inductive IdentifierKind where
  | container | execution | image

structure Identifier (kind : IdentifierKind) where
  text : String
  deriving DecidableEq, Repr, Inhabited

abbrev ContainerId := Identifier .container

abbrev ExecutionId := Identifier .execution

abbrev ImageId := Identifier .image

/-- How an identifier shows in a rendered state. -/
def Identifier.rendered {kind : IdentifierKind} (i : Identifier kind) : String :=
  "Id(" ++ Text.quoted i.text ++ ")"

inductive EngineError where
  | notServing (reason : String)
  | imageNotFound (image : String)
  | pullFailed (reason : String)
  | taskNotFound (reason : String)
  | processNotFound (reason : String)
  | execFailed (reason : String)
  | io (reason : String)
  | runtime (reason : String)
  deriving DecidableEq, Repr

/-- The name by which programs tell these failures apart. -/
def EngineError.kind : EngineError → String
  | .notServing _ => "NotServing"
  | .imageNotFound _ => "ImageNotFound"
  | .pullFailed _ => "PullFailed"
  | .taskNotFound _ => "TaskNotFound"
  | .processNotFound _ => "ProcessNotFound"
  | .execFailed _ => "ExecFailed"
  | .io _ => "Io"
  | .runtime _ => "Runtime"

def EngineError.message : EngineError → String
  | .notServing reason => "runtime is not serving: " ++ reason
  | .imageNotFound image => "image not found: " ++ image
  | .pullFailed reason => "pull failed: " ++ reason
  | .taskNotFound reason => "task not found: " ++ reason
  | .processNotFound reason => "process not found: " ++ reason
  | .execFailed reason => "exec failed: " ++ reason
  | .io reason => "I/O failed: " ++ reason
  | .runtime reason => "runtime error: " ++ reason

instance : Failure EngineError := ⟨EngineError.kind, EngineError.message⟩

/-- A user and a secret for an image registry. -/
structure Credentials where
  username : String
  password : String
  deriving DecidableEq, Repr

namespace Credentials

/-- Credentials count only when a user is named. -/
def ofParts (username password : String) : Option Credentials :=
  if username.isEmpty then none else some ⟨username, password⟩

/-- The secret is not shown. -/
def rendered (c : Credentials) : String :=
  "RegistryAuth \x7b username: " ++ Text.quoted c.username ++
    ", password: " ++ Text.quoted "<redacted>" ++ " \x7d"

end Credentials

/-- An image in the node's store. -/
structure PulledImage where
  /-- The name by which pods refer to it. -/
  name : String
  id : ImageId
  /-- Unpacked size in bytes. -/
  size : UInt64
  /-- Entries of the form name, equals sign, value. -/
  env : List String
  deriving DecidableEq, Repr

/-- A running container of one role. -/
structure RoleTask where
  id : ContainerId
  /-- The host's number for the container's first process. -/
  pid : UInt32
  deriving DecidableEq, Repr

/-- Tasks by role. -/
abbrev Tasks := Table RoleTask

/-- A user as an execution runs under it. -/
structure ExecutionUser where
  uid : UInt32
  gid : UInt32
  username : String
  deriving DecidableEq, Repr

structure ExecutionSpec where
  /-- The program and its arguments. -/
  args : List String
  env : List String
  cwd : String
  user : ExecutionUser
  /-- The bounding and inheritable capabilities. -/
  capabilities : List String
  deriving DecidableEq, Repr

structure ExitStatus where
  code : Int32
  /-- A failure that the runtime attached to the exit. -/
  error : Option String := none
  deriving DecidableEq, Repr

inductive Signal where
  | terminate | kill
  deriving DecidableEq, Repr

namespace Signal

def platformName : Signal → String
  | .terminate => "SIGTERM"
  | .kill => "SIGKILL"

def number : Signal → Nat
  | .terminate => 15
  | .kill => 9

end Signal

/-- Which of a caller's streams are given. -/
structure StreamsGiven where
  stdin : Bool := false
  stdout : Bool := false
  stderr : Bool := false
  deriving DecidableEq, Repr

def StreamsGiven.rendered (s : StreamsGiven) : String :=
  let word (b : Bool) : String := if b then "true" else "false"
  "ProcessIo \x7b stdin: " ++ word s.stdin ++ ", stdout: " ++ word s.stdout ++
    ", stderr: " ++ word s.stderr ++ " \x7d"

end SandboxPods
