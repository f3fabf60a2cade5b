import SandboxPods.Engine.Exchange
import SandboxPods.Image.Reference
import SandboxPods.Pod.Basic
import SandboxPods.Text.Percent

/-!
# Operations of the runtime

Images are pulled, measured and deleted; a pod's roles are resolved to running
containers by the identifiers in its status; processes are created in a container,
started, watched until they end, and signalled by their number on the host. A
number that is not positive is none. Numbers are taken in the width in which they
are used.
-/
namespace SandboxPods.Runtime
open Json

/-- Sixty-four signed bits. -/
def word : Value → Option Int := integer (-9223372036854775808) 9223372036854775807

def ping : RuntimeDialogue Bool :=
  .send { method := "GET", path := "/_ping" } (fun reply => .done reply.accept.toOption.isSome)

/-! ## Images -/

/-- What one line of a pull's progress reports as its failure. -/
def progressFailure? (line : List Char) : Option (Except RuntimeFault Unit) :=
  if line.all Text.isBlank then none
  else match Json.readText? (String.ofList line) with
    | none => some (.error RuntimeReply.undecoded)
    | some v =>
      let reported := do
        let f ← fields ["errorDetail"] v
        match ← f.optional "errorDetail" (fields ["code", "message"]) with
        | some detail => detail.optional "message" text
        | none => some none
      match reported with
      | none => some (.error RuntimeReply.undecoded)
      | some reason => reason.map (fun r => .error (.stream r))

/-- The progress of a pull holds no failure. -/
def finishPull (reply : RuntimeReply) : Except RuntimeFault Unit := do
  let body ← reply.accept
  match (Text.splitAll '\n' (Utf8.decodeLenient body)).findSome? progressFailure? with
  | some failure => failure
  | none => .ok ()

structure ImageDetails where
  id : Option String
  size : Option Int
  env : List String

def imageDetails (v : Value) : Option ImageDetails := do
  let f ← fields ["Id", "Size", "Config"] v
  let config ← f.optional "Config" (fields ["Env"])
  let env ← match config with
    | some c => c.optional "Env" (listOf text)
    | none => some none
  return { id := ← f.optional "Id" text, size := ← f.optional "Size" word, env := env.getD [] }

/-- The image under its qualified name; an image without an identifier is a fault. -/
def pulledImage (name : String) (d : ImageDetails) : Except EngineError PulledImage :=
  match d.id with
  | none => .error (.runtime (name ++ " has no image id"))
  | some id =>
    .ok { name, id := ⟨id⟩, size := UInt64.ofNat (d.size.getD 0).toNat, env := d.env }

def pull (reference : ImageReference) (credentials : Option Credentials) :
    RuntimeDialogue (Except EngineError PulledImage) :=
  let name := reference.qualified
  let create : RuntimeRequest := {
    method := "POST"
    path := "/images/create?fromImage=" ++ String.ofList (Percent.encodeForm name) ++ "&platform="
    login := credentials.map (⟨·, reference.registry⟩) }
  let inspect : RuntimeRequest := { method := "GET", path := "/images/" ++ name ++ "/json" }
  let progress := RuntimeDialogue.request create finishPull (RuntimeFault.ofPull name)
  let details :=
    RuntimeDialogue.request inspect (RuntimeReply.read imageDetails) (RuntimeFault.ofImage name)
  progress.andThen (fun _ => details.andThen (fun d => .done (pulledImage name d)))

def deleteImage (id : ImageId) : RuntimeDialogue (Except EngineError Unit) :=
  .request { method := "DELETE", path := "/images/" ++ id.text ++ "?force=true&noprune=false" }
    (RuntimeReply.read (fun v => (listOf some v).map (fun _ => ()))) (RuntimeFault.ofImage id.text)

/-! ## Tasks -/

/-- An identifier without the runtime's scheme. -/
def bareId (id : String) : String :=
  match cut id.toList with
  | some rest => String.ofList rest
  | none => id
where
  cut : List Char → Option (List Char)
    | [] => none
    | ':' :: '/' :: '/' :: rest => some rest
    | _ :: rest => cut rest

/-- The host's number of a container's first process. -/
def containerPid (v : Value) : Option (Option Int) := do
  let f ← fields ["State"] v
  let state ← f.optional "State" (fields ["Pid"])
  match state with
  | some s => s.optional "Pid" word
  | none => some none

/-- A positive number, as far as thirty-two bits hold it. -/
def taskOf (id : String) (pid : Option Int) : Except EngineError RoleTask :=
  match pid.filter (0 < ·) with
  | some n => .ok { id := ⟨id⟩, pid := UInt32.ofNat n.toNat }
  | none => .error (.taskNotFound (id ++ " is not running"))

def loadTask (id : String) : RuntimeDialogue (Except EngineError RoleTask) :=
  (RuntimeDialogue.request { method := "GET", path := "/containers/" ++ id ++ "/json" }
    (RuntimeReply.read containerPid) RuntimeFault.ofTask).andThen (fun pid => .done (taskOf id pid))

/-- The tasks of the statuses that carry an identifier, by role. -/
def loadTasks (tasks : Tasks) : List ContainerStatus → RuntimeDialogue (Except EngineError Tasks)
  | [] => .done (.ok tasks)
  | status :: rest =>
    match status.containerId with
    | none => loadTasks tasks rest
    | some id =>
      (loadTask (bareId id)).andThen (fun task => loadTasks (tasks.insert status.name task) rest)

/-! ## Processes -/

/-- A process as the runtime knows it. -/
structure Instance where
  id : ExecutionId
  /-- The runtime's own name for it. -/
  name : String
  deriving DecidableEq, Repr

def creation (spec : ExecutionSpec) (stdin : Bool) : Value := .object [
  ("AttachStdin", .bool stdin),
  ("AttachStdout", .bool true),
  ("AttachStderr", .bool true),
  ("Tty", .bool false),
  ("Env", ofStrings spec.env),
  ("Cmd", ofStrings spec.args),
  ("Privileged", .bool false),
  ("User", .string (toString spec.user.uid.toNat ++ ":" ++ toString spec.user.gid.toNat)),
  ("WorkingDir", .string spec.cwd)]

def create (task : RoleTask) (id : ExecutionId) (spec : ExecutionSpec) (stdin : Bool) :
    RuntimeDialogue (Except EngineError Instance) :=
  (RuntimeDialogue.request
    { method := "POST", path := "/containers/" ++ task.id.text ++ "/exec"
      body := some (creation spec stdin) }
    (RuntimeReply.read (fun v => (fields ["Id"] v).bind (·.required "Id" text)))
    RuntimeFault.ofTask).andThen (fun name => .done (.ok ⟨id, name⟩))

def startPath (i : Instance) : String := "/exec/" ++ i.name ++ "/start"

/-- Starts the process; the connection becomes its streams. -/
def start (i : Instance) :
    RuntimeDialogue (Except EngineError (List Bridge.Frame × Option String)) :=
  .request
    { method := "POST", path := startPath i
      body := some (.object [("Detach", .bool false), ("OutputCapacity", .null),
        ("Tty", .bool false)]) }
    RuntimeReply.stream RuntimeFault.ofExecution

structure Inspection where
  running : Bool
  exitCode : Option Int
  pid : Option Int
  deriving DecidableEq, Repr

def inspection (v : Value) : Option Inspection := do
  let f ← fields ["Running", "ExitCode", "Pid"] v
  return {
    running := (← f.optional "Running" boolean).getD false
    exitCode := ← f.optional "ExitCode" word
    pid := ← f.optional "Pid" word }

def inspect (i : Instance) : RuntimeDialogue (Except EngineError Inspection) :=
  .request { method := "GET", path := "/exec/" ++ i.name ++ "/json" }
    (RuntimeReply.read inspection) RuntimeFault.ofExecution

/-- The exit of a process that runs no more; one that has not begun has no code either. -/
def Inspection.exit? (d : Inspection) : Option ExitStatus :=
  if d.running then none else d.exitCode.map (fun code => { code := Int32.ofInt code })

/-- One look at the process, to be repeated until it has exited. -/
def pollExit (i : Instance) : RuntimeDialogue (Except EngineError (Option ExitStatus)) :=
  (inspect i).andThen (fun d => .done (.ok d.exit?))

/-- The number to which a signal is sent. -/
def hostPid (i : Instance) (d : Inspection) : Except EngineError Int32 :=
  match d.pid.filter (0 < ·) with
  | some n => .ok (Int32.ofInt n)
  | none => .error (.processNotFound i.id.text)

/-- Sends a signal; `deliver` answers the host's failure, if any. -/
def signal (i : Instance) (deliver : Int32 → Option String) :
    RuntimeDialogue (Except EngineError Unit) :=
  (inspect i).andThen (fun d => .done (do
    let pid ← hostPid i d
    match deliver pid with
    | none => .ok ()
    | some reason => .error (.runtime ("failed to signal " ++ i.id.text ++ ": " ++ reason))))

end SandboxPods.Runtime
