import SandboxPods.Error

/-!
# Running a process once

A process runs in a role's task. Nothing happens until somebody first waits for
it; then one runner creates the process in the runtime, starts it, waits for it,
closes its streams and deletes it, and publishes one outcome that every waiter
gets. The streams are closed and the process is deleted also when it could not be
started or its end could not be learned. Whoever stops waiting changes nothing.

The environment of a process is a list of entries of the form name, equals sign,
value, and later entries win. The sandbox's own entries come first, then the
requested user, then a search path unless some entry sets one, then the entries of
the request.
-/
namespace SandboxPods

/-- How a run ended: its exit code, if it reported one, and what went wrong. -/
structure Outcome where
  code : Option Int32
  causes : Causes
  deriving DecidableEq, Repr

/-- Where the runner is; each stage but the last waits for one answer of the runtime. -/
inductive RunStage where
  | creating
  | starting
  | waiting
  | closing (outcome : Outcome)
  | deleting (outcome : Outcome)
  | finished (created : Bool) (outcome : Outcome)
  deriving DecidableEq, Repr

/-- What the runner asks of the runtime. -/
inductive RunAsk where
  | create | start | wait | closeStreams | delete
  deriving DecidableEq, Repr

/-- What the runtime answers. -/
inductive RunAnswer where
  | created (result : Except EngineError Unit)
  | started (result : Except EngineError Unit)
  | exited (result : Except EngineError ExitStatus)
  | closed (result : Except EngineError Unit)
  | deleted (result : Except EngineError Unit)

namespace RunStage

def ask? : RunStage → Option RunAsk
  | .creating => some .create
  | .starting => some .start
  | .waiting => some .wait
  | .closing _ => some .closeStreams
  | .deleting _ => some .delete
  | .finished .. => none

/-- The runtime holds, or held, the process. -/
def isCreated : RunStage → Bool
  | .creating => false
  | .finished created _ => created
  | _ => true

/-- The outcome as far as the process's exit decides it. -/
def exitOutcome : Except EngineError ExitStatus → Outcome
  | .ok status => ⟨some status.code, status.error.toList⟩
  | .error e => ⟨none, ["wait: " ++ e.message]⟩

/-- A failure to close adds a cause. -/
def closedOutcome (outcome : Outcome) : Except EngineError Unit → Outcome
  | .ok () => outcome
  | .error e => { outcome with causes := outcome.causes ++ ["close io: " ++ e.message] }

/-- The stage after an answer; an answer to nothing that was asked changes nothing. -/
def resume : RunStage → RunAnswer → RunStage
  | .creating, .created (.ok ()) => .starting
  | .creating, .created (.error e) => .finished false ⟨none, ["exec: " ++ e.message]⟩
  | .starting, .started (.ok ()) => .waiting
  | .starting, .started (.error e) => .closing ⟨none, ["start: " ++ e.message]⟩
  | .waiting, .exited result => .closing (exitOutcome result)
  | .closing outcome, .closed result => .deleting (closedOutcome outcome result)
  | .deleting outcome, .deleted _ => .finished true outcome
  | stage, _ => stage

/-- What waiters get once the run is over. -/
def outcome? : RunStage → Option Outcome
  | .finished _ outcome => some outcome
  | _ => none

end RunStage

structure Execution where
  id : ExecutionId
  role : String
  spec : ExecutionSpec
  /-- The running container that the process joins. -/
  task : RoleTask
  /-- None until somebody waits. -/
  run : Option RunStage := none
  deriving DecidableEq, Repr

namespace Execution

/-- Somebody waits; the first time, the runner sets out. -/
def awaited (e : Execution) : Execution :=
  match e.run with
  | none => { e with run := some .creating }
  | some _ => e

def resume (e : Execution) (answer : RunAnswer) : Execution :=
  { e with run := e.run.map (·.resume answer) }

def outcome? (e : Execution) : Option Outcome := e.run.bind RunStage.outcome?

/-- A clean exit gives its code; every other outcome is a failure. -/
def resultOf (id : ExecutionId) (outcome : Outcome) : Except LifecycleError Int32 :=
  match outcome with
  | ⟨some code, []⟩ => .ok code
  | ⟨code, causes⟩ => .error (.processFailed id.text code causes)

/-- What a waiter gets, once there is an outcome. -/
def result? (e : Execution) : Option (Except LifecycleError Int32) :=
  e.outcome?.map (resultOf e.id)

def isCreated (e : Execution) : Bool := e.run.any RunStage.isCreated

/-- Delivers a signal through the runtime's `kill` if there is a process to receive it. -/
def signal (e : Execution) (kill : ExecutionId → Except EngineError Unit) :
    Except LifecycleError Unit :=
  if e.isCreated then
    match kill e.id with
    | .ok () => .ok ()
    | .error cause => .error (.engine ("failed to signal process " ++ e.id.text) cause)
  else .error (.notStarted e.id.text)

def stateName (e : Execution) : String :=
  match e.run with
  | none => "built"
  | some stage =>
    match stage.outcome? with
    | none => "started"
    | some ⟨some _, []⟩ => "exited"
    | some _ => "failed"

/-- How the execution shows in a debugging text. -/
def rendered (e : Execution) : String :=
  "Process \x7b id: " ++ e.id.rendered ++ ", role: " ++ Text.quoted e.role ++ ", state: " ++
    Text.quoted e.stateName ++ " \x7d"

end Execution

/-! ## The environment of a process -/

namespace Environment

def rootPath : String := "/usr/local/sbin:/usr/local/bin:/usr/sbin:/usr/bin:/sbin:/bin"

def userPath : String := "/usr/local/bin:/usr/bin:/bin"

def isPath (entry : String) : Bool := "PATH=".toList.isPrefixOf entry.toList

/-- The entry for a user who was named. -/
def userEntries (user : String) : List String := if user.isEmpty then [] else ["USER=" ++ user]

/-- The search path of root or of anyone else, unless it is set. -/
def pathEntries (uid : UInt32) (others : List String) : List String :=
  if others.any isPath then [] else ["PATH=" ++ (if uid = 0 then rootPath else userPath)]

def ofParts (base : List String) (user : String) (uid : UInt32) (request : List String) :
    List String :=
  let own := base ++ userEntries user
  own ++ pathEntries uid (own ++ request) ++ request

end Environment
end SandboxPods
