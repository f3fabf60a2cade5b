import SandboxPods.Engine.Operations

/-!
# Processes with their streams

A created process keeps the caller's streams until it is started; starting it
gives them to a bridge, also when the start fails, so a process is started at most
once. Closing waits for the bridge and reports what became of it, and a process
without a bridge has nothing to close. Deleting only lets go of the bridge, because
the runtime disposes of finished processes itself.
-/
namespace SandboxPods
open Bridge

structure Attached where
  process : Runtime.Instance
  /-- The caller's input, if there is one. -/
  input : Option Input := none
  /-- The caller's writers as they are now. -/
  writers : Writers := {}
  /-- The streams are gone from here. -/
  started : Bool := false
  /-- The bridge that has not been closed. -/
  bridge : Option Result := none

namespace Attached

def startedTwice (p : Attached) : EngineError :=
  .execFailed (p.process.id.text ++ " already started")

/-- The process with its streams handed to a bridge. -/
def bridged (p : Attached) (frames : List Frame) (ending : Option String) : Attached :=
  let result := Bridge.run p.input ending p.writers frames
  { p with started := true, writers := result.progress.1, bridge := some result }

def start (p : Attached) : RuntimeDialogue (Attached × Except EngineError Unit) :=
  if p.started then .done (p, .error p.startedTwice)
  else (Runtime.start p.process).bind (fun
    | .ok (frames, ending) => .done (p.bridged frames ending, .ok ())
    | .error e => .done ({ p with started := true }, .error e))

/-- The result of closing the streams of a process that takes all of its input; none when that
never comes to an end. -/
def closing? (p : Attached) : Option (Except EngineError Unit) :=
  match p.bridge with
  | none => some (.ok ())
  | some result => if result.complete then some result.progress.2 else none

/-- The process once its streams are closed, or let go of. -/
def closed (p : Attached) : Attached := { p with bridge := none }

end Attached
end SandboxPods
