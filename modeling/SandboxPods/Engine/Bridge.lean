import SandboxPods.Engine.Basic

/-!
# Bridging a process's streams

The caller's input is fed to the process while the process's output is dealt out
to the caller's writers; the bridge is done when both are. Output goes through a
buffer that is passed on when it is full and when the output has ended; a failure
ends the output at once, and what the buffers still hold is lost. Console output
goes where standard output goes, and echoed input goes nowhere.

What a bridge comes to is given for a process that takes all of its input. A
process that refuses some of it ends the feeding there, whatever the caller's input
does afterwards, and changes nothing in the output.
-/
namespace SandboxPods.Bridge

abbrev Bytes := List UInt8

/-- One piece of a process's output stream. -/
inductive Frame where
  | input (data : Bytes)
  | output (data : Bytes)
  | errors (data : Bytes)
  | console (data : Bytes)
  deriving DecidableEq, Repr

/-- The piece of a numbered stream; output without a number is a console's. -/
def Frame.ofStream : Option Int → Bytes → Frame
  | some 0, data => .input data
  | some 1, data => .output data
  | some 2, data => .errors data
  | _, data => .console data

/-- How the caller's input goes after its data. -/
inductive InputEnd where
  | closed
  | failed
  /-- Neither data nor an end. -/
  | silent
  deriving DecidableEq, Repr

/-- A caller's writer behind a buffer. -/
structure Writer where
  /-- What the caller has received. -/
  received : Bytes := []
  buffer : Bytes := []
  /-- The failure of every write to the caller. -/
  failure : Option String := none
  deriving DecidableEq, Repr

namespace Writer

def capacity : Nat := 8192

/-- Hands bytes to the caller. -/
def deliver (w : Writer) (data : Bytes) : Except EngineError Writer :=
  if data.isEmpty then .ok w
  else match w.failure with
    | some reason => .error (.io reason)
    | none => .ok { w with received := w.received ++ data }

/-- Hands the buffer to the caller. -/
def flush (w : Writer) : Except EngineError Writer := do
  let w ← w.deliver w.buffer
  return { w with buffer := [] }

/-- Keeps small data in the buffer and passes large data by it. -/
def write (w : Writer) (data : Bytes) : Except EngineError Writer := do
  let w ← if capacity < w.buffer.length + data.length then w.flush else .ok w
  if capacity ≤ data.length then w.deliver data
  else return { w with buffer := w.buffer ++ data }

end Writer

/-- The caller's writers, as far as there are any. -/
structure Writers where
  output : Option Writer := none
  errors : Option Writer := none
  deriving DecidableEq, Repr

/-- The caller's input. -/
structure Input where
  data : Bytes := []
  ending : InputEnd := .closed
  deriving DecidableEq, Repr

/-- The writers after some work and the failure that ended it, if one did. -/
abbrev Progress := Writers × Except EngineError Unit

/-- Writes through one writer; the writer stays as it was when that fails. -/
def through (w : Option Writer) (f : Writer → Except EngineError Writer) :
    Option Writer × Except EngineError Unit :=
  match w with
  | none => (none, .ok ())
  | some w =>
    match f w with
    | .ok w => (some w, .ok ())
    | .error e => (some w, .error e)

def toOutput (ws : Writers) (f : Writer → Except EngineError Writer) : Progress :=
  let (w, r) := through ws.output f
  ({ ws with output := w }, r)

def toErrors (ws : Writers) (f : Writer → Except EngineError Writer) : Progress :=
  let (w, r) := through ws.errors f
  ({ ws with errors := w }, r)

def dealFrame (ws : Writers) : Frame → Progress
  | .output data | .console data => toOutput ws (·.write data)
  | .errors data => toErrors ws (·.write data)
  | .input _ => (ws, .ok ())

/-- Passes on what the buffers hold, standard output first. -/
def flushAll (ws : Writers) : Progress :=
  match toOutput ws Writer.flush with
  | (ws, .ok ()) => toErrors ws Writer.flush
  | failed => failed

/-- Deals out the output up to its end, which is a failure when a reason is given. -/
def deal (ending : Option String) (ws : Writers) : List Frame → Progress
  | [] =>
    match ending with
    | some reason => (ws, .error (.io reason))
    | none => flushAll ws
  | frame :: rest =>
    match dealFrame ws frame with
    | (ws, .ok ()) => deal ending ws rest
    | failed => failed

/-- What a bridge came to. -/
structure Result where
  progress : Progress
  /-- Whether both directions end, when the process takes all of its input. -/
  complete : Bool

/-- The whole bridge of a process that takes all of its input. Without an input the process's own
is closed at once. -/
def run (input : Option Input) (ending : Option String) (ws : Writers) (frames : List Frame) :
    Result where
  progress := deal ending ws frames
  complete := input.all (fun i => decide (i.ending ≠ .silent))

end SandboxPods.Bridge
