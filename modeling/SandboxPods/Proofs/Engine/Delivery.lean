import Mathlib.Data.List.Induction
import SandboxPods.Engine.Bridge

/-!
# What the caller's writers receive

Each stream of the output is a sequence of pieces. A writer that does not fail takes
every piece in order, and what it has not yet handed on is in its buffer. When the
output ends, the buffers are handed on and nothing is missing. When the output fails,
they are not, and what is missing is what the last pieces left in them. A stream whose
last piece is too large for the buffer is the only one that loses nothing then.
-/
namespace SandboxPods.Bridge

/-! ## One writer -/

/-- What a buffer holds after another piece. -/
def pending (buffer data : Bytes) : Bytes :=
  if Writer.capacity ≤ data.length then []
  else if Writer.capacity < buffer.length + data.length then data
  else buffer ++ data

/-- What of a buffer with another piece has been handed on. -/
def passed (buffer data : Bytes) : Bytes :=
  if Writer.capacity ≤ data.length then buffer ++ data
  else if Writer.capacity < buffer.length + data.length then buffer
  else []

theorem passed_append_pending (buffer data : Bytes) :
    passed buffer data ++ pending buffer data = buffer ++ data := by
  unfold passed pending
  split
  · exact List.append_nil _
  · split
    · rfl
    · rfl

theorem length_pending {buffer : Bytes} (data : Bytes) :
    (pending buffer data).length ≤ Writer.capacity := by
  unfold pending
  split
  · exact Nat.zero_le _
  · rename_i small
    split
    · exact Nat.le_of_not_le small
    · rename_i fits
      rw [List.length_append]
      exact Nat.le_of_not_lt fits

/-- A piece that is not empty leaves the buffer empty just when it is too large for it. -/
theorem pending_eq_nil {buffer data : Bytes} (something : data ≠ []) :
    pending buffer data = [] ↔ Writer.capacity ≤ data.length := by
  unfold pending
  split
  · rename_i large
    exact ⟨fun _ => large, fun _ => rfl⟩
  · rename_i small
    split
    · exact ⟨fun none => (something none).elim, fun large => (small large).elim⟩
    · exact ⟨fun none => (something (List.append_eq_nil_iff.1 none).2).elim,
        fun large => (small large).elim⟩

theorem pending_nil {buffer : Bytes} (bounded : buffer.length ≤ Writer.capacity) :
    pending buffer [] = buffer := by
  have small : ¬ Writer.capacity ≤ ([] : Bytes).length := by decide
  have fits : ¬ Writer.capacity < buffer.length + ([] : Bytes).length := Nat.not_lt.2 bounded
  rw [pending, if_neg small, if_neg fits, List.append_nil]

namespace Writer
variable {w : Writer}

/-- The writer with another piece. -/
def wrote (w : Writer) (data : Bytes) : Writer :=
  { w with received := w.received ++ passed w.buffer data, buffer := pending w.buffer data }

/-- The writer with its buffer handed on. -/
def flushed (w : Writer) : Writer := { w with received := w.received ++ w.buffer, buffer := [] }

/-- The writer with all pieces of a stream. -/
def took (w : Writer) (pieces : List Bytes) : Writer := pieces.foldl wrote w

theorem took_spec (w : Writer) (pieces : List Bytes) :
    (w.took pieces).failure = w.failure ∧
      (w.took pieces).buffer = pieces.foldl pending w.buffer ∧
      (w.took pieces).received ++ (w.took pieces).buffer =
        w.received ++ (w.buffer ++ pieces.flatten) := by
  induction pieces generalizing w with
  | nil => exact ⟨rfl, rfl, by rw [took, List.foldl_nil, List.flatten_nil, List.append_nil]⟩
  | cons data rest ih =>
      obtain ⟨failure, buffer, all⟩ := ih (w.wrote data)
      refine ⟨failure, buffer, all.trans ?_⟩
      have split : (w.wrote data).received ++ (w.wrote data).buffer =
          w.received ++ (w.buffer ++ data) := by
        rw [← passed_append_pending w.buffer data]
        exact List.append_assoc ..
      rw [← List.append_assoc, split, List.flatten_cons, List.append_assoc, List.append_assoc]

end Writer

/-! ## Both streams -/

namespace Writers
variable {ws : Writers}

/-- No writer fails. -/
structure Work (ws : Writers) : Prop where
  output : ∀ w, ws.output = some w → w.failure = none
  errors : ∀ w, ws.errors = some w → w.failure = none

/-- The writers with the pieces of their streams. -/
def took (ws : Writers) (output errors : List Bytes) : Writers :=
  ⟨ws.output.map (·.took output), ws.errors.map (·.took errors)⟩

def flushed (ws : Writers) : Writers :=
  ⟨ws.output.map (·.flushed), ws.errors.map (·.flushed)⟩

theorem Work.took (h : ws.Work) (output errors : List Bytes) : (ws.took output errors).Work := by
  constructor
  · intro w found
    obtain ⟨before, here, rfl⟩ := Option.map_eq_some_iff.1 found
    exact (before.took_spec output).1.trans (h.output before here)
  · intro w found
    obtain ⟨before, here, rfl⟩ := Option.map_eq_some_iff.1 found
    exact (before.took_spec errors).1.trans (h.errors before here)

end Writers

variable {ws : Writers}

/-- What an output with this ending comes to. -/
def outcome (ending : Option String) : Except EngineError Unit :=
  ending.elim (.ok ()) (fun reason => .error (.io reason))

/-- The writer when all pieces of its stream have been dealt to it. Only the end of the output
hands on its buffer. -/
def Writer.dealt (w : Writer) (ending : Option String) (pieces : List Bytes) : Writer :=
  if ending = none then (w.took pieces).flushed else w.took pieces

/-- What the pieces of a stream leave in a buffer. -/
def lost (pieces : List Bytes) : Bytes := pieces.foldl pending []

theorem length_lost (pieces : List Bytes) : (lost pieces).length ≤ Writer.capacity := by
  induction pieces using List.reverseRecOn with
  | nil => exact Nat.zero_le _
  | append_singleton before data _ =>
      rw [lost, List.foldl_append]
      exact length_pending data

/-- The last piece with anything in it is too large for the buffer. -/
def LargeLast (pieces : List Bytes) : Prop :=
  ∀ last, (pieces.filter (· ≠ [])).getLast? = some last → Writer.capacity ≤ last.length

theorem lost_eq_nil (pieces : List Bytes) : lost pieces = [] ↔ LargeLast pieces := by
  unfold LargeLast
  induction pieces using List.reverseRecOn with
  | nil => exact ⟨fun _ last found => (nomatch found), fun _ => rfl⟩
  | append_singleton before data ih =>
      have step : lost (before ++ [data]) = pending (lost before) data := by
        rw [lost, List.foldl_append]
        rfl
      rw [step]
      by_cases something : data = []
      · subst something
        rw [pending_nil (length_lost before), ih, List.filter_append]
        simp
      · rw [pending_eq_nil something, List.filter_append]
        simp [something]

/-- The writers of a caller who has received nothing so far. -/
def Writers.attached (output errors : Bool) : Writers :=
  ⟨if output then some {} else none, if errors then some {} else none⟩

/-- What has become of a stream's pieces at a writer, which is there or not. -/
structure Delivered (ending : Option String) (there : Bool) (pieces : List Bytes)
    (w : Option Writer) : Prop where
  isSome : w.isSome = there
  /-- Nothing is missing when the output has ended. -/
  whole : ending = none → ∀ v, w = some v → v.received = pieces.flatten
  /-- When it has failed, what the last pieces have left in the buffer is missing at the end. -/
  cut : ending ≠ none → ∀ v, w = some v → v.received ++ lost pieces = pieces.flatten
  /-- This is nothing only if the last piece has passed the buffer by. -/
  spared : ending ≠ none → ∀ v, w = some v → (v.received = pieces.flatten ↔ LargeLast pieces)

theorem delivered (ending : Option String) (there : Bool) (pieces : List Bytes) :
    Delivered ending there pieces
      ((if there then some ({} : Writer) else none).map (·.dealt ending pieces)) := by
  obtain ⟨-, buffer, all⟩ := Writer.took_spec {} pieces
  have cut (failed : ending ≠ none) : ∀ v,
      (if there then some ({} : Writer) else none).map (·.dealt ending pieces) = some v →
        v.received ++ lost pieces = pieces.flatten := by
    intro v found
    cases there <;> cases found
    simp only [Writer.dealt, if_neg failed]
    rw [lost, ← buffer]
    exact all
  refine ⟨by cases there <;> rfl, fun ended v found => ?_, cut, fun failed v found => ?_⟩
  · cases there <;> cases found
    simp only [Writer.dealt, if_pos ended]
    exact all
  · rw [← lost_eq_nil, ← cut failed v found]
    exact List.self_eq_append_right

end SandboxPods.Bridge
