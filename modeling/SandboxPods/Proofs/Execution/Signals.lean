import Mathlib.Data.List.Induction
import SandboxPods.Dialogue
import SandboxPods.Proofs.Execution.SharedRun

/-!
# Signals beside a run

A signal looks into a cell which the runner fills when it is told that the process was made.
Those who wait look at the state of the run, which is set out earlier and ended later. Signals are
sent and answered among waits that come and go and the steps of the runner, in any order. From the
moment the process is made every signal goes to it, once, also when it has ended or is
deleted. Before that moment, and for good where the process could not be made, a signal goes
nowhere.
-/
namespace SandboxPods

/-- What the runtime replies to the runner; a process that was made comes with the reply. -/
inductive RunReply (π : Type) where
  | created (result : Except EngineError π)
  | started (result : Except EngineError Unit)
  | exited (result : Except EngineError ExitStatus)
  | closed (result : Except EngineError Unit)
  | deleted (result : Except EngineError Unit)

namespace RunReply
variable {π : Type}

/-- The reply without the process. -/
def answer : RunReply π → RunAnswer
  | .created result => .created (result.map fun _ => ())
  | .started result => .started result
  | .exited result => .exited result
  | .closed result => .closed result
  | .deleted result => .deleted result

end RunReply

/-- A signal on its way: it may ask the runtime to kill a process with it. -/
abbrev SignalCall (π : Type) : Type :=
  Dialogue (π × Signal) (Except EngineError Unit) (Except LifecycleError Unit)

namespace SignalCall
variable {π : Type}

/-- What the call asks of the runtime first. -/
def asked? : SignalCall π → Option (π × Signal)
  | .done _ => none
  | .send question _ => some question

/-- The call goes on with a reply, if it waits for one. -/
def tell (reply : Except EngineError Unit) : SignalCall π → SignalCall π
  | .done result => .done result
  | .send _ next => next reply

end SignalCall

namespace Execution
variable {π : Type}

/-- What the sender of a signal learns from the runtime's reply. -/
def signalResult (id : ExecutionId) : Except EngineError Unit → Except LifecycleError Unit
  | .ok () => .ok ()
  | .error cause => .error (.engine ("failed to signal process " ++ id.text) cause)

/-- Sends a signal to the process in the cell. -/
def signalling (id : ExecutionId) (process? : Option π) (signal : Signal) : SignalCall π :=
  match process? with
  | none => .done (.error (.notStarted id.text))
  | some process => .send (process, signal) fun reply => .done (signalResult id reply)

/-- Held with a runtime that gives the reply, it is the delivery of a signal, if the cell tells
whether there is a process. -/
theorem hold_signalling {e : Execution} {process? : Option π} (signal : Signal)
    (cell : process?.isSome = e.isCreated) (reply : Except EngineError Unit) :
    (signalling e.id process? signal).hold (m := Id) (fun _ => reply) =
      e.signal fun _ => reply := by
  unfold Execution.signal
  cases process? with
  | none =>
      have uncreated : e.isCreated = false := cell.symm
      rw [uncreated]
      rfl
  | some process =>
      have created : e.isCreated = true := cell.symm
      rw [created]
      cases reply <;> rfl

end Execution

namespace Runner
variable {ι : Type} {r : Runner ι} {reply : RunAnswer}

/-- The runner has asked for the process and has no answer yet. -/
def IsCreating (r : Runner ι) : Prop := r.question? = some .create ∧ r.pending = true

instance : Decidable r.IsCreating := inferInstanceAs (Decidable (_ ∧ _))

/-- The runner knows what became of the creation. -/
def Past (r : Runner ι) : Prop := ∃ stage, r.execution.run = some stage ∧ stage ≠ .creating

theorem IsCreating.run (h : r.IsCreating) : r.execution.run = some .creating := by
  obtain ⟨stage, here, due⟩ := exists_stage h.1
  cases stage with
  | creating => exact here
  | _ => cases due

theorem Past.not_isCreating (h : r.Past) : ¬ r.IsCreating := by
  obtain ⟨stage, here, ne⟩ := h
  exact fun creating => ne (Option.some.inj (here.symm.trans creating.run))

/-- Once created the process counts as created for good, and so does one that was not. -/
theorem resume_of_ne {stage : RunStage} (ne : stage ≠ .creating) (reply : RunAnswer) :
    (stage.resume reply).isCreated = stage.isCreated ∧ stage.resume reply ≠ .creating := by
  fun_cases RunStage.resume stage reply <;> simp_all [RunStage.isCreated]

end Runner

/-! ## Everybody together -/

/-- A run with its waits, the cell for the process, and the signals that were ever sent. -/
structure SignalledRun (ι π : Type) where
  shared : SharedRun ι
  process? : Option π := none
  signals : List (SignalCall π) := []
  /-- What the runtime was asked to kill. -/
  kills : List (π × Signal) := []

namespace SignalledRun
variable {ι π : Type}

inductive Move (π : Type) where
  | wait
  | drop (i : Nat)
  | learn (i : Nat)
  | ask
  | reply (reply : RunReply π)
  | lose
  | signal (signal : Signal)
  /-- The runtime replies to a signal. -/
  | delivered (i : Nat) (reply : Except EngineError Unit)

namespace Move

/-- The move as far as the run and its waits are concerned. -/
def shared? : Move π → Option SharedRun.Move
  | .wait => some .wait
  | .drop i => some (.drop i)
  | .learn i => some (.learn i)
  | .ask => some .ask
  | .reply given => some (.answer given.answer)
  | .lose => some .lose
  | .signal _ | .delivered .. => none

def signal? : Move π → Option Signal
  | .signal sent => some sent
  | _ => none

end Move

/-- The cell when the runner has been given the reply. -/
def filled (s : SignalledRun ι π) : RunReply π → Option π
  | .created (.ok process) => if s.shared.runner.IsCreating then some process else s.process?
  | _ => s.process?

def call (s : SignalledRun ι π) (signal : Signal) : SignalCall π :=
  Execution.signalling s.shared.runner.execution.id s.process? signal

def step (s : SignalledRun ι π) : Move π → SignalledRun ι π
  | .wait => { s with shared := s.shared.step .wait }
  | .drop i => { s with shared := s.shared.step (.drop i) }
  | .learn i => { s with shared := s.shared.step (.learn i) }
  | .ask => { s with shared := s.shared.step .ask }
  | .reply reply =>
    { s with shared := s.shared.step (.answer reply.answer), process? := s.filled reply }
  | .lose => { s with shared := s.shared.step .lose }
  | .signal signal =>
    { s with
      signals := s.signals ++ [s.call signal], kills := s.kills ++ (s.call signal).asked?.toList }
  | .delivered i reply => { s with signals := s.signals.modify i (.tell reply) }

def after (s : SignalledRun ι π) (moves : List (Move π)) : SignalledRun ι π := moves.foldl step s

/-- An execution that nobody has waited for and that was sent no signal. -/
def fresh (id : ExecutionId) (role : String) (spec : ExecutionSpec) (task : RoleTask)
    (streams : ι) : SignalledRun ι π where
  shared := .fresh id role spec task streams

/-- The creation of the process has returned with the result to the runner, which had asked
for it. -/
def Returned (start : SignalledRun ι π) (moves : List (Move π)) (result : Except EngineError π) :
    Prop :=
  ∃ before later, moves = before ++ .reply (.created result) :: later ∧
    (start.after before).shared.runner.IsCreating

variable {s start : SignalledRun ι π} {m : Move π} {moves before later more : List (Move π)}
variable {process : π} {result : Except EngineError π}

theorem after_append (s : SignalledRun ι π) (moves more : List (Move π)) :
    s.after (moves ++ more) = (s.after moves).after more := List.foldl_append ..

theorem after_concat (s : SignalledRun ι π) (moves : List (Move π)) (m : Move π) :
    s.after (moves ++ [m]) = (s.after moves).step m := after_append ..

/-- What is kept by every move is kept by all of them. -/
theorem after_invariant {P : SignalledRun ι π → Prop} (start : P s)
    (keeps : ∀ s m, P s → P (s.step m)) (moves : List (Move π)) : P (s.after moves) := by
  induction moves generalizing s with
  | nil => exact start
  | cons m rest ih => exact ih (keeps s m start)

theorem shared_step (s : SignalledRun ι π) (m : Move π) :
    (s.step m).shared = s.shared.after m.shared?.toList := by
  cases m <;> rfl

/-- The run and its waits take no notice of signals. -/
theorem shared_after (s : SignalledRun ι π) (moves : List (Move π)) :
    (s.after moves).shared = s.shared.after (moves.filterMap Move.shared?) := by
  induction moves generalizing s with
  | nil => rfl
  | cons m rest ih =>
      have first := ih (s.step m)
      rw [shared_step, ← SharedRun.after_append] at first
      refine first.trans ?_
      cases shared : m.shared? with
      | none => simp [shared]
      | some move => simp [shared]

theorem Returned.append (h : Returned start moves result) (more : List (Move π)) :
    Returned start (moves ++ more) result := by
  obtain ⟨before, later, rfl, asked⟩ := h
  exact ⟨before, later ++ more, by simp, asked⟩

/-! ## The creation -/

section
variable {t : SharedRun ι} {shift : SharedRun.Move}

/-- What may become of an execution in one move. -/
inductive Shifted (r : Runner ι) (shift : SharedRun.Move) : Execution → Prop
  | still : Shifted r shift r.execution
  | begun : r.execution.run = none → Shifted r shift { r.execution with run := some .creating }
  | told {ask : RunAsk} {reply : RunAnswer} : shift = .answer reply → r.question? = some ask →
      r.pending = true → ask.admits reply = true → Shifted r shift (r.execution.resume reply)

theorem shifted (t : SharedRun ι) (shift : SharedRun.Move) :
    Shifted t.runner shift (t.step shift).runner.execution := by
  have still {r : Runner ι} (same : r.execution = t.runner.execution) :
      Shifted t.runner shift r.execution := same ▸ .still
  cases shift with
  | wait =>
      cases running : t.runner.execution.run with
      | none =>
          have begun : (t.step .wait).runner.execution =
              { t.runner.execution with run := some .creating } := by
            simp [SharedRun.step, Runner.await, Execution.awaited, running]
          exact begun ▸ .begun running
      | some stage => exact still (by simp [SharedRun.step, Runner.await, running])
  | drop i => exact .still
  | learn i => exact .still
  | signal kill => exact .still
  | ask =>
      change Shifted t.runner .ask t.runner.ask.execution
      unfold Runner.ask
      split
      · split <;> exact .still
      · exact .still
  | lose =>
      change Shifted t.runner .lose t.runner.lose.execution
      unfold Runner.lose
      split <;> exact .still
  | answer reply =>
      change Shifted t.runner (.answer reply) (t.runner.answer reply).execution
      unfold Runner.answer
      split
      · rename_i ask due
        split
        · rename_i fits
          obtain ⟨pending, admits⟩ := Bool.and_eq_true_iff.1 fits
          exact .told rfl due pending admits
        · exact .still
      · exact .still

/-- What became of the creation stays so. -/
theorem past_step (past : t.runner.Past) (shift : SharedRun.Move) :
    (t.step shift).runner.Past ∧
      (t.step shift).runner.execution.isCreated = t.runner.execution.isCreated := by
  obtain ⟨stage, running, ne⟩ := past
  have shift := shifted t shift
  unfold Runner.Past
  generalize (t.step _).runner.execution = e at *
  cases shift with
  | still => exact ⟨⟨stage, running, ne⟩, rfl⟩
  | begun idle => cases idle.symm.trans running
  | @told ask reply =>
      obtain ⟨created, stays⟩ := Runner.resume_of_ne ne reply
      refine ⟨⟨stage.resume reply, ?_, stays⟩, ?_⟩
      · simp [Execution.resume, running]
      · simp [Execution.resume, Execution.isCreated, running, created]

/-- Before the creation has returned there is no process. -/
theorem isCreated_of_not_past {r : Runner ι} (early : ¬ r.Past) :
    r.execution.isCreated = false := by
  cases running : r.execution.run with
  | none => simp [Execution.isCreated, running]
  | some stage =>
      by_cases first : stage = .creating
      · simp [Execution.isCreated, running, first, RunStage.isCreated]
      · exact (early ⟨stage, running, first⟩).elim

/-- The answer to the creation brings the run past it. -/
theorem created_step (asked : t.runner.IsCreating) (result : Except EngineError Unit) :
    (t.step (.answer (.created result))).runner.Past ∧
      (t.step (.answer (.created result))).runner.execution.isCreated = result.isOk := by
  obtain ⟨due, pending⟩ := asked
  have running := Runner.IsCreating.run ⟨due, pending⟩
  have told : (t.step (.answer (.created result))).runner.execution.run =
      some (RunStage.creating.resume (.created result)) := by
    simp [SharedRun.step, Runner.answer, due, pending, RunAsk.admits, Execution.resume, running]
  have later : RunStage.creating.resume (.created result) ≠ .creating := by
    cases result <;> simp [RunStage.resume]
  refine ⟨⟨_, told, later⟩, ?_⟩
  rw [Execution.isCreated, told]
  cases result <;> rfl

/-- Any other move leaves a run that is not past the creation where it is. -/
theorem not_past_step (early : ¬ t.runner.Past)
    (other : ∀ result, shift = .answer (.created result) → ¬ t.runner.IsCreating) :
    ¬ (t.step shift).runner.Past := by
  have moved := shifted t shift
  unfold Runner.Past
  generalize (t.step shift).runner.execution = e at *
  cases moved with
  | still => exact early
  | begun idle =>
      rintro ⟨stage, begun, ne⟩
      exact ne (Option.some.inj begun).symm
  | @told ask reply move due pending admits =>
      intro past
      by_cases first : ask = .create
      · subst first
        cases reply with
        | created result => exact other result move ⟨due, pending⟩
        | _ => cases admits
      -- Whoever asks anything else is past the creation already.
      · obtain ⟨stage, here, asks⟩ := Runner.exists_stage due
        have later : stage ≠ .creating := by
          rintro rfl
          exact first (Option.some.inj asks).symm
        exact early ⟨stage, here, later⟩

end

/-! ## The cell -/

/-- The move brings the runner the result of the creation. -/
def Returns (s : SignalledRun ι π) (m : Move π) (result : Except EngineError π) : Prop :=
  m = .reply (.created result) ∧ s.shared.runner.IsCreating

/-- A move that does not bring the process leaves the cell as it is. -/
theorem process?_step (other : ∀ process, ¬ s.Returns m (.ok process)) :
    (s.step m).process? = s.process? := by
  cases m with
  | reply given =>
      change s.filled given = s.process?
      unfold filled
      split
      · rename_i process
        exact if_neg fun asked => other process ⟨rfl, asked⟩
      · rfl
  | _ => rfl

theorem process?_returns (h : s.Returns m (.ok process)) :
    (s.step m).process? = some process := by
  obtain ⟨rfl, asked⟩ := h
  exact if_pos asked

theorem isCreated_step (other : ∀ result, ¬ s.Returns m result) :
    (s.step m).shared.runner.execution.isCreated = s.shared.runner.execution.isCreated := by
  rw [shared_step]
  cases shared : m.shared? with
  | none => rfl
  | some shift =>
      change (s.shared.step shift).runner.execution.isCreated = _
      by_cases past : s.shared.runner.Past
      · exact (past_step past shift).2
      · have still : ¬ (s.shared.step shift).runner.Past := by
          refine not_past_step past ?_
          rintro result rfl asked
          cases m with
          | reply given =>
              cases given with
              | created given => exact other given ⟨rfl, asked⟩
              | _ => cases shared
          | _ => cases shared
        rw [isCreated_of_not_past still, isCreated_of_not_past past]

theorem isCreated_returns (h : s.Returns m result) :
    (s.step m).shared.runner.Past ∧
      (s.step m).shared.runner.execution.isCreated = result.isOk := by
  obtain ⟨rfl, asked⟩ := h
  have told := created_step asked (result.map fun _ => ())
  cases result <;> exact told

/-- The cell tells whether there is a process, and without one nothing was killed. -/
structure Sound (s : SignalledRun ι π) : Prop where
  cell : s.process?.isSome = s.shared.runner.execution.isCreated
  quiet : s.process? = none → s.kills = []

theorem Sound.early (h : s.Sound) (early : ¬ s.shared.runner.Past) : s.process? = none := by
  have cell := h.cell
  rw [isCreated_of_not_past early] at cell
  simpa using cell

/-- The cell is filled exactly when the creation returns with a process. -/
theorem Sound.process?_of_returns (h : s.Sound) (returns : s.Returns m result) :
    (s.step m).process? = result.toOption := by
  cases result with
  | ok process => exact process?_returns returns
  | error e =>
      obtain ⟨rfl, asked⟩ := returns
      exact h.early fun past => past.not_isCreating asked

theorem kills_step (s : SignalledRun ι π) (m : Move π) : (s.step m).kills =
    s.kills ++ m.signal?.toList.flatMap fun signal => s.process?.toList.map (·, signal) := by
  cases m with
  | signal sent => cases process : s.process? <;> simp [step, call, process] <;> rfl
  | _ => exact (List.append_nil _).symm

theorem Sound.step (h : s.Sound) (m : Move π) : (s.step m).Sound := by
  by_cases returns : ∃ result, s.Returns m result
  -- The only move that fills the cell is also the only one after which the process counts as made.
  · obtain ⟨result, returns⟩ := returns
    have filled := h.process?_of_returns returns
    have quiet : s.kills = [] := h.quiet (h.early fun past => past.not_isCreating returns.2)
    refine ⟨?_, fun _ => ?_⟩
    · rw [filled, (isCreated_returns returns).2]
      cases result <;> rfl
    · rw [kills_step, quiet, returns.1]
      rfl
  · have other : ∀ result, ¬ s.Returns m result := fun result now => returns ⟨result, now⟩
    have same := process?_step fun process => other (.ok process)
    refine ⟨?_, fun empty => ?_⟩
    · rw [same, isCreated_step other, h.cell]
    · rw [same] at empty
      rw [kills_step, h.quiet empty, empty]
      simp

theorem sound_after (h : s.Sound) (moves : List (Move π)) : (s.after moves).Sound :=
  after_invariant h (fun _ m sound => sound.step m) moves

/-! ## After the creation -/

/-- Once the creation has returned, the cell stays as it is. -/
theorem past_after (past : s.shared.runner.Past) (moves : List (Move π)) :
    (s.after moves).shared.runner.Past ∧ (s.after moves).process? = s.process? := by
  refine after_invariant (P := fun t => t.shared.runner.Past ∧ t.process? = s.process?)
    ⟨past, rfl⟩ ?_ moves
  rintro t m ⟨past, same⟩
  refine ⟨?_, (process?_step fun process returns => past.not_isCreating returns.2).trans same⟩
  rw [shared_step]
  cases m.shared? with
  | none => exact past
  | some shift => exact (past_step past shift).1

/-- From then on the process is killed with every signal that is sent. -/
theorem kills_after (past : s.shared.runner.Past) (process? : s.process? = some process)
    (moves : List (Move π)) :
    (s.after moves).kills = s.kills ++ (moves.filterMap Move.signal?).map (process, ·) := by
  induction moves generalizing s with
  | nil => exact (List.append_nil _).symm
  | cons m rest ih =>
      obtain ⟨past_now, same⟩ := past_after past [m]
      have first : (s.step m).kills = s.kills ++ m.signal?.toList.map (process, ·) := by
        rw [kills_step, process?]
        cases m.signal? <;> rfl
      have later := ih (s := s.step m) past_now (same.trans process?)
      rw [first, List.append_assoc, ← List.map_append] at later
      refine later.trans ?_
      cases sent : m.signal? <;> simp [sent]

/-! ## All courses -/

theorem sound_fresh (id : ExecutionId) (role : String) (spec : ExecutionSpec) (task : RoleTask)
    (streams : ι) : (fresh id role spec task streams : SignalledRun ι π).Sound :=
  ⟨rfl, fun _ => rfl⟩

/-- The creation has returned, so the cell has what it brought. -/
theorem Sound.returned (h : start.Sound) (returned : start.Returned moves result) :
    (start.after moves).shared.runner.Past ∧ (start.after moves).process? = result.toOption := by
  obtain ⟨before, later, rfl, asked⟩ := returned
  have returns : (start.after before).Returns (.reply (.created result)) result := ⟨rfl, asked⟩
  have filled := (sound_after h before).process?_of_returns returns
  rw [after_append]
  obtain ⟨past, same⟩ := past_after (isCreated_returns returns).1 later
  exact ⟨past, same.trans filled⟩

/-- What is in the cell was brought by the creation. -/
theorem returned_of_process? (empty : start.process? = none)
    (full : (start.after moves).process? = some process) : start.Returned moves (.ok process) := by
  induction moves using List.reverseRecOn with
  | nil => cases empty.symm.trans full
  | append_singleton moves m ih =>
      by_cases returns : ∃ process, (start.after moves).Returns m (.ok process)
      · obtain ⟨other, returns⟩ := returns
        have filled := process?_returns returns
        rw [← after_concat, full] at filled
        cases filled
        exact ⟨moves, [], by rw [returns.1], returns.2⟩
      · have same := process?_step fun process now => returns ⟨process, now⟩
        rw [after_concat, same] at full
        exact (ih full).append [m]

/-- A signal on its way gives its sender what the runtime replies. -/
def Forwards (id : ExecutionId) (call : SignalCall π) : Prop :=
  ∀ question next, call = .send question next →
    ∀ reply, next reply = .done (Execution.signalResult id reply)

theorem forwards_signalling (id : ExecutionId) (process? : Option π) (signal : Signal) :
    Forwards id (Execution.signalling id process? signal) := by
  cases process? with
  | none => exact nofun
  | some process =>
      rintro _ _ ⟨⟩ reply
      rfl

theorem Forwards.tell {id : ExecutionId} {call : SignalCall π} (h : Forwards id call)
    (reply : Except EngineError Unit) : Forwards id (call.tell reply) := by
  cases call with
  | done result => exact nofun
  | send question next =>
      rw [SignalCall.tell, h question next rfl reply]
      exact nofun

theorem id_step (s : SignalledRun ι π) (m : Move π) :
    (s.step m).shared.runner.execution.id = s.shared.runner.execution.id := by
  rw [shared_step]
  exact SharedRun.id_after _ _

/-- The execution keeps its identifier, and every signal on its way forwards the reply. -/
structure Forwarding (id : ExecutionId) (s : SignalledRun ι π) : Prop where
  same : s.shared.runner.execution.id = id
  forwards : ∀ call ∈ s.signals, Forwards id call

theorem Forwarding.step {id : ExecutionId} (h : s.Forwarding id) (m : Move π) :
    (s.step m).Forwarding id := by
  refine ⟨(id_step s m).trans h.same, ?_⟩
  cases m with
  | signal sent =>
      intro call member
      rcases List.mem_append.1 member with before | now
      · exact h.forwards call before
      · rw [List.mem_singleton.1 now, SignalledRun.call, h.same]
        exact forwards_signalling id s.process? sent
  | delivered i reply =>
      intro call member
      obtain ⟨j, at_j⟩ := List.mem_iff_getElem?.1 member
      change (s.signals.modify i (SignalCall.tell reply))[j]? = some call at at_j
      rw [List.getElem?_modify] at at_j
      obtain ⟨before, here, same⟩ := Option.map_eq_some_iff.1 at_j
      have known := h.forwards before (List.mem_of_getElem? here)
      split at same
      · rw [← same]
        exact known.tell reply
      · rw [← same]
        exact known
  | _ => exact h.forwards

theorem Forwarding.after {id : ExecutionId} (h : s.Forwarding id) (moves : List (Move π)) :
    (s.after moves).Forwarding id :=
  after_invariant h (fun _ m forwarding => forwarding.step m) moves

theorem step_signal {call : SignalCall π} {signal : Signal} (h : s.call signal = call) :
    s.step (.signal signal) =
      { s with signals := s.signals ++ [call], kills := s.kills ++ call.asked?.toList } := by
  rw [← h]
  rfl

/-- What holds of signals after some moves, whatever they were. -/
structure Signals (id : ExecutionId) (start : SignalledRun ι π) (moves : List (Move π)) :
    Prop where
  /-- Until the creation returns with a process, a signal asks nothing of the runtime. -/
  unmade : (∀ process, ¬ start.Returned moves (.ok process)) → ∀ signal,
    start.after (moves ++ [.signal signal]) = { start.after moves with
      signals := (start.after moves).signals ++ [.done (.error (.notStarted id.text))] }
  /-- Without a process nothing was killed, either. -/
  unkilled : (∀ process, ¬ start.Returned moves (.ok process)) → (start.after moves).kills = []
  /-- A creation that failed leaves nothing to signal, for good. -/
  failed : ∀ e, start.Returned moves (.error e) → ∀ more process,
    ¬ start.Returned (moves ++ more) (.ok process)
  /-- With a process, now or from before, a signal asks for one kill of that process. -/
  made : ∀ process, start.Returned moves (.ok process) → ∀ more signal,
    start.after (moves ++ more ++ [.signal signal]) = { start.after (moves ++ more) with
      signals := (start.after (moves ++ more)).signals ++ [.send (process, signal) fun reply =>
        .done (Execution.signalResult id reply)]
      kills := (start.after (moves ++ more)).kills ++ [(process, signal)] }
  /-- The signals since the creation are what the runtime was asked to kill with. -/
  killed : ∀ before later process, moves = before ++ .reply (.created (.ok process)) :: later →
    (start.after before).shared.runner.IsCreating →
    (start.after moves).kills = (later.filterMap Move.signal?).map (process, ·)
  /-- Whoever sent a signal is told the runtime's reply to it. -/
  told : ∀ (i : Nat) question next reply,
    (start.after moves).signals[i]? = some (.send question next) →
    (start.after (moves ++ [.delivered i reply])).signals[i]? =
      some (.done (Execution.signalResult id reply))
  /-- The signals of an execution are those of the cell. -/
  delivered : ∀ signal reply, ((start.after moves).call signal).hold (m := Id) (fun _ => reply) =
    (start.after moves).shared.runner.execution.signal fun _ => reply
  /-- Waits and the runner take no notice of signals. -/
  beside : (start.after moves).shared = start.shared.after (moves.filterMap Move.shared?)

theorem Sound.signals {id : ExecutionId} (sound : start.Sound) (forwarding : start.Forwarding id)
    (unfilled : start.process? = none) (moves : List (Move π)) : Signals id start moves := by
  have same_id (moves : List (Move π)) := (forwarding.after moves).same
  have empty (unmade : ∀ process, ¬ start.Returned moves (.ok process)) :
      (start.after moves).process? = none :=
    Option.eq_none_iff_forall_not_mem.2 fun process full =>
      unmade process (returned_of_process? unfilled full)
  refine ⟨?_, ?_, ?_, ?_, ?_, ?_, ?_, shared_after start moves⟩
  · intro unmade signal
    have call : (start.after moves).call signal = .done (.error (.notStarted id.text)) := by
      rw [SignalledRun.call, same_id, empty unmade]
      rfl
    rw [after_concat, step_signal call]
    simp [SignalCall.asked?]
  · intro unmade
    exact (sound_after sound moves).quiet (empty unmade)
  · intro e failed more process made
    have none := (sound.returned (failed.append more)).2
    have some := (sound.returned made).2
    cases none.symm.trans some
  · intro process made more signal
    have full := (sound.returned (made.append more)).2
    have call : (start.after (moves ++ more)).call signal =
        .send (process, signal) fun reply => .done (Execution.signalResult id reply) := by
      rw [SignalledRun.call, same_id, full]
      rfl
    rw [after_concat, step_signal call]
    rfl
  · rintro before later process rfl asked
    have returns : (start.after before).Returns (.reply (.created (.ok process))) (.ok process) :=
      ⟨rfl, asked⟩
    have quiet : (start.after before).kills = [] := by
      have early := sound_after sound before
      exact early.quiet (early.early fun past => past.not_isCreating asked)
    have kills := kills_after (isCreated_returns returns).1 (process?_returns returns) later
    rw [after_append]
    refine kills.trans ?_
    rw [kills_step, quiet]
    rfl
  · intro i question next reply sent
    have forwards := (forwarding.after moves).forwards _ (List.mem_of_getElem? sent)
    rw [after_concat]
    change ((start.after moves).signals.modify i (SignalCall.tell reply))[i]? = _
    rw [List.getElem?_modify_eq, sent, ← forwards question next rfl reply]
    rfl
  · intro signal reply
    exact Execution.hold_signalling signal (sound_after sound moves).cell reply

/-- A signal reaches the process that was made, from then on and for good, and before that
nothing. -/
theorem signals_reach_the_made_process (id : ExecutionId) (role : String) (spec : ExecutionSpec)
    (task : RoleTask) (streams : ι) (moves : List (Move π)) :
    Signals id (fresh id role spec task streams) moves :=
  (sound_fresh ..).signals ⟨rfl, fun _ none => nomatch none⟩ rfl moves

/-- A signal before the process is made, one while it runs and one after it was deleted. -/
example (id : ExecutionId) (role : String) (spec : ExecutionSpec) (task : RoleTask) :
    ((fresh id role spec task () : SignalledRun Unit Nat).after
      [.wait, .ask, .signal .kill, .reply (.created (.ok 7)), .ask, .reply (.started (.ok ())),
        .signal .terminate, .drop 0, .ask, .reply (.exited (.ok { code := 0 })), .ask,
        .reply (.closed (.ok ())), .ask, .reply (.deleted (.ok ())), .signal .kill]).kills =
      [(7, .terminate), (7, .kill)] := rfl

end SignalledRun
end SandboxPods
