import SandboxPods.Execution.Basic

/-!
# One run for everybody who waits

An execution is run by one runner, which sets out when somebody first waits. Waits come
and go before, during and after the run, signals are sent, the runner asks its next
question or is told an answer, and it may be lost before it has an outcome. All of this
happens in any order here. What the runner asks of the runtime is then a part of one
fixed course, and everybody who waits to the end gets the same result.
-/
namespace SandboxPods

/-- The answer is of the kind that the question asks for. -/
def RunAsk.admits : RunAsk → RunAnswer → Bool
  | .create, .created _ | .start, .started _ | .wait, .exited _ | .closeStreams, .closed _
  | .delete, .deleted _ => true
  | _, _ => false

/-- An execution with its runner, if one has set out, and what that has asked. -/
structure Runner (ι : Type) where
  execution : Execution
  /-- The streams for the process, until a runner takes them. -/
  streams : Option ι
  /-- What runners were given as they set out. -/
  handed : List (Option ι) := []
  asked : List RunAsk := []
  /-- The last question has no answer yet. -/
  pending : Bool := false
  /-- The runner is gone and has no outcome. -/
  lost : Bool := false

namespace Runner
variable {ι : Type}

/-- Somebody waits; the first time, a runner sets out with the streams. -/
def await (r : Runner ι) : Runner ι :=
  match r.execution.run with
  | none => { r with
      execution := r.execution.awaited, streams := none, handed := r.handed ++ [r.streams] }
  | some _ => r

/-- What the runner has to ask of the runtime next, or has asked. -/
def question? (r : Runner ι) : Option RunAsk :=
  if r.lost then none else r.execution.run.bind RunStage.ask?

def ask (r : Runner ι) : Runner ι :=
  match r.question? with
  | some ask => if r.pending then r else { r with asked := r.asked ++ [ask], pending := true }
  | none => r

def answer (r : Runner ι) (answer : RunAnswer) : Runner ι :=
  match r.question? with
  | some ask =>
    if r.pending && ask.admits answer then
      { r with execution := r.execution.resume answer, pending := false }
    else r
  | none => r

/-- A runner can be lost as long as it has something to ask or to be told. -/
def lose (r : Runner ι) : Runner ι :=
  if r.question?.isSome then { r with lost := true } else r

/-- What is known in place of an outcome when the runner is lost. -/
def lostOutcome : Outcome := ⟨none, ["process runner stopped without an outcome"]⟩

/-- What those who wait are to learn. -/
def outcome? (r : Runner ι) : Option Outcome :=
  if r.lost then some lostOutcome else r.execution.outcome?

end Runner

/-! ## Waits beside the run -/

inductive WaitStage where
  | waiting
  | returned (result : Except LifecycleError Int32)
  | dropped

namespace WaitStage

def drop : WaitStage → WaitStage
  | .waiting => .dropped
  | stage => stage

def learn (result : Except LifecycleError Int32) : WaitStage → WaitStage
  | .waiting => .returned result
  | stage => stage

end WaitStage

structure SharedRun (ι : Type) where
  runner : Runner ι
  /-- Every wait that was ever begun, in order. -/
  waits : List WaitStage := []
  signals : List (Except LifecycleError Unit) := []

namespace SharedRun
variable {ι : Type}

inductive Move where
  | wait
  /-- Somebody stops waiting. -/
  | drop (i : Nat)
  /-- A wait sees that there is an outcome. -/
  | learn (i : Nat)
  | signal (kill : ExecutionId → Except EngineError Unit)
  | ask
  | answer (answer : RunAnswer)
  | lose

/-- The waits when one of them has seen whether there is an outcome. -/
def learned (s : SharedRun ι) (i : Nat) : List WaitStage :=
  match s.runner.outcome? with
  | some outcome =>
    s.waits.modify i (.learn (Execution.resultOf s.runner.execution.id outcome))
  | none => s.waits

def step (s : SharedRun ι) : Move → SharedRun ι
  | .wait => { s with runner := s.runner.await, waits := s.waits ++ [.waiting] }
  | .drop i => { s with waits := s.waits.modify i .drop }
  | .learn i => { s with waits := s.learned i }
  | .signal kill => { s with signals := s.signals ++ [s.runner.execution.signal kill] }
  | .ask => { s with runner := s.runner.ask }
  | .answer answer => { s with runner := s.runner.answer answer }
  | .lose => { s with runner := s.runner.lose }

def after (s : SharedRun ι) (moves : List Move) : SharedRun ι := moves.foldl step s

/-- An execution that nobody has waited for. -/
def fresh (id : ExecutionId) (role : String) (spec : ExecutionSpec) (task : RoleTask)
    (streams : ι) : SharedRun ι where
  runner := { execution := { id, role, spec, task }, streams := some streams }

theorem after_append (s : SharedRun ι) (moves more : List Move) :
    s.after (moves ++ more) = (s.after moves).after more := List.foldl_append ..

end SharedRun

/-! ## The course of the runner -/

namespace Runner
variable {ι : Type} {r : Runner ι} {streams : ι} {stage : RunStage} {asked : List RunAsk}

/-- The process was made, and either could not be started or was waited for. -/
def Tried (asked : List RunAsk) : Prop :=
  asked = [.create, .start] ∨ asked = [.create, .start, .wait]

/-- The questions whose answers lead to the stage. -/
inductive Led : List RunAsk → RunStage → Prop
  | creating : Led [] .creating
  | uncreated {outcome : Outcome} : Led [.create] (.finished false outcome)
  | starting : Led [.create] .starting
  | waiting : Led [.create, .start] .waiting
  | closing {asked : List RunAsk} {outcome : Outcome} : Tried asked → Led asked (.closing outcome)
  | deleting {asked : List RunAsk} {outcome : Outcome} :
      Tried asked → Led (asked ++ [.closeStreams]) (.deleting outcome)
  | deleted {asked : List RunAsk} {outcome : Outcome} :
      Tried asked → Led (asked ++ [.closeStreams] ++ [.delete]) (.finished true outcome)

theorem Led.answer {ask : RunAsk} {answer : RunAnswer} (h : Led asked stage)
    (asks : stage.ask? = some ask) (admits : ask.admits answer = true) :
    Led (asked ++ [ask]) (stage.resume answer) := by
  cases h with
  | creating =>
      cases asks
      cases answer with
      | created result =>
          cases result with
          | ok u => exact .starting
          | error e => exact .uncreated
      | _ => cases admits
  | starting =>
      cases asks
      cases answer with
      | started result =>
          cases result with
          | ok u => exact .waiting
          | error e => exact .closing (.inl rfl)
      | _ => cases admits
  | waiting =>
      cases asks
      cases answer with
      | exited result => exact .closing (.inr rfl)
      | _ => cases admits
  | closing tried =>
      cases asks
      cases answer with
      | closed result => exact .deleting tried
      | _ => cases admits
  | deleting tried =>
      cases asks
      cases answer with
      | deleted result => exact .deleted tried
      | _ => cases admits
  | uncreated => cases asks
  | deleted tried => cases asks

theorem Tried.sublist (h : Tried asked) (rest : List RunAsk) :
    (asked ++ rest).Sublist ([.create, .start, .wait] ++ rest) := by
  apply List.Sublist.append_right
  rcases h with rfl | rfl <;> decide

/-- With the question that is due, the questions are a part of the whole course. -/
theorem Led.sublist (h : Led asked stage) :
    (asked ++ stage.ask?.toList).Sublist [.create, .start, .wait, .closeStreams, .delete] := by
  cases h with
  | creating => decide
  | uncreated => exact .cons_cons _ (List.nil_sublist _)
  | starting => decide
  | waiting => decide
  | closing tried => exact (tried.sublist [.closeStreams]).trans (by decide)
  | deleting tried =>
      rw [List.append_assoc]
      exact tried.sublist [.closeStreams, .delete]
  | deleted tried =>
      rw [List.append_assoc, List.append_assoc]
      exact tried.sublist [.closeStreams, .delete]

/-- A process that was made is deleted before there is an outcome. -/
theorem Led.finished {created : Bool} {outcome : Outcome}
    (h : Led asked (.finished created outcome)) :
    asked = [.create] ∨ asked = [.create, .start, .closeStreams, .delete] ∨
      asked = [.create, .start, .wait, .closeStreams, .delete] := by
  cases h with
  | uncreated => exact .inl rfl
  | deleted tried =>
      rcases tried with rfl | rfl
      · exact .inr (.inl rfl)
      · exact .inr (.inr rfl)

/-- Nobody has set out yet, or one runner has, with the streams. -/
inductive Sound (streams : ι) : Runner ι → Prop
  | idle {execution : Execution} : execution.run = none →
      Sound streams { execution, streams := some streams }
  | busy {r : Runner ι} {stage : RunStage} {answered : List RunAsk} :
      r.execution.run = some stage → r.handed = [some streams] → Led answered stage →
      r.asked = answered ++ (if r.pending then stage.ask?.toList else []) → Sound streams r

theorem Sound.asked_sublist (h : Sound streams r) :
    r.asked.Sublist [.create, .start, .wait, .closeStreams, .delete] := by
  cases h with
  | idle idle => exact List.nil_sublist _
  | @busy r stage answered running handed led asked =>
      rw [asked]
      cases pending : r.pending with
      | true => exact led.sublist
      | false => exact (List.Sublist.append_left (List.nil_sublist _) _).trans led.sublist

theorem Sound.asked_idle (h : Sound streams r) (idle : r.execution.run = none) : r.asked = [] := by
  cases h with
  | idle same => rfl
  | busy running handed led asked =>
      rw [running] at idle
      cases idle

theorem Sound.handed_once (h : Sound streams r) : r.handed = [] ∨ r.handed = [some streams] := by
  cases h with
  | idle idle => exact .inl rfl
  | busy running handed led asked => exact .inr handed

theorem Sound.asked_finished {outcome : Outcome} (h : Sound streams r)
    (published : r.execution.outcome? = some outcome) :
    r.asked = [.create] ∨ r.asked = [.create, .start, .closeStreams, .delete] ∨
      r.asked = [.create, .start, .wait, .closeStreams, .delete] := by
  obtain ⟨stage, here, finished⟩ := Option.bind_eq_some_iff.1 published
  cases h with
  | idle idle =>
      rw [idle] at here
      cases here
  | @busy r other answered running handed led asked =>
      cases here.symm.trans running
      cases stage with
      | finished created outcome =>
          have all : r.asked = answered := by
            rw [asked]
            cases r.pending <;> exact List.append_nil _
          rw [all]
          exact led.finished
      | _ => cases finished

theorem question?_eq {ask : RunAsk} (running : r.execution.run = some stage)
    (asks : r.question? = some ask) : r.lost = false ∧ stage.ask? = some ask := by
  unfold question? at asks
  rw [running] at asks
  cases lost : r.lost with
  | true =>
      rw [lost] at asks
      cases asks
  | false =>
      rw [lost] at asks
      exact ⟨rfl, asks⟩

theorem exists_stage {ask : RunAsk} (asks : r.question? = some ask) :
    ∃ stage, r.execution.run = some stage ∧ stage.ask? = some ask := by
  unfold question? at asks
  split at asks
  · cases asks
  · exact Option.bind_eq_some_iff.1 asks

theorem question?_idle {execution : Execution} (idle : execution.run = none) :
    question? { execution, streams := some streams } = none := by
  simp [question?, idle]

theorem Sound.await (h : Sound streams r) : Sound streams r.await := by
  cases h with
  | @idle execution idle =>
      have setOut : Runner.await { execution, streams := some streams } =
          { execution := { execution with run := some .creating }
            streams := none, handed := [some streams] } := by
        simp [Runner.await, Execution.awaited, idle]
      rw [setOut]
      exact .busy rfl rfl .creating rfl
  | busy running handed led asked =>
      have same : r.await = r := by
        simp [Runner.await, running]
      rw [same]
      exact .busy running handed led asked

theorem Sound.ask (h : Sound streams r) : Sound streams r.ask := by
  cases h with
  | idle idle =>
      rw [Runner.ask, question?_idle idle]
      exact .idle idle
  | @busy r stage answered running handed led asked =>
      cases asks : r.question? with
      | none =>
          rw [Runner.ask, asks]
          exact .busy running handed led asked
      | some ask =>
          obtain ⟨-, due⟩ := question?_eq running asks
          cases pending : r.pending with
          | true =>
              have same : r.ask = r := by
                simp [Runner.ask, asks, pending]
              rw [same]
              exact .busy running handed led asked
          | false =>
              have noted : r.ask = { r with asked := r.asked ++ [ask], pending := true } := by
                simp [Runner.ask, asks, pending]
              rw [noted]
              refine .busy running handed led ?_
              simp [asked, pending, due]

theorem Sound.answer (h : Sound streams r) (reply : RunAnswer) :
    Sound streams (r.answer reply) := by
  cases h with
  | idle idle =>
      rw [Runner.answer, question?_idle idle]
      exact .idle idle
  | @busy r stage answered running handed led asked =>
      cases asks : r.question? with
      | none =>
          rw [Runner.answer, asks]
          exact .busy running handed led asked
      | some ask =>
          obtain ⟨-, due⟩ := question?_eq running asks
          by_cases fits : (r.pending && ask.admits reply) = true
          · have told : r.answer reply =
                { r with execution := r.execution.resume reply, pending := false } := by
              simp [Runner.answer, asks, fits]
            obtain ⟨pending, admits⟩ := Bool.and_eq_true_iff.1 fits
            rw [told]
            refine .busy ?_ handed (led.answer due admits) ?_
            · simp [Execution.resume, running]
            · simp [asked, pending, due]
          · have same : r.answer reply = r := by
              simp [Runner.answer, asks, fits]
            rw [same]
            exact .busy running handed led asked

theorem Sound.lose (h : Sound streams r) : Sound streams r.lose := by
  unfold Runner.lose
  cases h with
  | idle idle =>
      rw [question?_idle idle]
      exact .idle idle
  | busy running handed led asked =>
      split
      · exact .busy running handed led asked
      · exact .busy running handed led asked

/-! An outcome stays, and so does the identifier. -/

theorem ask?_of_outcome {outcome : Outcome} (h : stage.outcome? = some outcome) :
    stage.ask? = none := by
  cases stage with
  | finished created outcome => rfl
  | _ => cases h

theorem question?_of_outcome {outcome : Outcome} (h : r.outcome? = some outcome) :
    r.question? = none := by
  unfold outcome? at h
  unfold question?
  cases lost : r.lost with
  | true => rfl
  | false =>
      rw [lost] at h
      obtain ⟨stage, running, finished⟩ := Option.bind_eq_some_iff.1 h
      simp [running, ask?_of_outcome finished]

theorem outcome?_await {outcome : Outcome} (h : r.outcome? = some outcome) :
    r.await.outcome? = some outcome := by
  cases run : r.execution.run with
  | some stage =>
      have same : r.await = r := by
        simp [Runner.await, run]
      rw [same, h]
  | none =>
      cases lost : r.lost with
      | false => simp [outcome?, lost, Execution.outcome?, run] at h
      | true => simpa [outcome?, Runner.await, run, lost] using h

theorem id_await (r : Runner ι) : r.await.execution.id = r.execution.id := by
  cases run : r.execution.run with
  | none => simp [Runner.await, run, Execution.awaited]
  | some stage => simp [Runner.await, run]

theorem id_ask (r : Runner ι) : r.ask.execution.id = r.execution.id := by
  unfold Runner.ask
  split
  · split <;> rfl
  · rfl

theorem id_answer (r : Runner ι) (reply : RunAnswer) :
    (r.answer reply).execution.id = r.execution.id := by
  unfold Runner.answer
  split
  · split <;> rfl
  · rfl

theorem id_lose (r : Runner ι) : r.lose.execution.id = r.execution.id := by
  unfold Runner.lose
  split <;> rfl

end Runner

/-! ## Steps and runs -/

namespace SharedRun
open Runner
variable {ι : Type} {s t : SharedRun ι} {streams : ι} {outcome : Outcome} {i : Nat}
variable {result : Except LifecycleError Int32} {m : Move} {moves : List Move}

/-- What is kept by every move is kept by all of them. -/
theorem after_invariant {P : SharedRun ι → Prop} (start : P s)
    (keeps : ∀ s m, m ∈ moves → P s → P (s.step m)) : P (s.after moves) := by
  induction moves generalizing s with
  | nil => exact start
  | cons m rest ih =>
      exact ih (keeps s m (List.mem_cons_self ..) start) fun s m later =>
        keeps s m (List.mem_cons_of_mem _ later)

theorem sound_step (h : Sound streams s.runner) (m : Move) : Sound streams (s.step m).runner := by
  cases m with
  | wait => exact h.await
  | drop i => exact h
  | learn i => exact h
  | signal kill => exact h
  | ask => exact h.ask
  | answer reply => exact h.answer reply
  | lose => exact h.lose

theorem id_step (s : SharedRun ι) (m : Move) :
    (s.step m).runner.execution.id = s.runner.execution.id := by
  cases m with
  | wait => exact id_await _
  | drop i => rfl
  | learn i => rfl
  | signal kill => rfl
  | ask => exact id_ask _
  | answer reply => exact id_answer _ reply
  | lose => exact id_lose _

theorem outcome?_step (h : s.runner.outcome? = some outcome) (m : Move) :
    (s.step m).runner.outcome? = some outcome := by
  have silent := question?_of_outcome h
  cases m with
  | wait => exact outcome?_await h
  | drop i => exact h
  | learn i => exact h
  | signal kill => exact h
  | ask =>
      simp only [step, Runner.ask, silent]
      exact h
  | answer reply =>
      simp only [step, Runner.answer, silent]
      exact h
  | lose =>
      simp only [step, Runner.lose, silent]
      exact h

theorem outcome?_after (h : s.runner.outcome? = some outcome) (moves : List Move) :
    (s.after moves).runner.outcome? = some outcome :=
  after_invariant (P := fun s => s.runner.outcome? = some outcome) h
    fun _ m _ => (outcome?_step · m)

theorem id_after (s : SharedRun ι) (moves : List Move) :
    (s.after moves).runner.execution.id = s.runner.execution.id :=
  after_invariant (P := fun t => t.runner.execution.id = s.runner.execution.id) rfl
    fun t m _ same => (id_step t m).trans same

/-! What becomes of the waits. -/

theorem returned_modify {l : List WaitStage} {j : Nat} {f : WaitStage → WaitStage}
    (h : (l.modify j f)[i]? = some (.returned result)) :
    l[i]? = some (.returned result) ∨ ∃ stage, l[i]? = some stage ∧ f stage = .returned result := by
  rw [List.getElem?_modify] at h
  obtain ⟨stage, here, same⟩ := Option.map_eq_some_iff.1 h
  by_cases at_j : j = i
  · rw [if_pos at_j] at same
    exact .inr ⟨stage, here, same⟩
  · rw [if_neg at_j] at same
    exact .inl (here.trans (congrArg some same))

/-- A wait that has returned had returned before the move, or is told the result now. -/
theorem returned_step (h : (s.step m).waits[i]? = some (.returned result)) :
    s.waits[i]? = some (.returned result) ∨ ∃ outcome, s.runner.outcome? = some outcome ∧
      result = Execution.resultOf s.runner.execution.id outcome := by
  cases m with
  | wait =>
      left
      have both : (s.waits ++ [.waiting])[i]? = some (.returned result) := h
      rw [List.getElem?_append] at both
      split at both
      · exact both
      · rw [List.getElem?_singleton] at both
        split at both <;> cases both
  | drop j =>
      rcases returned_modify h with before | ⟨stage, here, same⟩
      · exact .inl before
      · cases stage with
        | returned other => exact .inl (here.trans (congrArg some same))
        | _ => cases same
  | learn j =>
      have told : (s.learned j)[i]? = some (.returned result) := h
      unfold learned at told
      split at told
      · rename_i outcome published
        rcases returned_modify told with before | ⟨stage, here, same⟩
        · exact .inl before
        · cases stage with
          | waiting =>
              cases same
              exact .inr ⟨outcome, published, rfl⟩
          | returned other => exact .inl (here.trans (congrArg some same))
          | dropped => cases same
      · exact .inl told
  | signal kill => exact .inl h
  | ask => exact .inl h
  | answer reply => exact .inl h
  | lose => exact .inl h

/-- Whoever has returned has the result of the outcome. -/
def Told (s : SharedRun ι) : Prop := ∀ (i : Nat) (result : Except LifecycleError Int32),
  s.waits[i]? = some (.returned result) → ∃ outcome, s.runner.outcome? = some outcome ∧
    result = Execution.resultOf s.runner.execution.id outcome

theorem Told.step (h : s.Told) (m : Move) : (s.step m).Told := by
  intro i result returned
  have known : ∃ outcome, s.runner.outcome? = some outcome ∧
      result = Execution.resultOf s.runner.execution.id outcome := by
    rcases returned_step returned with before | now
    · exact h i result before
    · exact now
  obtain ⟨outcome, published, same⟩ := known
  refine ⟨outcome, outcome?_step published m, ?_⟩
  rw [id_step]
  exact same

/-! Moves that only concern those who wait. -/

/-- Somebody stops waiting, or a signal is sent. -/
def Move.isAside : Move → Bool
  | .drop _ | .signal _ => true
  | _ => false

theorem runner_aside (s : SharedRun ι) (aside : m.isAside = true) :
    (s.step m).runner = s.runner := by
  cases m with
  | drop i => rfl
  | signal kill => rfl
  | _ => cases aside

theorem runner_congr (h : s.runner = t.runner) (m : Move) :
    (s.step m).runner = (t.step m).runner := by
  cases m with
  | wait => exact congrArg Runner.await h
  | drop i => exact h
  | learn i => exact h
  | signal kill => exact h
  | ask => exact congrArg Runner.ask h
  | answer reply => exact congrArg (Runner.answer · reply) h
  | lose => exact congrArg Runner.lose h

/-- Without the waits that were given up and the signals, the runner does the same. -/
theorem runner_filter (h : s.runner = t.runner) (moves : List Move) :
    (s.after (moves.filter (!·.isAside))).runner = (t.after moves).runner := by
  induction moves generalizing s t with
  | nil => exact h
  | cons m rest ih =>
      cases aside : m.isAside with
      | true =>
          rw [List.filter_cons_of_neg (by simp [aside])]
          exact ih (h.trans (runner_aside t aside).symm)
      | false =>
          rw [List.filter_cons_of_pos (by simp [aside])]
          exact ih (runner_congr h m)

theorem run_none_step (h : s.runner.execution.run = none) (other : m ≠ .wait) :
    (s.step m).runner.execution.run = none := by
  have silent : s.runner.question? = none := by
    simp [question?, h]
  cases m with
  | wait => exact (other rfl).elim
  | drop i => exact h
  | learn i => exact h
  | signal kill => exact h
  | ask =>
      simp only [step, Runner.ask, silent]
      exact h
  | answer reply =>
      simp only [step, Runner.answer, silent]
      exact h
  | lose =>
      simp only [step, Runner.lose, silent]
      exact h

/-- A wait that has not been given up returns once there is an outcome. -/
theorem learn_waiting (published : s.runner.outcome? = some outcome)
    (waits : s.waits[i]? = some .waiting) : (s.step (.learn i)).waits[i]? =
      some (.returned (Execution.resultOf s.runner.execution.id outcome)) := by
  have learned : (s.step (.learn i)).waits =
      s.waits.modify i (.learn (Execution.resultOf s.runner.execution.id outcome)) := by
    simp only [step, SharedRun.learned, published]
  simp [learned, waits, WaitStage.learn]

/-! ## All courses -/

/-- What holds of an execution after some moves, whatever they were. -/
structure OneRun (id : ExecutionId) (streams : ι) (s : SharedRun ι) (moves : List Move) :
    Prop where
  /-- Each question is asked once at most, and in this order. -/
  asked : (s.after moves).runner.asked.Sublist [.create, .start, .wait, .closeStreams, .delete]
  /-- Nothing is asked before somebody waits. -/
  awaited : .wait ∉ moves → (s.after moves).runner.asked = []
  /-- One runner at most is given the streams. -/
  handed : (s.after moves).runner.handed = [] ∨ (s.after moves).runner.handed = [some streams]
  /-- A process that was made is deleted before its outcome is known. -/
  deleted : ∀ outcome, (s.after moves).runner.execution.outcome? = some outcome →
    (s.after moves).runner.asked = [.create] ∨
      (s.after moves).runner.asked = [.create, .start, .closeStreams, .delete] ∨
      (s.after moves).runner.asked = [.create, .start, .wait, .closeStreams, .delete]
  /-- An outcome stays what it is. -/
  settled : ∀ outcome more, (s.after moves).runner.outcome? = some outcome →
    (s.after (moves ++ more)).runner.outcome? = some outcome
  /-- Whoever returned has the result of the outcome. -/
  told : ∀ (i : Nat) (result : Except LifecycleError Int32),
    (s.after moves).waits[i]? = some (.returned result) →
    ∃ outcome, (s.after moves).runner.outcome? = some outcome ∧
      result = Execution.resultOf id outcome
  /-- Now or later, any two that return have the same result. -/
  shared : ∀ (more : List Move) (i j : Nat) (result other : Except LifecycleError Int32),
    (s.after moves).waits[i]? = some (.returned result) →
    (s.after (moves ++ more)).waits[j]? = some (.returned other) → result = other
  /-- Whoever still waits can return once there is an outcome. -/
  returns : ∀ (i : Nat) (outcome : Outcome), (s.after moves).runner.outcome? = some outcome →
    (s.after moves).waits[i]? = some .waiting →
    ((s.after moves).step (.learn i)).waits[i]? =
      some (.returned (Execution.resultOf id outcome))
  /-- Neither whoever stops waiting nor a signal changes what the runner does. -/
  undisturbed : (s.after (moves.filter (!·.isAside))).runner = (s.after moves).runner

/-- Any number of waits share one run of the process. -/
theorem waits_share_one_run (id : ExecutionId) (role : String) (spec : ExecutionSpec)
    (task : RoleTask) (streams : ι) (moves : List Move) :
    OneRun id streams (fresh id role spec task streams) moves := by
  let s := fresh id role spec task streams
  have sound (moves : List Move) : Sound streams (s.after moves).runner :=
    after_invariant (P := fun t => Sound streams t.runner) (.idle rfl) fun t m _ => (sound_step · m)
  have told (moves : List Move) : (s.after moves).Told :=
    after_invariant (P := Told) (fun _ _ none => nomatch none) fun t m _ => (Told.step · m)
  have same_id (moves : List Move) : (s.after moves).runner.execution.id = id := id_after s moves
  have settled (outcome : Outcome) (more : List Move)
      (published : (s.after moves).runner.outcome? = some outcome) :
      (s.after (moves ++ more)).runner.outcome? = some outcome := by
    rw [after_append]
    exact outcome?_after published more
  refine ⟨?_, ?_, ?_, ?_, fun outcome more => settled outcome more, ?_, ?_, ?_, ?_⟩
  · exact (sound moves).asked_sublist
  · intro unawaited
    have idle : (s.after moves).runner.execution.run = none :=
      after_invariant (P := fun t => t.runner.execution.run = none) rfl fun t m mem idle =>
        run_none_step idle fun waits => unawaited (waits ▸ mem)
    exact (sound moves).asked_idle idle
  · exact (sound moves).handed_once
  · exact fun outcome => (sound moves).asked_finished
  · intro i result returned
    obtain ⟨outcome, published, same⟩ := told moves i result returned
    exact ⟨outcome, published, (same_id moves) ▸ same⟩
  · intro more i j result other returned later
    obtain ⟨outcome, published, rfl⟩ := told moves i result returned
    obtain ⟨again, republished, rfl⟩ := told (moves ++ more) j other later
    cases (settled outcome more published).symm.trans republished
    rw [same_id, same_id]
  · intro i outcome published waits
    have now := learn_waiting published waits
    rwa [same_id] at now
  · exact runner_filter rfl moves

/-- One of two waits is given up, and the process cannot be made. -/
example (id : ExecutionId) (role : String) (spec : ExecutionSpec) (task : RoleTask)
    (e : EngineError) :
    let s := (fresh id role spec task ()).after [.wait, .wait, .ask, .drop 0,
      .answer (.created (.error e)), .ask, .learn 1]
    s.runner.asked = [.create] ∧ s.waits =
      [.dropped, .returned (.error (.processFailed id.text none ["exec: " ++ e.message]))] :=
  ⟨rfl, rfl⟩

end SharedRun
end SandboxPods
