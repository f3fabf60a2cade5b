import Mathlib.Logic.Function.Iterate
import SandboxPods.Proofs.Execution.SharedRun

/-!
# What a run brings and what it leaves behind

The runtime's replies to the questions of a run determine the run: which of the questions
are asked, and the outcome. Whoever waits may come and go, and signals may be sent, in any
order. A process that was made has its streams closed and is then deleted, once each, also
when it could not be started or its end could not be learned. What became of the deletion
is not told to anybody.
-/
namespace SandboxPods

/-- What the runtime replies to each question of a run. -/
structure RunReplies where
  created : Except EngineError Unit
  started : Except EngineError Unit
  exited : Except EngineError ExitStatus
  closed : Except EngineError Unit
  deleted : Except EngineError Unit

namespace RunReplies

def answer (replies : RunReplies) : RunAsk → RunAnswer
  | .create => .created replies.created
  | .start => .started replies.started
  | .wait => .exited replies.exited
  | .closeStreams => .closed replies.closed
  | .delete => .deleted replies.deleted

/-! ## What the replies amount to -/

/-- The exit code, if the process was started and its end was learned. -/
def code? (replies : RunReplies) : Option Int32 :=
  match replies.started, replies.exited with
  | .ok (), .ok status => some status.code
  | _, _ => none

/-- What went wrong up to the end of the process. -/
def exitCauses (replies : RunReplies) : Causes :=
  match replies.started, replies.exited with
  | .error e, _ => ["start: " ++ e.message]
  | .ok (), .error e => ["wait: " ++ e.message]
  | .ok (), .ok status => status.error.toList

def closeCauses (replies : RunReplies) : Causes :=
  match replies.closed with
  | .error e => ["close io: " ++ e.message]
  | .ok () => []

def outcome (replies : RunReplies) : Outcome :=
  match replies.created with
  | .error e => ⟨none, ["exec: " ++ e.message]⟩
  | .ok () => ⟨replies.code?, replies.exitCauses ++ replies.closeCauses⟩

/-- Every question of the run, in order. -/
def questions (replies : RunReplies) : List RunAsk :=
  match replies.created, replies.started with
  | .error _, _ => [.create]
  | .ok (), .error _ => [.create, .start, .closeStreams, .delete]
  | .ok (), .ok () => [.create, .start, .wait, .closeStreams, .delete]

/-! ## The run by itself -/

def advance (replies : RunReplies) (stage : RunStage) : RunStage :=
  match stage.ask? with
  | some ask => stage.resume (replies.answer ask)
  | none => stage

/-- The stage of the run after some of its questions were answered. -/
def stageAfter (replies : RunReplies) (n : Nat) : RunStage := replies.advance^[n] .creating

variable {replies : RunReplies} {n : Nat} {ask : RunAsk} {stage : RunStage}

theorem stageAfter_succ (replies : RunReplies) (n : Nat) :
    replies.stageAfter (n + 1) = replies.advance (replies.stageAfter n) :=
  Function.iterate_succ_apply' ..

theorem advance_of_ask (asks : stage.ask? = some ask) :
    replies.advance stage = stage.resume (replies.answer ask) := by
  rw [advance, asks]

/-- A run that has nothing to ask stays where it is. -/
theorem stageAfter_add (halted : (replies.stageAfter n).ask? = none) (k : Nat) :
    replies.stageAfter (n + k) = replies.stageAfter n := by
  induction k with
  | zero => rfl
  | succ k ih => rw [← Nat.add_assoc, stageAfter_succ, ih, advance, halted]

/-- After five answers at most the run is over. -/
theorem stageAfter_five (replies : RunReplies) :
    replies.stageAfter 5 = .finished replies.created.isOk replies.outcome := by
  obtain ⟨created, started, exited, closed, deleted⟩ := replies
  cases created with
  | error e => rfl
  | ok u =>
      cases started with
      | error e => cases closed <;> rfl
      | ok v =>
          cases exited with
          | error e => cases closed <;> rfl
          | ok status =>
              cases closed with
              | error e => rfl
              | ok w =>
                  simp only [outcome, code?, exitCauses, closeCauses, List.append_nil]
                  rfl

/-- Each question is due once those before it are answered. -/
theorem ask?_stageAfter (replies : RunReplies) (n : Nat) :
    (replies.stageAfter n).ask? = replies.questions[n]? := by
  have last : (replies.stageAfter 5).ask? = none := by
    rw [stageAfter_five]
    rfl
  have few : replies.questions.length ≤ 5 := by
    unfold questions
    split <;> decide
  obtain ⟨created, started, exited, closed, deleted⟩ := replies
  match n with
  | k + 5 =>
      rw [Nat.add_comm, stageAfter_add last, last, List.getElem?_eq_none (by omega)]
  | 0 | 1 | 2 | 3 | 4 =>
      cases created with
      | error e => rfl
      | ok u =>
          cases started with
          | error e => rfl
          | ok v => rfl

/-- The run is over when every question is answered, and not before. -/
theorem stageAfter_of_le (all : replies.questions.length ≤ n) :
    replies.stageAfter n = .finished replies.created.isOk replies.outcome := by
  have halted : (replies.stageAfter n).ask? = none := by
    rw [ask?_stageAfter, List.getElem?_eq_none all]
  have same := stageAfter_add halted 5
  rw [Nat.add_comm, stageAfter_add] at same
  · rw [← same, stageAfter_five]
  · rw [stageAfter_five]
    rfl

theorem outcome?_stageAfter {outcome : Outcome}
    (h : (replies.stageAfter n).outcome? = some outcome) :
    replies.questions.length ≤ n ∧ outcome = replies.outcome := by
  have asked := Runner.ask?_of_outcome h
  rw [ask?_stageAfter] at asked
  have all := List.getElem?_eq_none_iff.1 asked
  rw [stageAfter_of_le all] at h
  exact ⟨all, (Option.some.inj h).symm⟩

theorem admits_answer {other : RunAsk} :
    other.admits (replies.answer ask) = true ↔ other = ask := by
  cases other <;> cases ask <;> simp [RunAsk.admits, answer]

end RunReplies

/-! ## The runner beside everybody else -/

namespace Runner
variable {ι : Type} {r : Runner ι} {replies : RunReplies} {n : Nat} {q : RunAsk}

/-- The runner has been told the answers to so many of its questions, and perhaps it has asked
the next one. -/
structure At (replies : RunReplies) (n : Nat) (r : Runner ι) : Prop where
  running : r.execution.run = some (replies.stageAfter n)
  kept : r.lost = false
  asked : r.asked = replies.questions.take (if r.pending then n + 1 else n)

theorem At.question? (h : At replies n r) : r.question? = replies.questions[n]? := by
  simp [Runner.question?, h.kept, h.running, RunReplies.ask?_stageAfter]

theorem At.outcome? (h : At replies n r) : r.outcome? = (replies.stageAfter n).outcome? := by
  simp [Runner.outcome?, h.kept, Execution.outcome?, h.running]

theorem At.await (h : At replies n r) : At replies n r.await := by
  have same : r.await = r := by
    simp [Runner.await, h.running]
  rw [same]
  exact h

/-- A question that is due is asked, unless it has been. -/
theorem At.ask (h : At replies n r) :
    At replies n r.ask ∧ (n < replies.questions.length → r.ask.pending = true) := by
  cases due : replies.questions[n]? with
  | none =>
      have same : r.ask = r := by
        simp [Runner.ask, h.question?, due]
      rw [same]
      exact ⟨h, fun lt => absurd (List.getElem?_eq_none_iff.1 due) (by omega)⟩
  | some q =>
      cases pending : r.pending with
      | true =>
          have same : r.ask = r := by
            simp [Runner.ask, h.question?, due, pending]
          rw [same]
          exact ⟨h, fun _ => pending⟩
      | false =>
          have noted : r.ask = { r with asked := r.asked ++ [q], pending := true } := by
            simp [Runner.ask, h.question?, due, pending]
          rw [noted]
          refine ⟨⟨h.running, h.kept, ?_⟩, fun _ => rfl⟩
          simp [h.asked, pending, List.take_add_one, due]

/-- The reply to the question that was asked brings the run one stage further. -/
theorem At.told (h : At replies n r) (pending : r.pending = true)
    (due : replies.questions[n]? = some q) : At replies (n + 1) (r.answer (replies.answer q)) := by
  have admits : q.admits (replies.answer q) = true := RunReplies.admits_answer.2 rfl
  have told : r.answer (replies.answer q) =
      { r with execution := r.execution.resume (replies.answer q), pending := false } := by
    simp [Runner.answer, h.question?, due, pending, admits]
  have asks : (replies.stageAfter n).ask? = some q := (RunReplies.ask?_stageAfter ..).trans due
  rw [told]
  refine ⟨?_, h.kept, ?_⟩
  · simp [Execution.resume, h.running, RunReplies.stageAfter_succ, RunReplies.advance_of_ask asks]
  · simp [h.asked, pending]

/-- A reply to anything else passes the runner by. -/
theorem At.untold (h : At replies n r) (other : replies.questions[n]? ≠ some q) :
    r.answer (replies.answer q) = r := by
  cases due : replies.questions[n]? with
  | none => simp [Runner.answer, h.question?, due]
  | some p =>
      have ne : p ≠ q := fun e => other (e ▸ due)
      have refused : p.admits (replies.answer q) = false :=
        Bool.eq_false_iff.2 fun admits => ne (RunReplies.admits_answer.1 admits)
      simp [Runner.answer, h.question?, due, refused]

theorem At.answer (h : At replies n r) (q : RunAsk) :
    ∃ k, At replies k (r.answer (replies.answer q)) := by
  by_cases due : replies.questions[n]? = some q
  · cases pending : r.pending with
    | true => exact ⟨n + 1, h.told pending due⟩
    | false =>
        have same : r.answer (replies.answer q) = r := by
          simp [Runner.answer, h.question?, due, pending]
        rw [same]
        exact ⟨n, h⟩
  · rw [h.untold due]
    exact ⟨n, h⟩

/-- Nobody has waited yet, or the runner is on its way. -/
inductive Along (replies : RunReplies) (r : Runner ι) : Prop
  | idle : r.execution.run = none → r.lost = false → r.pending = false → r.asked = [] →
      Along replies r
  | busy (n : Nat) : At replies n r → Along replies r

theorem Along.at_await (h : Along replies r) : ∃ n, At replies n r.await := by
  cases h with
  | idle idle kept resting asked =>
      refine ⟨0, ?_⟩
      have setOut : r.await = { r with
          execution := { r.execution with run := some .creating }
          streams := none, handed := r.handed ++ [r.streams] } := by
        simp [Runner.await, Execution.awaited, idle]
      rw [setOut]
      exact ⟨rfl, kept, by simp [asked, resting]⟩
  | busy n here => exact ⟨n, here.await⟩

theorem Along.asked (h : Along replies r) : r.asked <+: replies.questions := by
  cases h with
  | idle idle kept resting asked =>
      rw [asked]
      exact List.nil_prefix
  | busy n here =>
      rw [here.asked]
      exact List.take_prefix _ _

/-- With the outcome every question has been asked. -/
theorem Along.ended {outcome : Outcome} (h : Along replies r)
    (published : r.outcome? = some outcome) :
    r.asked = replies.questions ∧ outcome = replies.outcome := by
  cases h with
  | idle idle kept resting asked =>
      simp [Runner.outcome?, kept, Execution.outcome?, idle] at published
  | busy n here =>
      rw [here.outcome?] at published
      obtain ⟨all, same⟩ := RunReplies.outcome?_stageAfter published
      refine ⟨?_, same⟩
      rw [here.asked, List.take_of_length_le]
      split <;> omega

end Runner

/-! ## Moves -/

namespace SharedRun
open Runner
variable {ι : Type} {s : SharedRun ι} {replies : RunReplies}
variable {m : Move} {moves : List Move} {n : Nat}

/-- The runtime answers with its replies, and the runner is not lost. -/
def Move.Follows (replies : RunReplies) : Move → Prop
  | .answer reply => ∃ ask, reply = replies.answer ask
  | .lose => False
  | _ => True

theorem at_step (h : At replies n s.runner) (follows : m.Follows replies) :
    ∃ k, At replies k (s.step m).runner := by
  cases m with
  | wait => exact ⟨n, h.await⟩
  | drop i => exact ⟨n, h⟩
  | learn i => exact ⟨n, h⟩
  | signal kill => exact ⟨n, h⟩
  | ask => exact ⟨n, h.ask.1⟩
  | answer reply =>
      obtain ⟨ask, rfl⟩ := follows
      exact h.answer ask
  | lose => exact follows.elim

theorem along_step (h : Along replies s.runner) (follows : m.Follows replies) :
    Along replies (s.step m).runner := by
  cases h with
  | busy n here =>
      obtain ⟨k, there⟩ := at_step here follows
      exact .busy k there
  | idle idle kept resting asked =>
      have silent : s.runner.question? = none := by
        simp [Runner.question?, idle]
      have still : Along replies s.runner := .idle idle kept resting asked
      cases m with
      | wait =>
          obtain ⟨n, here⟩ := still.at_await
          exact .busy n here
      | drop i => exact still
      | learn i => exact still
      | signal kill => exact still
      | ask => simpa [step, Runner.ask, silent] using still
      | answer reply => simpa [step, Runner.answer, silent] using still
      | lose => exact follows.elim

/-- Once somebody has waited the runner is on its way. -/
theorem at_after (h : Along replies s.runner) (follows : ∀ m ∈ moves, m.Follows replies)
    (awaited : .wait ∈ moves) : ∃ n, At replies n (s.after moves).runner := by
  obtain ⟨before, later, rfl⟩ := List.append_of_mem awaited
  have first : Along replies (s.after before).runner :=
    after_invariant (P := fun s => Along replies s.runner) h fun s m member along =>
      along_step along (follows m (List.mem_append_left _ member))
  rw [after_append]
  change ∃ n, At replies n (((s.after before).step .wait).after later).runner
  apply after_invariant (P := fun s => ∃ n, At replies n s.runner)
  · exact first.at_await
  · rintro s m member ⟨n, here⟩
    exact at_step here (follows m (by simp [member]))

/-- A question of the runner and the reply to it. -/
def turn (replies : RunReplies) (ask : RunAsk) : List Move := [.ask, .answer (replies.answer ask)]

/-- A turn for every question there is, in the order of a run. -/
def turns (replies : RunReplies) : List Move :=
  [.create, .start, .wait, .closeStreams, .delete].flatMap (turn replies)

/-- Turns for all the questions that are left bring the run to its end. -/
theorem at_turns {asks : List RunAsk} (h : At replies n s.runner)
    (left : (replies.questions.drop n).Sublist asks) :
    ∃ k, replies.questions.length ≤ k ∧
      At replies k (s.after (asks.flatMap (turn replies))).runner := by
  induction asks generalizing n s with
  | nil =>
      have none_left := List.drop_eq_nil_iff.1 (List.sublist_nil.1 left)
      exact ⟨n, none_left, h⟩
  | cons ask rest ih =>
      rw [List.flatMap_cons, after_append]
      obtain ⟨asked, pending⟩ := h.ask
      by_cases due : replies.questions[n]? = some ask
      · have lt := (List.getElem?_eq_some_iff.1 due).1
        refine ih (n := n + 1) (asked.told (pending lt) due) ?_
        rw [List.drop_eq_getElem?_toList_append, due] at left
        exact List.cons_sublist_cons.1 left
      · refine ih (n := n) ?_ ?_
        · change At replies n (s.runner.ask.answer (replies.answer ask))
          rw [asked.untold due]
          exact asked
        · cases next : replies.questions.drop n with
          | nil => exact List.nil_sublist _
          | cons q more =>
              rw [next] at left
              have here : replies.questions[n]? = some q := by
                rw [← List.head?_drop, next]
                rfl
              rcases List.sublist_cons_iff.1 left with skipped | ⟨_, same, -⟩
              · exact skipped
              · cases same
                exact (due here).elim

/-! ## What becomes of a run -/

/-- The questions of a run that is over, and its outcome. -/
structure Settled (replies : RunReplies) (asked : List RunAsk) (outcome : Outcome) : Prop where
  /-- Where no process was made there is nothing more to ask. -/
  uncreated : ∀ e, replies.created = .error e →
    asked = [.create] ∧ outcome = ⟨none, ["exec: " ++ e.message]⟩
  /-- A process that was made has its streams closed and is then deleted, once each. -/
  released : replies.created = .ok () → asked = [.create, .start] ++
    (if replies.started.isOk then [.wait] else []) ++ [.closeStreams, .delete]
  /-- The first failure up to the end of the process, and then that of its streams. -/
  causes : replies.created = .ok () →
    outcome.causes = replies.exitCauses ++ replies.closeCauses
  coded : ∀ code, outcome.code = some code ↔ replies.created = .ok () ∧
    replies.started = .ok () ∧ ∃ status, replies.exited = .ok status ∧ status.code = code
  /-- The outcome would have been the same with any other result of the deletion. -/
  undisclosed : ∀ result, ({ replies with deleted := result } : RunReplies).outcome = outcome

theorem settled_questions (replies : RunReplies) :
    Settled replies replies.questions replies.outcome := by
  obtain ⟨created, started, exited, closed, deleted⟩ := replies
  cases created with
  | error e =>
      refine ⟨?_, nofun, nofun, ?_, fun _ => rfl⟩
      · rintro _ ⟨⟩
        exact ⟨rfl, rfl⟩
      · simp [RunReplies.outcome]
  | ok u =>
      refine ⟨nofun, fun _ => ?_, fun _ => rfl, ?_, fun _ => rfl⟩
      · cases started <;> rfl
      · cases started with
        | error e => simp [RunReplies.outcome, RunReplies.code?]
        | ok v => cases exited <;> simp [RunReplies.outcome, RunReplies.code?]

/-- A wait gives the exit code of a run in which nothing went wrong, and otherwise the failure with
the exit code, if there is one, and every cause. -/
structure Reports (id : ExecutionId) (outcome : Outcome) (result : Except LifecycleError Int32) :
    Prop where
  ok : ∀ code, result = .ok code ↔ outcome.code = some code ∧ outcome.causes = []
  error : ∀ e, result = .error e ↔ (outcome.code = none ∨ outcome.causes ≠ []) ∧
    e = .processFailed id.text outcome.code outcome.causes

theorem reports_resultOf (id : ExecutionId) (outcome : Outcome) :
    Reports id outcome (Execution.resultOf id outcome) := by
  obtain ⟨code, causes⟩ := outcome
  cases code with
  | none => constructor <;> simp [Execution.resultOf, eq_comm]
  | some code => cases causes <;> constructor <;> simp [Execution.resultOf, eq_comm]

/-- What holds after moves in which the runtime gave the replies. -/
structure Reaped (id : ExecutionId) (replies : RunReplies) (s : SharedRun ι) (moves : List Move) :
    Prop where
  asked : (s.after moves).runner.asked <+: replies.questions
  settled : ∀ outcome, (s.after moves).runner.outcome? = some outcome →
    Settled replies (s.after moves).runner.asked outcome
  reported : ∀ (i : Nat) (result : Except LifecycleError Int32),
    (s.after moves).waits[i]? = some (.returned result) →
    ∃ outcome, (s.after moves).runner.outcome? = some outcome ∧ Reports id outcome result
  /-- Once somebody has waited, the runner comes to its end if it is given its turns, and then
  whoever still waits can return. -/
  ends : .wait ∈ moves →
    ∃ outcome, (s.after (moves ++ turns replies)).runner.outcome? = some outcome ∧
      ∀ i, (s.after moves).waits[i]? = some .waiting →
        ∃ result, Reports id outcome result ∧
          (s.after (moves ++ turns replies ++ [.learn i])).waits[i]? = some (.returned result)

theorem questions_sublist (replies : RunReplies) :
    replies.questions.Sublist [.create, .start, .wait, .closeStreams, .delete] := by
  unfold RunReplies.questions
  split <;> decide

theorem waits_turns (s : SharedRun ι) (replies : RunReplies) :
    (s.after (turns replies)).waits = s.waits :=
  after_invariant (P := fun t => t.waits = s.waits) rfl fun t m member same => by
    obtain ⟨ask, -, member⟩ := List.mem_flatMap.1 member
    rcases List.mem_cons.1 member with rfl | member
    · exact same
    · rw [List.mem_singleton.1 member]
      exact same

/-- However the runtime replies, the run is brought to its end and accounted for. -/
theorem run_settled {replies : RunReplies} (id : ExecutionId) (role : String) (spec : ExecutionSpec)
    (task : RoleTask) (streams : ι) (follows : ∀ m ∈ moves, m.Follows replies) :
    Reaped id replies (fresh id role spec task streams) moves := by
  let s := fresh id role spec task streams
  have start : Along replies s.runner := .idle rfl rfl rfl rfl
  have along : Along replies (s.after moves).runner :=
    after_invariant (P := fun s => Along replies s.runner) start fun s m member along =>
      along_step along (follows m member)
  have told : (s.after moves).Told :=
    after_invariant (P := Told) (fun _ _ none => nomatch none) fun t m _ => (Told.step · m)
  have same_id (moves : List Move) : (s.after moves).runner.execution.id = id := id_after s moves
  refine ⟨along.asked, ?_, ?_, ?_⟩
  · intro outcome published
    obtain ⟨asked, rfl⟩ := along.ended published
    rw [asked]
    exact settled_questions replies
  · intro i result returned
    obtain ⟨outcome, published, rfl⟩ := told i result returned
    rw [same_id]
    exact ⟨outcome, published, reports_resultOf id outcome⟩
  · intro awaited
    obtain ⟨n, here⟩ := at_after start follows awaited
    obtain ⟨k, all, there⟩ :=
      at_turns here ((List.drop_sublist ..).trans (questions_sublist replies))
    have published : (s.after (moves ++ turns replies)).runner.outcome? = some replies.outcome := by
      rw [after_append]
      exact there.outcome?.trans (by rw [RunReplies.stageAfter_of_le all]; rfl)
    refine ⟨_, published, fun i waits => ⟨_, reports_resultOf id _, ?_⟩⟩
    have still : (s.after (moves ++ turns replies)).waits[i]? = some .waiting := by
      rw [after_append, waits_turns]
      exact waits
    have now := learn_waiting published still
    rw [same_id] at now
    rw [after_append]
    exact now

/-- A process that cannot be started, whose streams cannot be closed and which cannot be
deleted. -/
def unstarted : RunReplies where
  created := .ok ()
  started := .error (.execFailed "no such file")
  exited := .ok { code := 0 }
  closed := .error (.io "broken pipe")
  deleted := .error (.processNotFound "p1")

/-- Two wait for it, one of them not to the end. -/
def unstartedMoves : List Move :=
  [.wait, .ask, .wait, .answer (unstarted.answer .create), .ask, .answer (unstarted.answer .start),
    .drop 0, .ask, .answer (unstarted.answer .closeStreams), .ask,
    .answer (unstarted.answer .delete), .learn 1]

def unstartedRun : SharedRun Unit :=
  (fresh ⟨"p1"⟩ "app"
    { args := ["ls"], env := [], cwd := "/", user := ⟨0, 0, "root"⟩, capabilities := [] }
    ⟨⟨"c1"⟩, 4242⟩ ()).after unstartedMoves

/-- The streams are closed and the process is deleted all the same, and only the failure of the
deletion is left out. -/
theorem unstarted_process_settled : (∀ m ∈ unstartedMoves, m.Follows unstarted) ∧
    Settled unstarted [.create, .start, .closeStreams, .delete] ⟨none,
      ["start: exec failed: no such file", "close io: I/O failed: broken pipe"]⟩ ∧
    unstartedRun.waits[1]? = some (.returned (.error (.processFailed "p1" none
      ["start: exec failed: no such file", "close io: I/O failed: broken pipe"]))) := by
  have follows : ∀ m ∈ unstartedMoves, m.Follows unstarted := by
    simp only [unstartedMoves, List.forall_mem_cons]
    exact ⟨trivial, trivial, trivial, ⟨.create, rfl⟩, trivial, ⟨.start, rfl⟩, trivial, trivial,
      ⟨.closeStreams, rfl⟩, trivial, ⟨.delete, rfl⟩, trivial, nofun⟩
  have asked : unstartedRun.runner.asked = [.create, .start, .closeStreams, .delete] := rfl
  have published : unstartedRun.runner.outcome? = some ⟨none,
      ["start: exec failed: no such file", "close io: I/O failed: broken pipe"]⟩ := by decide
  refine ⟨follows, ?_, rfl⟩
  rw [← asked]
  exact (run_settled ⟨"p1"⟩ "app" _ ⟨⟨"c1"⟩, 4242⟩ () follows).settled _ published

end SharedRun
end SandboxPods
