import SandboxPods.Engine.Attached
import SandboxPods.Proofs.Execution.SharedRun

/-!
# Two pumps and one end

A bridge is two pumps that take turns in any order. One feeds the caller's input to the
process, the other deals out the process's output, and whichever ends first waits for the
other. What the output comes to is the same under every order and is known soon. Whether
anybody hears of it is up to the input: it has to end, to fail, or to have something that
the process does not take any more. A caller whose input stays open without a word keeps
the bridge from its end, and with it whoever closes the streams or waits for the process.
-/
namespace SandboxPods.Bridge

/-- Which pump has its turn. In between the process may stop taking input. -/
inductive Turn where
  | input
  | output
  | refuse
  deriving DecidableEq, Repr

/-! ## The input -/

/-- The caller's input as it comes. -/
structure Feed where
  pieces : List Bytes := []
  ending : InputEnd := .closed
  deriving DecidableEq, Repr

structure InputPump where
  /-- What is still to come; nothing once the pump has ended. -/
  feed? : Option Feed
  /-- What the process has been sent. -/
  sent : Bytes := []
  /-- The process takes no more input. -/
  refused : Bool := false
  deriving DecidableEq, Repr

namespace InputPump

/-- Sends the next piece, and ends with the input or with a piece that is refused. -/
def turn (p : InputPump) : InputPump :=
  match p.feed? with
  | none => p
  | some ⟨data :: rest, kind⟩ =>
    if p.refused then { p with feed? := none }
    else { p with feed? := some ⟨rest, kind⟩, sent := p.sent ++ data }
  | some ⟨[], .silent⟩ => p
  | some ⟨[], _⟩ => { p with feed? := none }

def step (p : InputPump) : Turn → InputPump
  | .input => p.turn
  | .output => p
  | .refuse => { p with refused := true }

/-- What a turn of the pump is. -/
inductive Turned (p : InputPump) : InputPump → Prop
  | rests (ended : p.feed? = none) : Turned p p
  | silence (found : p.feed? = some ⟨[], .silent⟩) : Turned p p
  | ends {kind : InputEnd} (found : p.feed? = some ⟨[], kind⟩) (loud : kind ≠ .silent) :
      Turned p { p with feed? := none }
  | sends {data : Bytes} {rest : List Bytes} {kind : InputEnd}
      (found : p.feed? = some ⟨data :: rest, kind⟩) (taken : p.refused = false) :
      Turned p { p with feed? := some ⟨rest, kind⟩, sent := p.sent ++ data }
  | refused {data : Bytes} {rest : List Bytes} {kind : InputEnd}
      (found : p.feed? = some ⟨data :: rest, kind⟩) (refused : p.refused = true) :
      Turned p { p with feed? := none }

variable {p q : InputPump} {kind : InputEnd} {t : Turn}

theorem turned (p : InputPump) : p.Turned p.turn := by
  unfold turn
  split
  · exact .rests ‹_›
  · split
    · exact .refused ‹_› ‹_›
    · exact .sends ‹_› (Bool.eq_false_iff.2 ‹_›)
  · exact .silence ‹_›
  · rename_i kind loud found
    exact .ends found loud

/-- The pump waits for a caller who does not say anything any more. -/
def Stuck (p : InputPump) : Prop := p.feed? = some ⟨[], .silent⟩

theorem Turned.stuck (h : p.Turned q) (stuck : p.Stuck) : q.Stuck := by
  cases h with
  | rests ended => exact stuck
  | silence found => exact stuck
  | ends found loud =>
      cases stuck.symm.trans found
      exact (loud rfl).elim
  | sends found taken => cases stuck.symm.trans found
  | refused found refused => cases stuck.symm.trans found

theorem Stuck.step (h : p.Stuck) (t : Turn) : (p.step t).Stuck := by
  cases t with
  | input => exact (turned p).stuck h
  | output => exact h
  | refuse => exact h

/-- Any other pump is over after its next turn when the process takes no more. -/
theorem Turned.over_of_refused (h : p.Turned q) (free : ¬ p.Stuck) (refused : p.refused = true) :
    q.feed? = none := by
  cases h with
  | rests ended => exact ended
  | silence found => exact (free found).elim
  | ends found loud => rfl
  | sends found taken => cases refused.symm.trans taken
  | refused found refused => rfl

theorem over_step (p : InputPump) (h : p.feed? = none) (t : Turn) : (p.step t).feed? = none := by
  cases t with
  | input =>
      have idle : p.turn = p := by rw [turn, h]
      exact (congrArg feed? idle).trans h
  | output => exact h
  | refuse => exact h

/-- How the input goes, as long as the pump is not over. -/
def Goes (p : InputPump) (kind : InputEnd) : Prop := ∀ f, p.feed? = some f → f.ending = kind

theorem Turned.goes (h : p.Turned q) (goes : p.Goes kind) : q.Goes kind := by
  cases h with
  | rests ended => exact goes
  | silence found => exact goes
  | ends found loud => exact fun f found => nomatch found
  | sends found taken =>
      rintro f ⟨⟩
      have before := goes _ found
      exact before
  | refused found refused => exact fun f found => nomatch found

theorem Goes.step (h : p.Goes kind) (t : Turn) : (p.step t).Goes kind := by
  cases t with
  | input => exact (turned p).goes h
  | output => exact h
  | refuse => exact h

/-- The turns that the pump needs at most. -/
def left (p : InputPump) : Nat := p.feed?.elim 0 (·.pieces.length + 1)

theorem left_eq_zero : p.left = 0 ↔ p.feed? = none := by
  unfold left
  cases p.feed? with
  | none => exact ⟨fun _ => rfl, fun _ => rfl⟩
  | some f => exact ⟨nofun, nofun⟩

theorem Turned.left (h : p.Turned q) (goes : p.Goes kind) (loud : kind ≠ .silent) :
    q.left ≤ p.left - 1 := by
  cases h with
  | rests ended => simp [InputPump.left, ended]
  | silence found => exact (loud (goes _ found).symm).elim
  | ends found loud => exact Nat.zero_le _
  | sends found taken => simp [InputPump.left, found]
  | refused found refused => exact Nat.zero_le _

theorem left_other (p : InputPump) (other : t ≠ .input) : (p.step t).left = p.left := by
  cases t with
  | input => exact (other rfl).elim
  | output => rfl
  | refuse => rfl

/-- The pump is not over, and the process takes what comes. -/
def Open (p : InputPump) : Prop := p.feed?.isSome ∧ p.refused = false

theorem Turned.open (h : p.Turned q) (is_open : p.Open) (goes : p.Goes .silent) : q.Open := by
  cases h with
  | rests ended => exact is_open
  | silence found => exact is_open
  | ends found loud => exact (loud (goes _ found)).elim
  | sends found taken => exact ⟨rfl, taken⟩
  | refused found refused => cases is_open.2.symm.trans refused

theorem Open.step (h : p.Open) (goes : p.Goes .silent) (taken : t ≠ .refuse) : (p.step t).Open := by
  cases t with
  | input => exact (turned p).open h goes
  | output => exact h
  | refuse => exact (taken rfl).elim

/-- What the process is sent, and what it will be if it takes everything. -/
def whole (p : InputPump) : Bytes := p.sent ++ p.feed?.elim [] (·.pieces.flatten)

theorem Turned.whole (h : p.Turned q) (taken : p.refused = false) :
    q.refused = false ∧ q.whole = p.whole := by
  cases h with
  | rests ended => exact ⟨taken, rfl⟩
  | silence found => exact ⟨taken, rfl⟩
  | ends found loud => exact ⟨taken, by simp [InputPump.whole, found]⟩
  | sends found taken => exact ⟨taken, by simp [InputPump.whole, found]⟩
  | refused found refused => cases taken.symm.trans refused

theorem whole_step (takes : p.refused = false) (taken : t ≠ .refuse) :
    (p.step t).refused = false ∧ (p.step t).whole = p.whole := by
  cases t with
  | input => exact (turned p).whole takes
  | output => exact ⟨takes, rfl⟩
  | refuse => exact (taken rfl).elim

end InputPump

/-! ## The output -/

structure OutputPump where
  writers : Writers
  /-- What is still to come. -/
  frames : List Frame
  /-- What the output has come to, once the pump has ended. -/
  outcome? : Option (Except EngineError Unit) := none

namespace OutputPump
variable {p : OutputPump} {ending : Option String}

/-- Deals out the next frame, or does what the end of the output asks for. -/
def turn (ending : Option String) (p : OutputPump) : OutputPump :=
  match p.outcome?, p.frames with
  | some _, _ => p
  | none, frame :: rest =>
    match dealFrame p.writers frame with
    | (ws, .ok ()) => { p with writers := ws, frames := rest }
    | (ws, .error e) => ⟨ws, rest, some (.error e)⟩
  | none, [] =>
    let (ws, r) := deal ending p.writers []
    ⟨ws, [], some r⟩

def step (ending : Option String) (p : OutputPump) : Turn → OutputPump
  | .output => p.turn ending
  | _ => p

/-- What the pump comes to in the end. -/
def final (ending : Option String) (p : OutputPump) : Progress :=
  match p.outcome? with
  | some r => (p.writers, r)
  | none => deal ending p.writers p.frames

/-- The turns that the pump still needs. -/
def left (p : OutputPump) : Nat := if p.outcome?.isSome then 0 else p.frames.length + 1

theorem final_turn (p : OutputPump) : (p.turn ending).final ending = p.final ending := by
  obtain ⟨ws, frames, outcome⟩ := p
  cases outcome with
  | some r => cases frames <;> rfl
  | none =>
      cases frames with
      | nil => rfl
      | cons frame rest =>
          cases dealt : dealFrame ws frame with
          | mk ws' r => cases r <;> simp [turn, final, deal, dealt]

theorem left_turn (p : OutputPump) : (p.turn ending).left ≤ p.left - 1 := by
  obtain ⟨ws, frames, outcome⟩ := p
  cases outcome with
  | some r => cases frames <;> exact Nat.zero_le _
  | none =>
      cases frames with
      | nil => exact Nat.zero_le _
      | cons frame rest =>
          cases dealt : dealFrame ws frame with
          | mk ws' r => cases r <;> simp [turn, left, dealt]

theorem final_step (p : OutputPump) (t : Turn) :
    (p.step ending t).final ending = p.final ending := by
  cases t with
  | output => exact final_turn p
  | _ => rfl

theorem left_other {t : Turn} (p : OutputPump) (other : t ≠ .output) :
    (p.step ending t).left = p.left := by
  cases t with
  | output => exact (other rfl).elim
  | _ => rfl

/-- A pump that is over has come to what it was to come to. -/
theorem final_eq {r : Except EngineError Unit} (h : p.outcome? = some r) :
    p.final ending = (p.writers, r) := by
  rw [final, h]

theorem outcome?_of_left (h : p.left = 0) : p.outcome?.isSome := by
  unfold left at h
  split at h
  · assumption
  · cases h

end OutputPump

/-! ## Both pumps -/

/-- Its own turns bring a pump nearer to its end, and the turns of the other one do not take it
away from there. -/
theorem foldl_rank {σ : Type} {step : σ → Turn → σ} (rank : σ → Nat) {P : σ → Prop} (own : Turn)
    (keeps : ∀ s t, P s → P (step s t)) (falls : ∀ s, P s → rank (step s own) ≤ rank s - 1)
    (other : ∀ s t, t ≠ own → rank (step s t) = rank s) {s : σ} (start : P s) (turns : List Turn) :
    rank (turns.foldl step s) ≤ rank s - turns.count own := by
  induction turns generalizing s with
  | nil => exact Nat.le_refl _
  | cons t rest ih =>
      have after := ih (keeps s t start)
      rw [List.foldl_cons]
      by_cases mine : t = own
      · subst mine
        rw [List.count_cons_self]
        have less := falls s start
        omega
      · rw [other s t mine] at after
        rw [List.count_cons_of_ne mine]
        exact after

structure Pumps where
  input : InputPump
  output : OutputPump

namespace Pumps
variable {ending : Option String} {feed : Option Feed} {ws : Writers} {frames : List Frame}
variable {turns : List Turn}

def step (ending : Option String) (p : Pumps) (t : Turn) : Pumps :=
  ⟨p.input.step t, p.output.step ending t⟩

def after (ending : Option String) (p : Pumps) (turns : List Turn) : Pumps :=
  turns.foldl (step ending) p

/-- What the bridge returns, when both pumps are over. -/
def result? (p : Pumps) : Option (Except EngineError Unit) :=
  if p.input.feed?.isNone then p.output.outcome? else none

/-- A bridge at its start. Without an input the process's own is closed at once. -/
def begun (feed : Option Feed) (ws : Writers) (frames : List Frame) : Pumps :=
  ⟨⟨some (feed.getD {}), [], false⟩, ⟨ws, frames, none⟩⟩

/-- Neither pump sees anything of the other one. -/
theorem after_eq (p : Pumps) (turns : List Turn) : p.after ending turns =
    ⟨turns.foldl InputPump.step p.input, turns.foldl (OutputPump.step ending) p.output⟩ := by
  induction turns generalizing p with
  | nil => rfl
  | cons t rest ih => exact ih (p.step ending t)

theorem after_append (p : Pumps) (turns more : List Turn) :
    p.after ending (turns ++ more) = (p.after ending turns).after ending more :=
  List.foldl_append ..

theorem final_after (p : Pumps) (turns : List Turn) :
    (p.after ending turns).output.final ending = p.output.final ending := by
  rw [after_eq]
  exact List.foldlRecOn (motive := fun o : OutputPump => o.final ending = p.output.final ending)
    turns _ rfl fun o same t _ => (o.final_step t).trans same

theorem outcome?_after (p : Pumps) (enough : p.output.left ≤ turns.count .output) :
    (p.after ending turns).output.outcome?.isSome := by
  have rank : (turns.foldl (OutputPump.step ending) p.output).left ≤
      p.output.left - turns.count .output :=
    foldl_rank OutputPump.left .output (P := fun _ => True) (fun _ _ _ => trivial)
      (fun o _ => o.left_turn) (fun o _ other => o.left_other other) trivial turns
  have ended : (turns.foldl (OutputPump.step ending) p.output).left = 0 := by omega
  rw [after_eq]
  exact OutputPump.outcome?_of_left ended

theorem goes_begun (feed : Option Feed) (ws : Writers) (frames : List Frame) :
    (begun feed ws frames).input.Goes (feed.getD {}).ending := by
  rintro f ⟨⟩
  rfl

theorem over_after (loud : (feed.getD {}).ending ≠ .silent)
    (enough : (feed.getD {}).pieces.length < turns.count .input) :
    ((begun feed ws frames).after ending turns).input.feed? = none := by
  have rank : (turns.foldl InputPump.step (begun feed ws frames).input).left ≤
      (feed.getD {}).pieces.length + 1 - turns.count .input :=
    foldl_rank InputPump.left .input (P := fun p : InputPump => p.Goes (feed.getD {}).ending)
      (fun _ t goes => goes.step t) (fun p goes => (InputPump.turned p).left goes loud)
      (fun p _ other => p.left_other other) (goes_begun feed ws frames) turns
  have ended : (turns.foldl InputPump.step (begun feed ws frames).input).left = 0 := by omega
  rw [after_eq]
  exact InputPump.left_eq_zero.1 ended

theorem open_after (silent : (feed.getD {}).ending = .silent) (taken : .refuse ∉ turns) :
    ((begun feed ws frames).after ending turns).input.Open := by
  have start : (begun feed ws frames).input.Open ∧ (begun feed ws frames).input.Goes .silent :=
    ⟨⟨rfl, rfl⟩, silent ▸ goes_begun feed ws frames⟩
  rw [after_eq]
  exact (List.foldlRecOn (motive := fun p : InputPump => p.Open ∧ p.Goes .silent) turns _ start
    fun _ h t mem => ⟨h.1.step h.2 fun same => taken (same ▸ mem), h.2.step t⟩).1

theorem stuck_after {p : Pumps} (stuck : p.input.Stuck) (turns : List Turn) :
    (p.after ending turns).input.Stuck := by
  rw [after_eq]
  exact List.foldlRecOn (motive := InputPump.Stuck) turns _ stuck fun _ h t _ => h.step t

theorem result?_of_stuck {p : Pumps} (stuck : p.input.Stuck) : p.result? = none := by
  rw [result?, stuck]
  rfl

/-- A pump that is not stuck is over as soon as the process takes no more input and it has its
turn. -/
theorem over_of_not_stuck {p : Pumps} (free : ¬ p.input.Stuck) (turns : List Turn) :
    (p.after ending ([.refuse, .input] ++ turns)).input.feed? = none := by
  have ended : (p.after ending [.refuse, .input]).input.feed? = none :=
    (InputPump.turned { p.input with refused := true }).over_of_refused free rfl
  rw [after_append, after_eq]
  exact List.foldlRecOn (motive := fun p : InputPump => p.feed? = none) turns _ ended
    fun p ended t _ => p.over_step ended t

end Pumps

end SandboxPods.Bridge

/-! ## Whoever waits -/

namespace SandboxPods.SharedRun
open Runner
variable {ι : Type} {s : SharedRun ι} {m : Move}

/-- The runner closes the streams, and nobody has been told of an outcome. -/
structure Closing (s : SharedRun ι) : Prop where
  asks : s.runner.question? = some .closeStreams
  untold : ∀ (i : Nat) (result : Except LifecycleError Int32),
    s.waits[i]? ≠ some (.returned result)

theorem Closing.step (h : s.Closing) (unclosed : ∀ result, m ≠ .answer (.closed result))
    (kept : m ≠ .lose) : (s.step m).Closing := by
  constructor
  · cases m with
    | wait =>
        obtain ⟨stage, running, -⟩ := exists_stage h.asks
        simp only [step, Runner.await, running]
        exact h.asks
    | drop i => exact h.asks
    | learn i => exact h.asks
    | signal kill => exact h.asks
    | ask =>
        simp only [step, Runner.ask, h.asks]
        split
        · exact h.asks
        · exact h.asks
    | answer reply =>
        have refused : RunAsk.closeStreams.admits reply = false := by
          cases reply with
          | closed result => exact (unclosed result rfl).elim
          | _ => rfl
        simp only [step, Runner.answer, h.asks, refused, Bool.and_false]
        exact h.asks
    | lose => exact (kept rfl).elim
  · intro i result returned
    rcases returned_step returned with before | ⟨outcome, published, -⟩
    · exact h.untold i result before
    · cases (question?_of_outcome published).symm.trans h.asks

end SandboxPods.SharedRun

namespace SandboxPods.Bridge
open Pumps
variable {ending : Option String} {feed : Option Feed} {ws : Writers} {frames : List Frame}
variable {turns : List Turn} {r : Except EngineError Unit}

/-- The input as a whole. -/
def Feed.joined (f : Feed) : Input := ⟨f.pieces.flatten, f.ending⟩

/-- A process whose bridge has these streams. -/
def bridgedProcess (process : Runtime.Instance) (ending : Option String) (feed : Option Feed)
    (ws : Writers) (frames : List Frame) : Attached :=
  Attached.bridged { process, input := feed.map (·.joined), writers := ws } frames ending

theorem closing?_bridged (process : Runtime.Instance) (ending : Option String)
    (feed : Option Feed) (ws : Writers) (frames : List Frame) :
    (bridgedProcess process ending feed ws frames).closing? =
      if (feed.getD {}).ending = .silent then none else some (deal ending ws frames).2 := by
  cases feed with
  | none => rfl
  | some f => cases h : f.ending <;> simp [bridgedProcess, Attached.bridged, Attached.closing?, run,
      Feed.joined, h]

/-- How the streams of a process are closed, whatever the order of the turns. -/
structure Closes (process : Runtime.Instance) (ending : Option String) (feed : Option Feed)
    (ws : Writers) (frames : List Frame) : Prop where
  /-- What the bridge returns, and what the writers have then, is up to the output and the
  writers. -/
  same : ∀ turns r, ((begun feed ws frames).after ending turns).result? = some r →
    (((begun feed ws frames).after ending turns).output.writers, r) = deal ending ws frames
  /-- An input that ends or fails lets it return as soon as both pumps have had their turns. -/
  ends : (feed.getD {}).ending ≠ .silent → ∀ turns,
    (feed.getD {}).pieces.length < turns.count .input → frames.length < turns.count .output →
      ((begun feed ws frames).after ending turns).result? = some (deal ending ws frames).2
  /-- An input that stays open does not, as long as the process takes what comes, -/
  held : (feed.getD {}).ending = .silent → ∀ turns, .refuse ∉ turns →
    ((begun feed ws frames).after ending turns).result? = none
  /-- and it never does any more once all its data has been sent. -/
  stuck : ∀ turns,
    (∀ more, ((begun feed ws frames).after ending (turns ++ more)).result? = none) ↔
      ((begun feed ws frames).after ending turns).input.Stuck
  /-- A process that takes what comes has been sent all of the input when its pump is over. -/
  sent : ∀ turns, .refuse ∉ turns →
    ((begun feed ws frames).after ending turns).input.feed? = none →
      ((begun feed ws frames).after ending turns).input.sent = (feed.getD {}).joined.data
  /-- Closing the streams returns what the bridge returns to a process that takes its input. -/
  closing : ∀ r, (bridgedProcess process ending feed ws frames).closing? = some r ↔
    ∃ turns, .refuse ∉ turns ∧ ((begun feed ws frames).after ending turns).result? = some r
  /-- Whoever waits for a process whose streams do not close waits on. -/
  waits : (bridgedProcess process ending feed ws frames).closing? = none →
    ∀ (ι : Type) (s : SharedRun ι) (moves : List SharedRun.Move), s.Closing →
      (∀ result, .answer (.closed result) ∈ moves →
        (bridgedProcess process ending feed ws frames).closing? = some result) →
      .lose ∉ moves → (s.after moves).Closing

theorem same_after (ended : ((begun feed ws frames).after ending turns).result? = some r) :
    (((begun feed ws frames).after ending turns).output.writers, r) = deal ending ws frames := by
  unfold result? at ended
  split at ended
  · exact (OutputPump.final_eq ended).symm.trans (final_after (begun feed ws frames) turns)
  · cases ended

theorem result?_after (ended : ((begun feed ws frames).after ending turns).input.feed? = none)
    (enough : frames.length < turns.count .output) :
    ((begun feed ws frames).after ending turns).result? = some (deal ending ws frames).2 := by
  have dealt : ((begun feed ws frames).after ending turns).output.outcome?.isSome :=
    outcome?_after (begun feed ws frames) enough
  obtain ⟨r, known⟩ := Option.isSome_iff_exists.1 dealt
  have returns : ((begun feed ws frames).after ending turns).result? = some r := by
    rw [result?, ended]
    exact known
  rw [returns, ← same_after returns]

theorem held_after (silent : (feed.getD {}).ending = .silent) (taken : .refuse ∉ turns) :
    ((begun feed ws frames).after ending turns).result? = none := by
  have still : ((begun feed ws frames).after ending turns).input.Open := open_after silent taken
  obtain ⟨f, found⟩ := Option.isSome_iff_exists.1 still.1
  rw [result?, found]
  rfl

theorem sent_after (taken : .refuse ∉ turns)
    (ended : ((begun feed ws frames).after ending turns).input.feed? = none) :
    ((begun feed ws frames).after ending turns).input.sent = (feed.getD {}).joined.data := by
  have whole : ((begun feed ws frames).after ending turns).input.whole =
      (begun feed ws frames).input.whole := by
    rw [after_eq]
    exact (List.foldlRecOn
      (motive := fun p : InputPump =>
        p.refused = false ∧ p.whole = (begun feed ws frames).input.whole)
      turns _ ⟨rfl, rfl⟩ fun _ h t mem =>
        have kept := InputPump.whole_step h.1 fun same => taken (same ▸ mem)
        ⟨kept.1, kept.2.trans h.2⟩).2
  rw [InputPump.whole, ended] at whole
  exact (List.append_nil _).symm.trans whole

/-- The bridge returns when both of its pumps are over. What it returns is settled by the output;
whether it returns is up to the input, and so is whether anybody who waits does. -/
theorem streams_close (process : Runtime.Instance) (ending : Option String) (feed : Option Feed)
    (ws : Writers) (frames : List Frame) : Closes process ending feed ws frames where
  same _ _ := same_after
  ends loud _ input output := result?_after (over_after loud input) output
  held silent _ taken := held_after silent taken
  sent _ := sent_after
  stuck turns := by
    constructor
    · intro never
      refine Classical.byContradiction fun free => ?_
      let more := [Turn.refuse, .input] ++ List.replicate (frames.length + 1) .output
      have enough : frames.length < (turns ++ more).count .output := by
        simp [more, List.count_append]
        omega
      have ended : ((begun feed ws frames).after ending (turns ++ more)).input.feed? = none := by
        rw [after_append]
        exact over_of_not_stuck free _
      cases (never more).symm.trans (result?_after ended enough)
    · intro stuck more
      rw [after_append]
      exact result?_of_stuck (stuck_after stuck more)
  closing r := by
    rw [closing?_bridged]
    constructor
    · intro closes
      split at closes
      · cases closes
      · rename_i loud
        let turns := List.replicate ((feed.getD {}).pieces.length + 1) Turn.input ++
          List.replicate (frames.length + 1) .output
        refine ⟨turns, by simp [turns, List.mem_replicate], ?_⟩
        rw [← closes]
        refine result?_after (over_after loud ?_) ?_
        · simp [turns, List.count_append, List.count_replicate]
        · simp [turns, List.count_append, List.count_replicate]
    · rintro ⟨turns, taken, returns⟩
      have loud : (feed.getD {}).ending ≠ .silent := by
        intro silent
        cases (held_after silent taken).symm.trans returns
      rw [if_neg loud, ← same_after returns]
  waits never ι s moves closing told kept := by
    apply SharedRun.after_invariant closing
    intro s m mem closing
    refine closing.step ?_ fun same => kept (same ▸ mem)
    rintro result rfl
    cases never.symm.trans (told result mem)

/-- A caller who has sent a word and keeps the input open: the process has it, the output has
ended well, and the bridge does not return any more. -/
theorem open_input_holds_the_bridge :
    let feed : Feed := ⟨[[119, 111, 114, 100]], .silent⟩
    let later := (begun (some feed) {} []).after none [.input, .output]
    later.input.sent = feed.pieces.flatten ∧ later.output.outcome? = some (.ok ()) ∧
      (∀ more, (later.after none more).result? = none) ∧
      (bridgedProcess ⟨⟨"p1"⟩, "e1"⟩ none (some feed) {} []).closing? = none := by
  intro feed later
  have stuck : later.input.Stuck := rfl
  exact ⟨rfl, rfl, fun more => result?_of_stuck (stuck_after stuck more), rfl⟩

end SandboxPods.Bridge
