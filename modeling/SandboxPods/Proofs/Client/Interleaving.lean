import SandboxPods.Proofs.Client.Progress

/-!
# Interleavings

An interleaving is the work of one connected client: its books, every call that was
ever begun, and the history of what the calls asked and what they were told. A move
begins a call or ends the wait of one; between two waits a call runs alone, and any
call may be next. Nothing is said here about which answers come, or when: what is
expected of the collaborators or of the callers is a condition on moves that a
statement names. Times are those at which a wait ends, and no order of them is
assumed.
-/
namespace SandboxPods

structure Interleaving where
  books : Books
  /-- The calls in the order in which they were begun. A call that returned keeps its position. -/
  calls : List Call := []
  /-- Every question, with the position of the call that asked it. -/
  asked : List (Nat × Ask) := []
  /-- Every end of a wait, with the position of the call. -/
  told : List (Nat × Event) := []

inductive Move where
  | create (spec : SandboxSpec) (deadline : Instant)
  | destroy (handle : String) (deadline : Instant)
  /-- The wait of the call at a position ends. -/
  | event (position : Nat) (now : Instant) (event : Event)

/-- What a move tells a call, with the position of the call. -/
def Move.telling : Move → List (Nat × Event)
  | .event position _ news => [(position, news)]
  | _ => []

namespace Call

def handle : Call → String
  | .create call => call.spec.handle
  | .destroy call => call.handle

def isReturned : Call → Bool
  | .create { stage := .finished _, .. } => true
  | .destroy { stage := .finished _, .. } => true
  | _ => false

/-- The claim of a creation that has neither registered its sandbox nor returned. -/
def claim? : Call → Option PortClaim
  | .create call => call.claim?
  | .destroy _ => none

theorem pod?_of_returned {call : DestroyCall} (h : (Call.destroy call).isReturned = true) :
    call.pod? = none := by
  obtain ⟨handle, deadline, stage⟩ := call
  cases stage with
  | finished result => rfl
  | _ => cases h

theorem busy_of_key? {call : CreateCall} {key : Nat} (h : call.key? = some key) :
    (Call.create call).isReturned = false := by
  obtain ⟨spec, deadline, stage⟩ := call
  cases stage with
  | finished result => cases h
  | _ => rfl

theorem busy_of_claim? {call : CreateCall} {claim : PortClaim} (h : call.claim? = some claim) :
    (Call.create call).isReturned = false := by
  obtain ⟨spec, deadline, stage⟩ := call
  cases stage with
  | finished result => cases h
  | _ => rfl

theorem not_admits_of_returned {client : Client} {books : Books} {now : Instant} {event : Event}
    {call : Call} (h : call.isReturned = true) :
    (call.awaiting client books).admits now event = false := by
  cases call with
  | create call =>
      obtain ⟨spec, deadline, stage⟩ := call
      cases stage with
      | finished result => rfl
      | _ => cases h
  | destroy call =>
      obtain ⟨handle, deadline, stage⟩ := call
      cases stage with
      | finished result => rfl
      | _ => cases h

end Call

/-- A creation attends to its sandbox until it returns. -/
theorem CreateCall.Attending.key_or_returned {books : Books} {call : CreateCall} {key : Nat}
    {event : Event} {r : Books × CreateCall} (h : Attending books call key event r) :
    r.2.key? = some key ∨ (Call.create r.2).isReturned = true := by
  cases h with
  | waits same later => exact .inl same
  | sees told same later => exact .inl same
  | completes tasks => exact .inr rfl
  | fails e => exact .inr rfl

namespace Interleaving

/-- What the call at a position asks when it has arrived at a wait. -/
def question (client : Client) (position : Nat) (r : Books × Call) : List (Nat × Ask) :=
  ((r.2.awaiting client r.1).ask?.map (position, ·)).toList

def begun (client : Client) (s : Interleaving) (r : Books × Call) : Interleaving where
  books := r.1
  calls := s.calls ++ [r.2]
  asked := s.asked ++ question client s.calls.length r
  told := s.told

def advanced (client : Client) (s : Interleaving) (position : Nat) (event : Event)
    (r : Books × Call) : Interleaving where
  books := r.1
  calls := s.calls.set position r.2
  asked := s.asked ++ question client position r
  told := s.told ++ [(position, event)]

def step (client : Client) (s : Interleaving) : Move → Interleaving
  | .create spec deadline => s.begun client (Call.creating client s.books spec deadline)
  | .destroy handle deadline => s.begun client (s.books, Call.destroying s.books handle deadline)
  | .event position now event =>
    match s.calls[position]? with
    | some call => s.advanced client position event (call.resume client now s.books event)
    | none => s

/-- A call may be begun at any time; an event must be one that the call waits for. -/
def Admits (client : Client) (s : Interleaving) : Move → Prop
  | .create .. => True
  | .destroy .. => True
  | .event position now event => ∃ call, s.calls[position]? = some call ∧
      (call.awaiting client s.books).admits now event = true

/-- Interleavings that come about through moves which satisfy a condition. -/
inductive Reaches (client : Client) (allowed : Interleaving → Move → Prop) (s : Interleaving) :
    Interleaving → Prop
  | start : Reaches client allowed s s
  | step {t : Interleaving} {m : Move} : Reaches client allowed s t → t.Admits client m →
      allowed t m → Reaches client allowed s (t.step client m)

/-- The moves can be made one after another. -/
def Follows (client : Client) (allowed : Interleaving → Move → Prop) (s : Interleaving) :
    List Move → Prop
  | [] => True
  | m :: rest => s.Admits client m ∧ allowed s m ∧ Follows client allowed (s.step client m) rest

/-- The call at a position has submitted a pod. -/
def Submitted (s : Interleaving) (position : Nat) (pod : Pod) : Prop :=
  (position, Ask.cluster (.createPod pod)) ∈ s.asked

/-- The call at a position has asked for no change of the cluster's pods. -/
def Quiet (s : Interleaving) (n : Nat) : Prop := ∀ ask, (n, ask) ∈ s.asked → ask.changesPods = false

/-- The cluster hands a pod back to its creation as it was submitted. Once the sandbox has been
destroyed nothing is expected, since the name may then belong to another pod. -/
def HandsBack (s : Interleaving) : Move → Prop
  | .event position _ (.answered (.pod (.ok pod))) =>
    ∀ call key sent, s.calls[position]? = some (.create call) → call.key? = some key →
      s.books.registry.get? call.spec.handle = some key → s.Submitted position sent →
      pod.spec = sent.spec
  | _ => True

/-- A destruction shares no time with another call on its handle. -/
def Separates (s : Interleaving) : Move → Prop
  | .create spec _ => ∀ call, Call.destroy call ∈ s.calls → call.handle = spec.handle →
      (Call.destroy call).isReturned = true
  | .destroy handle _ => ∀ call ∈ s.calls, call.handle = handle → call.isReturned = true
  | .event .. => True

/-- Destructions of one handle share no time. -/
def SeparatesDestructions (s : Interleaving) : Move → Prop
  | .destroy handle _ => ∀ call, Call.destroy call ∈ s.calls → call.handle = handle →
      (Call.destroy call).isReturned = true
  | _ => True

theorem Separates.destructions {s : Interleaving} {m : Move} (h : s.Separates m) :
    s.SeparatesDestructions m := by
  cases m with
  | destroy handle deadline => exact fun call member same => h _ member same
  | create spec deadline => trivial
  | event position now event => trivial

/-- Every call has returned. -/
def Idle (s : Interleaving) : Prop := ∀ call ∈ s.calls, call.isReturned = true

/-- A call is begun only when every other one has returned. -/
def Sequential (s : Interleaving) : Move → Prop
  | .create .. => s.Idle
  | .destroy .. => s.Idle
  | .event .. => True

/-! ## Runs -/

section
variable {client : Client} {allowed weaker : Interleaving → Move → Prop} {s t u : Interleaving}

/-- What holds at the start and is kept by every move holds throughout. -/
theorem Reaches.invariant {P : Interleaving → Prop} (h : Reaches client allowed s t) (start : P s)
    (keeps : ∀ t m, P t → t.Admits client m → allowed t m → P (t.step client m)) : P t := by
  induction h with
  | start => exact start
  | step _ admitted ok ih => exact keeps _ _ ih admitted ok

theorem Follows.reaches {moves : List Move} (h : Follows client allowed t moves)
    (k : Reaches client allowed s t) :
    Reaches client allowed s (moves.foldl (step client) t) := by
  induction moves generalizing t with
  | nil => exact k
  | cons m rest ih =>
      obtain ⟨admitted, ok, later⟩ := h
      exact ih later (k.step admitted ok)

theorem Reaches.mono (h : Reaches client allowed s t) (le : ∀ s m, allowed s m → weaker s m) :
    Reaches client weaker s t := by
  induction h with
  | start => exact .start
  | step _ admitted ok ih => exact .step ih admitted (le _ _ ok)

theorem Reaches.trans (h : Reaches client allowed s t) (k : Reaches client allowed t u) :
    Reaches client allowed s u := by
  induction k with
  | start => exact h
  | step _ admitted ok ih => exact .step ih admitted ok

end

/-! ## One move -/

section
variable {client : Client} {s t : Interleaving} {m : Move} {i j : Nat} {r : Books × Call}

/-- The call at a position has arrived at its next wait. -/
structure Placed (client : Client) (s t : Interleaving) (i : Nat) (r : Books × Call) : Prop where
  books : t.books = r.1
  here : t.calls[i]? = some r.2
  elsewhere : ∀ j, j ≠ i → t.calls[j]? = s.calls[j]?
  asked : t.asked = s.asked ++ question client i r

theorem placed_begun (r : Books × Call) :
    Placed client s (s.begun client r) s.calls.length r := by
  refine ⟨rfl, ?_, ?_, rfl⟩
  · simp [begun]
  · intro j hj
    by_cases hlt : j < s.calls.length
    · exact List.getElem?_append_left hlt
    · have beyond : s.calls.length < j := by omega
      have past : j ≥ (s.begun client r).calls.length := by
        simp only [begun, List.length_append, List.length_singleton]
        omega
      rw [List.getElem?_eq_none past, List.getElem?_eq_none (by omega)]

theorem placed_advanced {call : Call} (h : s.calls[i]? = some call) (event : Event)
    (r : Books × Call) : Placed client s (s.advanced client i event r) i r := by
  have hi : i < s.calls.length := (List.getElem?_eq_some_iff.1 h).choose
  refine ⟨rfl, ?_, ?_, rfl⟩
  · exact List.getElem?_set_self hi
  · intro j hj
    exact List.getElem?_set_ne (Ne.symm hj)

theorem Placed.submitted (h : Placed client s t i r) {pod : Pod} (sent : s.Submitted j pod) :
    t.Submitted j pod := by
  unfold Submitted
  rw [h.asked]
  exact List.mem_append_left _ sent

theorem Admits.of_event {call : Call} {now : Instant} {event : Event}
    (admitted : s.Admits client (.event i now event)) (found : s.calls[i]? = some call) :
    (call.awaiting client s.books).admits now event = true := by
  obtain ⟨other, hother, admits⟩ := admitted
  cases Option.some.inj (found.symm.trans hother)
  exact admits

/-- A call whose wait ends has not returned. -/
theorem busy_of_admits {call : Call} {now : Instant} {event : Event}
    (admitted : s.Admits client (.event i now event)) (found : s.calls[i]? = some call) :
    call.isReturned = false := by
  have admits := admitted.of_event found
  by_contra returned
  rw [Call.not_admits_of_returned (Bool.not_eq_false _ ▸ returned)] at admits
  cases admits

theorem told_step (admitted : s.Admits client m) :
    (s.step client m).told = s.told ++ m.telling := by
  cases m with
  | create spec deadline => exact (List.append_nil _).symm
  | destroy handle deadline => exact (List.append_nil _).symm
  | event j now event =>
      obtain ⟨call, found, -⟩ := admitted
      simp only [step, found]
      rfl

theorem length_step_event (now : Instant) (event : Event) :
    (s.step client (.event i now event)).calls.length = s.calls.length := by
  simp only [step]
  split
  · exact List.length_set
  · rfl

/-- A call that has just come to submitting its pod has asked the cluster to create it. -/
theorem Placed.submitted_now {r : Books × CreateCall} {key : Nat}
    (h : Placed client s t i (r.1, .create r.2)) (now : r.2.stage = .submitting key) :
    t.Submitted i (r.1.sandbox key).pod := by
  unfold Submitted
  rw [h.asked]
  apply List.mem_append_right
  simp [question, Call.awaiting, CreateCall.ask?_submitting now]

theorem mem_question {e : Nat × Ask} (h : e ∈ question client i r) :
    e.1 = i ∧ (r.2.awaiting client r.1).ask? = some e.2 := by
  unfold question at h
  cases asks : (r.2.awaiting client r.1).ask? with
  | none =>
      rw [asks] at h
      cases h
  | some ask =>
      rw [asks] at h
      cases List.mem_singleton.1 h
      exact ⟨rfl, rfl⟩

theorem Quiet.placed {r : Books × CreateCall} (h : s.Quiet i)
    (placed : Placed client s t i (r.1, .create r.2))
    (silent : ∀ ask, (r.2.awaiting client r.1).ask? = some ask → ask.changesPods = false) :
    t.Quiet i := by
  intro ask asked
  rw [placed.asked] at asked
  rcases List.mem_append.1 asked with old | new
  · exact h ask old
  · exact silent ask (mem_question new).2

/-- Only calls that were begun ask anything or are told anything. -/
structure Logged (s : Interleaving) : Prop where
  asked : ∀ e ∈ s.asked, e.1 < s.calls.length
  told : ∀ e ∈ s.told, e.1 < s.calls.length

theorem Logged.begun (h : s.Logged) (r : Books × Call) : (s.begun client r).Logged := by
  have longer : (s.begun client r).calls.length = s.calls.length + 1 := by
    simp [Interleaving.begun]
  constructor
  · intro e he
    rw [longer]
    rcases List.mem_append.1 he with old | new
    · have := h.asked e old
      omega
    · have := (mem_question new).1
      omega
  · intro e he
    rw [longer]
    have := h.told e he
    omega

theorem Logged.step (h : s.Logged) (admitted : s.Admits client m) : (s.step client m).Logged := by
  cases m with
  | create spec deadline => exact h.begun _
  | destroy handle deadline => exact h.begun _
  | event i now event =>
      obtain ⟨call, found, -⟩ := id admitted
      have lt := (List.getElem?_eq_some_iff.1 found).1
      constructor
      · intro e he
        rw [length_step_event]
        simp only [Interleaving.step, found] at he
        rcases List.mem_append.1 he with old | new
        · exact h.asked e old
        · rw [(mem_question new).1]
          exact lt
      · intro e he
        rw [length_step_event]
        rw [told_step admitted] at he
        rcases List.mem_append.1 he with old | new
        · exact h.told e old
        · rw [List.mem_singleton.1 new]
          exact lt

theorem Logged.fresh (h : s.Logged) : s.Quiet s.calls.length := by
  intro ask asked
  exact absurd (h.asked _ asked) (Nat.lt_irrefl _)

/-- The pod that a creation has just submitted, as its sandbox keeps it, is one that the cluster
may hand back. -/
theorem Logged.handsBack (h : s.Logged) {spec : SandboxSpec} {deadline now : Instant} {key : Nat}
    (stage : (CreateCall.start client s.books spec deadline).2.stage = .submitting key) :
    let t := s.step client (.create spec deadline)
    t.HandsBack (.event s.calls.length now (.answered (.pod (.ok (t.books.sandbox key).pod)))) := by
  intro t call held sent _ _ _ submitted
  rcases List.mem_append.1 submitted with old | new
  · exact absurd (h.asked _ old) (Nat.lt_irrefl _)
  · have asked := (CreateCall.ask?_submitting stage).symm.trans (mem_question new).2
    cases asked
    rfl

theorem logged_start (books : Books) : Logged { books } := by
  constructor
  · intro e he
    cases he
  · intro e he
    cases he

theorem Reaches.logged {allowed : Interleaving → Move → Prop} (run : Reaches client allowed s t)
    (h : s.Logged) : t.Logged :=
  run.invariant h fun _ _ before admitted _ => before.step admitted

/-- What a move does, whichever call it is about. -/
inductive Stepped (client : Client) (s : Interleaving) (m : Move) (t : Interleaving) : Prop
  | starts {spec : SandboxSpec} {deadline : Instant} {r : Books × CreateCall} :
      m = .create spec deadline → CreateCall.Starting client s.books spec deadline r →
      Placed client s t s.calls.length (r.1, .create r.2) → Stepped client s m t
  | looks {handle : String} {deadline : Instant} : m = .destroy handle deadline →
      Placed client s t s.calls.length
        (s.books, .destroy (DestroyCall.start s.books handle deadline)) → Stepped client s m t
  | claiming {i : Nat} {now : Instant} {event : Event} {call : CreateCall} {claim : PortClaim}
      {r : Books × CreateCall} : m = .event i now event → s.calls[i]? = some (.create call) →
      call.claim? = some claim → CreateCall.Claiming client s.books call claim r →
      Placed client s t i (r.1, .create r.2) → Stepped client s m t
  | attending {i : Nat} {now : Instant} {event : Event} {call : CreateCall} {key : Nat}
      {r : Books × CreateCall} : m = .event i now event → s.calls[i]? = some (.create call) →
      call.key? = some key → CreateCall.Attending s.books call key event r →
      Placed client s t i (r.1, .create r.2) → Stepped client s m t
  | deleting {i : Nat} {now : Instant} {event : Event} {call : DestroyCall} {pod : Pod}
      {r : Books × DestroyCall} : m = .event i now event → s.calls[i]? = some (.destroy call) →
      call.pod? = some pod → DestroyCall.Deleting s.books call pod event r →
      call.resume client now s.books event = r →
      Placed client s t i (r.1, .destroy r.2) → Stepped client s m t

theorem stepped (admitted : s.Admits client m) : Stepped client s m (s.step client m) := by
  cases m with
  | create spec deadline =>
      exact .starts rfl (CreateCall.start_starting client s.books spec deadline) (placed_begun _)
  | destroy handle deadline => exact .looks rfl (placed_begun _)
  | event i now event =>
      obtain ⟨call, hcall, hadmits⟩ := admitted
      simp only [step, hcall]
      have placed : Placed client s (s.advanced client i event _) i _ :=
        placed_advanced hcall event (call.resume client now s.books event)
      cases call with
      | create call =>
          rcases CreateCall.claim_or_key hadmits with ⟨claim, hclaim⟩ | ⟨key, hkey⟩
          · exact .claiming rfl hcall hclaim (CreateCall.resume_claiming hclaim) placed
          · exact .attending rfl hcall hkey (CreateCall.resume_attending hkey hadmits) placed
      | destroy call =>
          obtain ⟨pod, hpod⟩ := DestroyCall.exists_pod hadmits
          exact .deleting rfl hcall hpod (DestroyCall.resume_deleting hpod hadmits) rfl placed

theorem Placed.resumed {call : CreateCall} {now : Instant} {event : Event}
    {r : Books × CreateCall}
    (placed : Placed client s (s.step client (.event i now event)) i (r.1, .create r.2))
    (found : s.calls[i]? = some (.create call)) : call.resume client now s.books event = r := by
  have resumed : Placed client s (s.step client (.event i now event)) i
      ((Call.create call).resume client now s.books event) := by
    simp only [Interleaving.step, found]
    exact placed_advanced found event _
  have same_call := Option.some.inj (resumed.here.symm.trans placed.here)
  exact Prod.ext (resumed.books.symm.trans placed.books) (Call.create.inj same_call)

/-- A call that is begun when every other one has returned, and that no other one follows, runs
alone until it returns. -/
theorem Reaches.solo {allowed : Interleaving → Move → Prop} {Q : Interleaving → Prop}
    (idle : s.Idle) (run : Reaches client allowed (s.begun client r) t)
    (last : t.calls.length = s.calls.length + 1) (start : Q (s.begun client r))
    (keeps : ∀ w now event, Q w → w.Admits client (.event s.calls.length now event) →
      allowed w (.event s.calls.length now event) →
      Q (w.step client (.event s.calls.length now event))) :
    Q t ∧ ∀ j, j < s.calls.length → t.calls[j]? = s.calls[j]? := by
  have invariant : s.calls.length + 1 ≤ t.calls.length ∧ (t.calls.length ≤ s.calls.length + 1 →
      Q t ∧ ∀ j, j < s.calls.length → t.calls[j]? = s.calls[j]?) := by
    apply run.invariant (P := fun w => s.calls.length + 1 ≤ w.calls.length ∧
      (w.calls.length ≤ s.calls.length + 1 →
        Q w ∧ ∀ j, j < s.calls.length → w.calls[j]? = s.calls[j]?))
    · refine ⟨by simp [begun], fun _ => ⟨start, ?_⟩⟩
      intro j hj
      exact List.getElem?_append_left hj
    · rintro w m ⟨most, before⟩ admitted ok
      cases m with
      | create spec deadline =>
          simp only [Interleaving.step, begun, List.length_append, List.length_singleton]
          exact ⟨by omega, fun least => by omega⟩
      | destroy handle deadline =>
          simp only [Interleaving.step, begun, List.length_append, List.length_singleton]
          exact ⟨by omega, fun least => by omega⟩
      | event i now event =>
          rw [length_step_event]
          refine ⟨most, fun least => ?_⟩
          obtain ⟨holds, older⟩ := before least
          obtain ⟨call, found, -⟩ := id admitted
          -- Every older call has returned, so only the last one can be told anything.
          have position : i = s.calls.length := by
            have lt := (List.getElem?_eq_some_iff.1 found).1
            by_contra other
            have old := (older i (by omega)).symm.trans found
            have busy := busy_of_admits admitted found
            rw [idle call (List.mem_of_getElem? old)] at busy
            cases busy
          subst position
          refine ⟨keeps w now event holds admitted ok, ?_⟩
          intro j hj
          have placed : Placed client w _ s.calls.length _ :=
            placed_advanced found event (call.resume client now w.books event)
          simp only [Interleaving.step, found]
          rw [placed.elsewhere j (by omega), older j hj]
  exact invariant.2 (Nat.le_of_eq last)

end

end Interleaving
end SandboxPods
