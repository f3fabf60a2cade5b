import SandboxPods.Proofs.Client.Connection
import SandboxPods.Proofs.Client.Solo

/-!
# Waiting for a new sandbox to run

Once the cluster has taken the pod of a new sandbox, the creation reads the pod at an
interval until it runs or the deadline passes. A pod that is not yet there and a pod
that does not run yet decide nothing. A running pod is kept and its tasks are loaded,
any other failure is returned at once, and when the deadline passes first the pod is
withdrawn and the sandbox stays registered. However the deadline lies, also before
the first reading, the number of readings is bounded by it.
-/
namespace SandboxPods.CreateCall
open Solo Polling

variable {client : Client} {partner : Partner} {books : Books} {call : CreateCall}
variable {spec : SandboxSpec} {entry deadline : Instant} {key k : Nat} {s : Solo}

/-! ## Up to the submission -/

/-- A creation that is begun at a time. -/
def begun (client : Client) (books : Books) (spec : SandboxSpec) (entry deadline : Instant) :
    Solo :=
  let r := Call.creating client books spec deadline
  ⟨entry, r.1, r.2, []⟩

/-- What the books hold for a sandbox whose pod is to be submitted. -/
structure Enrolled (books : Books) (handle : String) (key : Nat) : Prop where
  registered : books.registry.get? handle = some key
  known : key < books.sandboxes.length
  held : ∀ p ∈ (books.sandbox key).pod.hostPorts, books.ports.contains p = true →
    p ∈ books.ports.held

/-- The ports of a claim that are taken from the pool are held. -/
structure Holds (books : Books) (claim : PortClaim) : Prop where
  covers : claim.Covers books.ports
  held : ∀ p ∈ claim.claimed, p ∈ books.ports.held

/-- A creation on its way holds the ports of its claim, or those of the pod it submits. -/
structure Opening (spec : SandboxSpec) (deadline : Instant) (books : Books) (call : CreateCall) :
    Prop where
  asked : call.spec = spec
  limit : call.deadline = deadline
  claims : ∀ claim, call.claim? = some claim → Holds books claim
  submits : ∀ key, call.stage = .submitting key → Enrolled books spec.handle key

theorem opening_claiming {claim : PortClaim} {r : Books × CreateCall} (asked : call.spec = spec)
    (limit : call.deadline = deadline) (holds : Holds books claim)
    (moved : Claiming client books call claim r) : Opening spec deadline r.1 r.2 := by
  cases moved with
  | keeps same =>
      refine ⟨asked, limit, ?_, ?_⟩
      · intro other again
        cases same.symm.trans again
        exact holds
      · intro key submits
        rw [claim?, submits] at same
        cases same
  | abandons e =>
      exact ⟨asked, limit, (fun _ again => nomatch again), (fun _ again => nomatch again)⟩
  | registers image env rootfsSize free =>
      refine ⟨asked, limit, (fun _ again => nomatch again), ?_⟩
      intro key submits
      cases submits
      refine ⟨?_, by simp [Books.enrol], ?_⟩
      · rw [Books.get?_enrol, ← asked]
        exact if_pos rfl
      · intro p declared inside
        rw [Books.sandbox_enrol_self, hostPorts_draft] at declared
        exact holds.held p ((holds.covers p).2 ⟨inside, declared⟩)

theorem Opening.attending {event : Event} {r : Books × CreateCall}
    (h : Opening spec deadline books call) (moved : Attending books call key event r)
    (client : Client) : Opening spec deadline r.1 r.2 := by
  refine ⟨moved.spec_eq.trans h.asked, ?_, ?_, ?_⟩
  · cases moved with
    | waits same later => exact h.limit
    | sees told same later => exact h.limit
    | completes tasks => exact h.limit
    | fails e => exact h.limit
  · intro claim holds
    rw [moved.claim?] at holds
    cases holds
  · intro k submits
    exact (moved.no_submission client r.1 _ (ask?_submitting submits)).elim

theorem opening_start (client : Client) (books : Books) (spec : SandboxSpec)
    (deadline : Instant) :
    Opening spec deadline (start client books spec deadline).1
      (start client books spec deadline).2 := by
  have started := start_starting client books spec deadline
  generalize start client books spec deadline = r at started
  cases started with
  | refused e => exact ⟨rfl, rfl, (fun _ again => nomatch again), (fun _ again => nomatch again)⟩
  | @claims ports claim _ free made moved =>
      have made := PortClaim.make_ok made
      have holds : Holds { books with ports } claim :=
        ⟨made.covers.congr made.range.symm, fun p claimed => (made.held p).2 (.inl claimed)⟩
      exact opening_claiming rfl rfl holds moved

/-- The call has neither returned nor had its pod submitted. -/
def Early (call : CreateCall) : Prop :=
  (∃ claim, call.claim? = some claim) ∨ ∃ key, call.stage = .submitting key

/-- None of the questions asked for a change of the cluster's pods. -/
def Silent (log : List (Instant × Ask)) : Prop := ∀ q ∈ log, q.2.changesPods = false

/-- A creation that has not submitted its pod has changed no pod. -/
structure Underway (spec : SandboxSpec) (deadline : Instant) (s : Solo) (call : CreateCall) :
    Prop where
  here : s.call = .create call
  opening : Opening spec deadline s.books call
  silent : call.Early → Silent s.log

/-- A creation that waits goes on with an event that it waits for. -/
theorem exists_resume (partner : Partner) (here : s.call = .create call)
    (busy : s.call.awaiting client s.books ≠ .nothing) :
    ∃ now event, tick client partner s =
        ⟨now, (call.resume client now s.books event).1,
          .create (call.resume client now s.books event).2, s.log ++ s.asking client⟩ ∧
      (call.awaiting client s.books).admits now event = true ∧ partner.Tells event := by
  obtain ⟨now, event, ticked, admitted, tells⟩ := exists_event partner busy
  rw [here] at admitted
  refine ⟨now, event, ?_, admitted, tells⟩
  rw [ticked, told, here]
  rfl

theorem ask?_of_mem_log {q : Instant × Ask} (here : s.call = .create call)
    (noted : q ∈ s.log ++ s.asking client) :
    q ∈ s.log ∨ (call.awaiting client s.books).ask? = some q.2 := by
  rcases List.mem_append.1 noted with earlier | now
  · exact .inl earlier
  · have asks := ask?_of_mem_asking now
    rw [here] at asks
    exact .inr asks

theorem Underway.tick (h : Underway spec deadline s call) :
    ∃ next, Underway spec deadline (tick client partner s) next := by
  by_cases halted : s.call.awaiting client s.books = .nothing
  · refine ⟨call, ?_⟩
    rw [Solo.tick, halted]
    exact h
  · obtain ⟨now, event, moved, admitted, -⟩ := exists_resume partner h.here halted
    rw [moved]
    rcases claim_or_key admitted with ⟨claim, holds⟩ | ⟨key, holds⟩
    · have next := opening_claiming h.opening.asked h.opening.limit (h.opening.claims claim holds)
        (resume_claiming holds : Claiming client s.books call claim
          (call.resume client now s.books event))
      refine ⟨_, rfl, next, fun early q mem => ?_⟩
      rcases ask?_of_mem_log h.here mem with earlier | asks
      · exact h.silent (.inl ⟨claim, holds⟩) q earlier
      · exact silent_of_claim holds asks
    · have attended := resume_attending holds admitted
      refine ⟨_, rfl, h.opening.attending attended client, fun early => ?_⟩
      rcases early with ⟨claim, again⟩ | ⟨k, submits⟩
      · rw [attended.claim?] at again
        cases again
      · exact (attended.no_submission client s.books _ (ask?_submitting submits)).elim

/-- What is known of a creation that is about to submit its pod. -/
theorem underway_of_runs (runs : Runs client partner (begun client books spec entry deadline) s) :
    ∃ call, Underway spec deadline s call := by
  apply runs.invariant (P := fun s => ∃ call, Underway spec deadline s call)
  · exact ⟨_, rfl, opening_start client books spec deadline, fun _ _ none => nomatch none⟩
  · rintro s ⟨call, underway⟩
    exact underway.tick

/-! ## From the submission to the end -/

/-- The books say the same about ports and handles, and know the same sandboxes. -/
structure Keeps (a b : Books) : Prop where
  ports : b.ports = a.ports
  registry : b.registry = a.registry
  length : b.sandboxes.length = a.sandboxes.length

theorem Attending.keeps {event : Event} {r : Books × CreateCall}
    (h : Attending books call key event r) : Keeps books r.1 :=
  ⟨h.ports_eq, h.registry_eq, h.length_eq⟩

theorem Keeps.trans {a b c : Books} (h : Keeps a b) (k : Keeps b c) : Keeps a c :=
  ⟨k.ports.trans h.ports, k.registry.trans h.registry, k.length.trans h.length⟩

/-- A creation attends to the sandbox that it has registered until it returns. -/
structure Attends (key : Nat) (s : Solo) (call : CreateCall) : Prop where
  here : s.call = .create call
  attends : call.key? = some key ∨ s.call.isReturned = true

theorem Attends.tick (client : Client) (partner : Partner) (h : Attends key s call) :
    Keeps s.books (tick client partner s).books ∧
      ∃ next, Attends key (tick client partner s) next := by
  by_cases halted : s.call.awaiting client s.books = .nothing
  · rw [Solo.tick, halted]
    exact ⟨⟨rfl, rfl, rfl⟩, call, h⟩
  · rcases h.attends with holds | returned
    · obtain ⟨now, event, moved, admitted, -⟩ := exists_resume partner h.here halted
      have attended := resume_attending holds admitted
      rw [moved]
      exact ⟨attended.keeps, _, rfl, attended.key_or_returned⟩
    · rw [tick_returned returned]
      exact ⟨⟨rfl, rfl, rfl⟩, call, h⟩

/-- Ports, handles and the number of sandboxes stay as they were at the registration. -/
theorem keeps_of_runs {e : Solo} (attends : Attends key s call)
    (runs : Runs client partner s e) : Keeps s.books e.books := by
  have both : Keeps s.books e.books ∧ ∃ call, Attends key e call := by
    apply runs.invariant (P := fun t => Keeps s.books t.books ∧ ∃ call, Attends key t call)
    · exact ⟨⟨rfl, rfl, rfl⟩, call, attends⟩
    · rintro t ⟨kept, call, attends⟩
      obtain ⟨now, next⟩ := attends.tick client partner
      exact ⟨kept.trans now, next⟩
  exact both.1

/-! ## The wait -/

/-- The submission of the sandbox's pod. -/
def submission (s : Solo) (key : Nat) : Ask := .cluster (.createPod (s.books.sandbox key).pod)

/-- The question whether the new pod is there. -/
def reading (client : Client) (spec : SandboxSpec) : Ask :=
  .cluster (.getPod client.settings.podNamespace spec.handle)

/-- The request to delete, at once, a pod that came too late. -/
def withdrawal (client : Client) (spec : SandboxSpec) : Ask :=
  .cluster (.deletePod client.settings.podNamespace spec.handle (some 0))

/-- The answer is that the pod is not there or does not run. -/
def Undecided (answer : Answer) : Prop :=
  (∃ pod, answer = .pod (.ok pod) ∧ pod.isRunning = false) ∨
    ∃ e, answer = .pod (.error e) ∧ e.isNotFound = true

/-- The call after its return. -/
def ended (spec : SandboxSpec) (deadline : Instant) (result : Except LifecycleError Nat) : Call :=
  .create { spec, deadline, stage := .finished result }

/-- A creation in whose course the cluster takes the pod. -/
structure Submits (client : Client) (partner : Partner) (books : Books) (spec : SandboxSpec)
    (entry deadline : Instant) (s : Solo) (key : Nat) : Prop where
  runs : Runs client partner (begun client books spec entry deadline) s
  submits : ∃ call, s.call = .create call ∧ call.stage = .submitting key
  taken : ∃ pod, partner.answer s.log.length (submission s key) = .pod (.ok pod)

/-- When the cluster takes the pod. -/
def takenAt (partner : Partner) (s : Solo) (key : Nat) : Instant :=
  s.now + partner.delay s.log.length (submission s key)

/-- The questions up to there. -/
def past (s : Solo) (key : Nat) : List (Instant × Ask) := s.log ++ [(s.now, submission s key)]

/-- The answer to a reading. -/
def read (client : Client) (partner : Partner) (spec : SandboxSpec) (s : Solo) (key k : Nat) :
    Answer :=
  reply partner (reading client spec) (past s key) k

/-- How often the pod is read at most. -/
def reads (client : Client) (partner : Partner) (deadline : Instant) (s : Solo) (key : Nat) : Nat :=
  rounds client.settings.pollInterval deadline (takenAt partner s key)

/-- The questions when the pod has been read some times. -/
def questions (client : Client) (partner : Partner) (spec : SandboxSpec) (s : Solo) (key n : Nat) :
    List (Instant × Ask) :=
  past s key ++ readings (reading client spec) client.settings.pollInterval
    (takenAt partner s key) n

/-- The first answer that decides, within those readings. -/
structure FirstDecision (client : Client) (partner : Partner) (spec : SandboxSpec)
    (deadline : Instant) (s : Solo) (key k : Nat) : Prop where
  left : k < reads client partner deadline s key
  before : ∀ i < k, Undecided (read client partner spec s key i)
  here : ¬ Undecided (read client partner spec s key k)

theorem FirstDecision.unique {k' : Nat} (h : FirstDecision client partner spec deadline s key k)
    (h' : FirstDecision client partner spec deadline s key k') : k = k' :=
  first_unique h.before h.here h'.before h'.here

/-- No reading decides, or some reading is the first to. -/
theorem undecided_or_decision (client : Client) (partner : Partner) (spec : SandboxSpec)
    (deadline : Instant) (s : Solo) (key : Nat) :
    (∀ k < reads client partner deadline s key, Undecided (read client partner spec s key k)) ∨
      ∃ k, FirstDecision client partner spec deadline s key k := by
  rcases all_or_first (fun k => Undecided (read client partner spec s key k))
      (reads client partner deadline s key) with undecided | ⟨k, left, before, here⟩
  · exact .inl undecided
  · exact .inr ⟨k, left, before, here⟩

/-- A decision is a running pod or a failure other than that the pod is not there. -/
theorem FirstDecision.cases (h : FirstDecision client partner spec deadline s key k) :
    (∃ pod, read client partner spec s key k = .pod (.ok pod) ∧ pod.isRunning = true) ∨
      ∃ e, read client partner spec s key k = .pod (.error e) ∧ e.isNotFound = false := by
  have suits := partner.suits ((past s key).length + k) (reading client spec)
  have here := h.here
  cases answer : read client partner spec s key k with
  | pod result =>
      rw [answer] at here
      cases result with
      | ok pod =>
          refine .inl ⟨pod, rfl, ?_⟩
          by_contra idle
          exact here (.inl ⟨pod, rfl, Bool.eq_false_iff.2 idle⟩)
      | error e =>
          refine .inr ⟨e, rfl, Bool.eq_false_iff.2 ?_⟩
          exact fun absent => here (.inr ⟨e, rfl, absent⟩)
  | _ =>
      rw [read, reply] at answer
      rw [answer] at suits
      cases suits

/-- Reading the pod until it runs. -/
def polling (client : Client) (spec : SandboxSpec) (deadline : Instant) (key : Nat) :
    Polling client (reading client spec) deadline where
  reading := .create { spec, deadline, stage := .reading key }
  pausing wake := .create { spec, deadline, stage := .pausing key wake }
  Undecided := Undecided
  note answer books := match answer with
    | .pod (.ok pod) => books.modify key fun s => { s with pod }
    | _ => books
  asks _ := rfl
  pauses _ _ := rfl
  goesOn := by
    intro now books answer undecided
    rcases undecided with ⟨pod, rfl, idle⟩ | ⟨e, rfl, absent⟩
    · simp only [Call.resume, resume, sawPod, idle]
      rfl
    · simp only [Call.resume, resume, absent, if_true]
      rfl
  wakes _ _ _ := rfl

theorem reading_running {now : Instant} {pod : Pod} (running : pod.isRunning = true) :
    (polling client spec deadline key).reading.resume client now books
        (.answered (.pod (.ok pod))) =
      (books.modify key (fun s => { s with pod }),
        .create { spec, deadline, stage := .loading key pod.status.containerStatuses }) := by
  simp only [polling, Call.resume, resume, sawPod, running, if_true]
  rfl

theorem reading_failed {now : Instant} {e : ClusterError} (other : e.isNotFound = false) :
    (polling client spec deadline key).reading.resume client now books
        (.answered (.pod (.error e))) =
      (books, ended spec deadline (.error (.cluster "failed to get pod after creation" e))) := by
  simp only [polling, Call.resume, resume, other]
  rfl

theorem pausing_expired {now wake : Instant} :
    ((polling client spec deadline key).pausing wake).resume client now books .expired =
      (books, .create { spec, deadline, stage := .withdrawing key }) := rfl

/-- Whatever the answer to the withdrawal is, the creation returns that it was too late. -/
theorem tick_withdrawing {now : Instant} {log : List (Instant × Ask)} :
    tick client partner ⟨now, books, .create { spec, deadline, stage := .withdrawing key }, log⟩ =
      ⟨now + partner.delay log.length (withdrawal client spec), books,
        ended spec deadline (.error (.createTimeout spec.handle)),
        log ++ [(now, withdrawal client spec)]⟩ := by
  have suits := partner.suits log.length (withdrawal client spec)
  have waits : (Call.create { spec, deadline, stage := .withdrawing key }).awaiting client books =
      .answer (withdrawal client spec) none := rfl
  simp only [tick, waits]
  cases answer : partner.answer log.length (withdrawal client spec) with
  | deleted result => rfl
  | _ =>
      rw [answer] at suits
      cases suits

/-- A creation that kept its running pod and asked for the tasks of its containers. -/
structure Loaded (partner : Partner) (spec : SandboxSpec) (deadline : Instant) (key : Nat)
    (pod : Pod) (now : Instant) (log : List (Instant × Ask)) (e : Solo) : Prop where
  cached : (e.books.sandbox key).pod = pod
  asked : e.log = log ++ [(now, .loadTasks pod.status.containerStatuses)]
  created : ∀ tasks,
    partner.answer log.length (.loadTasks pod.status.containerStatuses) = .tasks (.ok tasks) →
    e.call = ended spec deadline (.ok key) ∧ (e.books.sandbox key).tasks = tasks
  failed : ∀ cause,
    partner.answer log.length (.loadTasks pod.status.containerStatuses) = .tasks (.error cause) →
    e.call = ended spec deadline (.error (.engine "failed to load runtime tasks" cause))

theorem ends_loading {pod : Pod} {now : Instant} {log : List (Instant × Ask)}
    (known : key < books.sandboxes.length) (cached : (books.sandbox key).pod = pod) :
    ∃ e, Ends client partner ⟨now, books, .create {
        spec, deadline, stage := .loading key pod.status.containerStatuses }, log⟩ e ∧
      Loaded partner spec deadline key pod now log e := by
  let ask : Ask := .loadTasks pod.status.containerStatuses
  have suits := partner.suits log.length ask
  have ticked : tick client partner ⟨now, books, .create {
        spec, deadline, stage := .loading key pod.status.containerStatuses }, log⟩ =
      told client ⟨now, books, .create {
        spec, deadline, stage := .loading key pod.status.containerStatuses }, log⟩
        (now + partner.delay log.length ask) (.answered (partner.answer log.length ask))
        (log ++ [(now, ask)]) := rfl
  cases answer : partner.answer log.length ask with
  | tasks result =>
      rw [answer] at ticked
      cases result with
      | ok tasks =>
          have kept := Books.sandbox_modify_self known fun x : Sandbox => { x with tasks }
          refine ⟨_, ⟨.one ticked, rfl⟩, (congrArg Sandbox.pod kept).trans cached, rfl, ?_, ?_⟩
          · intro other again
            cases answer.symm.trans again
            exact ⟨rfl, congrArg Sandbox.tasks kept⟩
          · intro cause again
            cases answer.symm.trans again
      | error e =>
          refine ⟨_, ⟨.one ticked, rfl⟩, cached, rfl, ?_, ?_⟩
          · intro tasks again
            cases answer.symm.trans again
          · intro cause again
            cases answer.symm.trans again
            rfl
  | _ =>
      rw [answer] at suits
      cases suits

section
variable (h : Submits client partner books spec entry deadline s key)

include h

theorem Submits.call_eq : s.call = .create { spec, deadline, stage := .submitting key } := by
  obtain ⟨call, here, submits⟩ := h.submits
  obtain ⟨other, underway⟩ := underway_of_runs h.runs
  cases here.symm.trans underway.here
  have asked := underway.opening.asked
  have limit := underway.opening.limit
  obtain ⟨spec, deadline, stage⟩ := call
  cases asked
  cases limit
  cases submits
  exact here

theorem Submits.enrolled : Enrolled s.books spec.handle key := by
  obtain ⟨call, underway⟩ := underway_of_runs h.runs
  cases h.call_eq.symm.trans underway.here
  exact underway.opening.submits key rfl

theorem Submits.silent : Silent s.log := by
  obtain ⟨call, underway⟩ := underway_of_runs h.runs
  cases h.call_eq.symm.trans underway.here
  exact underway.silent (.inr ⟨key, rfl⟩)

theorem Submits.attends : Attends key s { spec, deadline, stage := .submitting key } :=
  ⟨h.call_eq, .inl rfl⟩

/-- The pod is taken and read for the first time. -/
theorem Submits.runs_taken : Runs client partner s
    ⟨takenAt partner s key, s.books, (polling client spec deadline key).reading, past s key⟩ := by
  obtain ⟨pod, taken⟩ := h.taken
  apply Runs.one
  have waits : s.call.awaiting client s.books = .answer (submission s key) none := by
    rw [h.call_eq]
    rfl
  simp only [tick, waits]
  rw [taken, told, h.call_eq]
  rfl

/-- Whatever follows the submission, ports and handles stay as they were. -/
theorem Submits.keeps {e : Solo} (runs : Runs client partner s e) : Keeps s.books e.books :=
  keeps_of_runs h.attends runs

variable (positive : 0 < client.settings.pollInterval)
variable (prompt : ∀ k, partner.delay k (reading client spec) = 0)

include positive prompt

theorem Submits.decided (first : FirstDecision client partner spec deadline s key k) :
    Runs client partner s
      (((polling client spec deadline key).before partner s.books (past s key)
        (takenAt partner s key) k).told client
          (takenAt partner s key + k * client.settings.pollInterval)
          (.answered (read client partner spec s key k))
          (questions client partner spec s key (k + 1))) :=
  h.runs_taken.trans (runs_decided positive prompt first.left first.before)

/-- A running pod is kept, and its tasks are asked for. -/
theorem Submits.runs_running {pod : Pod}
    (first : FirstDecision client partner spec deadline s key k)
    (answer : read client partner spec s key k = .pod (.ok pod)) (running : pod.isRunning = true) :
    ∃ after, key < after.sandboxes.length ∧ (after.sandbox key).pod = pod ∧
      Runs client partner s
        ⟨takenAt partner s key + k * client.settings.pollInterval, after,
          .create { spec, deadline, stage := .loading key pod.status.containerStatuses },
          questions client partner spec s key (k + 1)⟩ := by
  have decided := h.decided positive prompt first
  rw [answer, told_eq (reading_running running)] at decided
  have kept := (h.keeps decided).length
  refine ⟨_, ?_, ?_, decided⟩
  · rw [kept]
    exact h.enrolled.known
  · apply congrArg Sandbox.pod (Books.sandbox_modify_self _ _)
    rw [← Books.length_modify, kept]
    exact h.enrolled.known

/-- Any other failure is returned as it comes. -/
theorem Submits.ends_failed {e : ClusterError}
    (first : FirstDecision client partner spec deadline s key k)
    (answer : read client partner spec s key k = .pod (.error e)) (other : e.isNotFound = false) :
    ∃ after, Ends client partner s
      ⟨takenAt partner s key + k * client.settings.pollInterval, after,
        ended spec deadline (.error (.cluster "failed to get pod after creation" e)),
        questions client partner spec s key (k + 1)⟩ := by
  have decided := h.decided positive prompt first
  rw [answer, told_eq (reading_failed other)] at decided
  exact ⟨_, decided, rfl⟩

/-- A pod that does not run in time is deleted, and the answer to that does not matter. -/
theorem Submits.ends_late
    (undecided : ∀ k < reads client partner deadline s key,
      Undecided (read client partner spec s key k)) :
    ∃ now after, Ends client partner s
      ⟨now, after, ended spec deadline (.error (.createTimeout spec.handle)),
        questions client partner spec s key (reads client partner deadline s key) ++
          [(max deadline (takenAt partner s key), withdrawal client spec)]⟩ := by
  have expired := h.runs_taken.trans (runs_expired positive prompt undecided)
  rw [told_eq pausing_expired] at expired
  exact ⟨_, _, expired.trans (.one tick_withdrawing), rfl⟩

end

/-! ## All courses -/

/-- How a creation ends whose pod was taken, by what the readings answer. -/
structure Ending (client : Client) (partner : Partner) (spec : SandboxSpec) (deadline : Instant)
    (s : Solo) (key : Nat) (e : Solo) : Prop where
  /-- No pod was changed before the submission. -/
  silent : Silent s.log
  /-- The pod is read in every round from the submission on, and so many times at most. -/
  polled : ∃ n rest, n ≤ reads client partner deadline s key ∧
    e.log = questions client partner spec s key n ++ rest ∧
    ∀ q ∈ rest, q.2 ≠ reading client spec
  running : ∀ k pod, FirstDecision client partner spec deadline s key k →
    read client partner spec s key k = .pod (.ok pod) →
    Loaded partner spec deadline key pod
      (takenAt partner s key + k * client.settings.pollInterval)
      (questions client partner spec s key (k + 1)) e
  failed : ∀ k cause, FirstDecision client partner spec deadline s key k →
    read client partner spec s key k = .pod (.error cause) →
    e.now = takenAt partner s key + k * client.settings.pollInterval ∧
      e.call = ended spec deadline (.error (.cluster "failed to get pod after creation" cause)) ∧
      e.log = questions client partner spec s key (k + 1)
  late : (∀ k < reads client partner deadline s key,
      Undecided (read client partner spec s key k)) →
    e.call = ended spec deadline (.error (.createTimeout spec.handle)) ∧
      e.log = questions client partner spec s key (reads client partner deadline s key) ++
        [(max deadline (takenAt partner s key), withdrawal client spec)]
  /-- However the creation ends, its handle stays registered and its ports stay held. -/
  registered : e.books.registry.get? spec.handle = some key
  held : ∀ p ∈ (s.books.sandbox key).pod.hostPorts, e.books.ports.contains p = true →
    p ∈ e.books.ports.held

/-- What the readings bring, in one of three ways, is what the creation ends with. -/
theorem Submits.exists_ending (h : Submits client partner books spec entry deadline s key)
    (positive : 0 < client.settings.pollInterval)
    (prompt : ∀ k, partner.delay k (reading client spec) = 0) :
    ∃ e, Ends client partner s e ∧ Ending client partner spec deadline s key e := by
  have held {e : Solo} (kept : Keeps s.books e.books) : ∀ p ∈ (s.books.sandbox key).pod.hostPorts,
      e.books.ports.contains p = true → p ∈ e.books.ports.held := by
    rw [kept.ports]
    exact h.enrolled.held
  have registered {e : Solo} (kept : Keeps s.books e.books) :
      e.books.registry.get? spec.handle = some key := by
    rw [kept.registry]
    exact h.enrolled.registered
  rcases undecided_or_decision client partner spec deadline s key with undecided | ⟨k, first⟩
  · obtain ⟨now, after, ends⟩ := h.ends_late positive prompt undecided
    have kept := h.keeps ends.runs
    refine ⟨_, ends, h.silent, ⟨_, _, Nat.le_refl _, rfl, ?_⟩, ?_, ?_, ?_, registered kept,
      held kept⟩
    · intro q last
      rw [List.mem_singleton.1 last]
      exact fun same => nomatch same
    · exact fun k pod first _ => (first.here (undecided k first.left)).elim
    · exact fun k cause first _ => (first.here (undecided k first.left)).elim
    · exact fun _ => ⟨rfl, rfl⟩
  · have open_ : ¬ ∀ k < reads client partner deadline s key,
        Undecided (read client partner spec s key k) := fun all => first.here (all k first.left)
    rcases first.cases with ⟨pod, answer, running⟩ | ⟨cause, answer, other⟩
    · obtain ⟨after, known, cached, runs⟩ := h.runs_running positive prompt first answer running
      obtain ⟨e, ends, loaded⟩ := ends_loading known cached
      have kept := h.keeps (runs.trans ends.runs)
      refine ⟨e, ⟨runs.trans ends.runs, ends.returned⟩, h.silent,
        ⟨k + 1, _, first.left, loaded.asked, ?_⟩, ?_, ?_, fun all => (open_ all).elim,
        registered kept, held kept⟩
      · intro q last
        rw [List.mem_singleton.1 last]
        exact fun same => nomatch same
      · intro i found other again
        cases first.unique other
        cases answer.symm.trans again
        exact loaded
      · intro i cause other again
        cases first.unique other
        cases answer.symm.trans again
    · obtain ⟨after, ends⟩ := h.ends_failed positive prompt first answer other
      have kept := h.keeps ends.runs
      refine ⟨_, ends, h.silent, ⟨k + 1, [], first.left, (List.append_nil _).symm, ?_⟩, ?_, ?_,
        fun all => (open_ all).elim, registered kept, held kept⟩
      · exact fun q none => nomatch none
      · intro i found other again
        cases first.unique other
        cases answer.symm.trans again
      · intro i found other again
        cases first.unique other
        cases answer.symm.trans again
        exact ⟨rfl, rfl, rfl⟩

/-- A creation whose pod the cluster takes ends whatever the readings answer, and in the way that
the answers determine. -/
theorem readiness_ending (submits : Submits client partner books spec entry deadline s key)
    (positive : 0 < client.settings.pollInterval)
    (prompt : ∀ k, partner.delay k (reading client spec) = 0) :
    (∃ e, Ends client partner (begun client books spec entry deadline) e) ∧
      ∀ e, Ends client partner (begun client books spec entry deadline) e →
        Ending client partner spec deadline s key e := by
  obtain ⟨e, ends, ending⟩ := submits.exists_ending positive prompt
  have whole : Ends client partner (begun client books spec entry deadline) e :=
    ⟨submits.runs.trans ends.runs, ends.returned⟩
  refine ⟨⟨e, whole⟩, fun other again => ?_⟩
  rw [again.unique whole]
  exact ending

/-- A sandbox whose image has to be pulled. -/
def unpulled : SandboxSpec where
  handle := "job"
  image := .ofUri "docker:///busybox"
  ports := [⟨0, 80⟩]
  disk := 10

/-- Collaborators that take five seconds for an image and never show a running pod. -/
def sluggish : Partner := .showing (.publishing "job" 62001) 5000000000

/-- The image of a sandbox is pulled for so long that only one reading is left. -/
theorem slow_pull_leaves_one_reading : ∃ (client : Client) (books : Books) (s : Solo),
    Connected [.publishing "web" 62000] client books ∧
      Submits client sluggish books unpulled 0 1000000000 s 1 ∧
      takenAt sluggish s 1 = 5000000000 ∧ reads client sluggish 1000000000 s 1 = 1 ∧
      0 < client.settings.pollInterval ∧ (∀ k, sluggish.delay k (reading client unpulled) = 0) ∧
      (∃ e, Ends client sluggish (begun client books unpulled 0 1000000000) e) ∧
      ∀ e, Ends client sluggish (begun client books unpulled 0 1000000000) e →
        Ending client sluggish unpulled 1000000000 s 1 e := by
  refine ⟨_, _, _, ⟨{}, "node", {}, [], rfl⟩, ⟨.one rfl, ⟨_, rfl, rfl⟩, ⟨_, rfl⟩⟩, rfl, rfl,
    by decide, fun _ => rfl, ?_⟩
  exact readiness_ending ⟨.one rfl, ⟨_, rfl, rfl⟩, ⟨_, rfl⟩⟩ (by decide) fun _ => rfl

end SandboxPods.CreateCall
