import SandboxPods.Proofs.Client.Connection
import SandboxPods.Proofs.Client.Solo

/-!
# How a destruction ends

A destruction that runs alone asks the cluster to delete the pod and, when that is
accepted, reads the pod at an interval until it is gone. Both waits share one
deadline. What is returned and what is cleaned up follow different rules: the books
stay as they were just when the handle is unknown, when the request has no answer by
the deadline and when the cluster refuses it, and in every other course the handle is
forgotten, whatever the readings bring.
-/
namespace SandboxPods

namespace Books
variable {b : Books} {handle other : String} {pod : Pod}

/-- The books say the same about ports, handles and properties. -/
structure Agrees (a b : Books) : Prop where
  ports : a.ports = b.ports
  registry : a.registry = b.registry
  properties : a.properties = b.properties

theorem Agrees.refl (b : Books) : b.Agrees b := ⟨rfl, rfl, rfl⟩

/-- The books after the handle has been forgotten together with the ports of its pod. -/
structure Forgotten (b after : Books) (handle : String) (pod : Pod) : Prop where
  registry : after.registry.get? handle = none
  properties : after.properties.spaces.get? handle = none
  free : ∀ p ∈ pod.hostPorts, p ∉ after.ports.held
  held : ∀ p ∉ pod.hostPorts, p ∈ after.ports.held ↔ p ∈ b.ports.held
  others : ∀ other, other ≠ handle → after.registry.get? other = b.registry.get? other ∧
    after.properties.spaces.get? other = b.properties.spaces.get? other

theorem forgotten_forget (b : Books) (handle : String) (pod : Pod) :
    b.Forgotten (b.forget handle pod) handle pod := by
  refine ⟨Table.get?_erase_self .., Table.get?_erase_self .., ?_, ?_, ?_⟩
  · intro p declared held
    exact (PortPool.mem_held_releaseAll.1 held).2 declared
  · intro p undeclared
    exact PortPool.mem_held_releaseAll.trans (and_iff_left undeclared)
  · intro other ne
    exact ⟨Table.get?_erase_ne _ ne, Table.get?_erase_ne _ ne⟩

/-- Forgetting a registered handle shows in the books. -/
theorem Forgotten.not_agrees {after : Books} {key : Nat} (h : b.Forgotten after handle pod)
    (registered : b.registry.get? handle = some key) : ¬ after.Agrees b := by
  intro same
  have gone := h.registry
  rw [same.registry, registered] at gone
  cases gone

end Books

namespace DestroyCall
open Solo Polling

/-- The request to delete a pod. -/
def request (pod : Pod) : Ask := .cluster (.deletePod pod.podNamespace pod.name none)

/-- The question whether a pod is still there. -/
def reading (pod : Pod) : Ask := .cluster (.getPod pod.podNamespace pod.name)

/-- The call after its return. -/
def ended (handle : String) (deadline : Instant) (result : Except LifecycleError Unit) : Call :=
  .destroy { handle, deadline, stage := .finished result }

/-- The pod is the one that a destruction of the handle has in hand. -/
def Finds (books : Books) (handle : String) (pod : Pod) : Prop :=
  ∃ key, books.registry.get? handle = some key ∧ (books.sandbox key).pod = pod

/-- A destruction that is begun at a time. -/
def begun (books : Books) (handle : String) (entry deadline : Instant) : Solo :=
  ⟨entry, books, Call.destroying books handle deadline, []⟩

/-- When the request has its answer. -/
def answeredAt (partner : Partner) (entry : Instant) (pod : Pod) : Instant :=
  entry + partner.delay 0 (request pod)

/-- The request is still pending when the deadline passes. -/
def Unanswered (partner : Partner) (entry deadline : Instant) (pod : Pod) : Prop :=
  max deadline entry < answeredAt partner entry pod

/-- The request is answered in time, by an error that does not mean that the pod is gone. -/
def Refused (partner : Partner) (entry deadline : Instant) (pod : Pod) (e : ClusterError) : Prop :=
  ¬ Unanswered partner entry deadline pod ∧
    partner.answer 0 (request pod) = .deleted (.error e) ∧ e.isNotFound = false

/-- The cluster answers in time that there is no such pod. -/
def Absent (partner : Partner) (entry deadline : Instant) (pod : Pod) : Prop :=
  ¬ Unanswered partner entry deadline pod ∧
    ∃ e, partner.answer 0 (request pod) = .deleted (.error e) ∧ e.isNotFound = true

/-- The request is accepted in time. -/
def Accepted (partner : Partner) (entry deadline : Instant) (pod : Pod) : Prop :=
  ¬ Unanswered partner entry deadline pod ∧ partner.answer 0 (request pod) = .deleted (.ok ())

/-- The answer to a reading; the request was the first question. -/
def read (partner : Partner) (pod : Pod) (k : Nat) : Answer := partner.answer (k + 1) (reading pod)

/-- The answer is the pod. -/
def Lingers (answer : Answer) : Prop := ∃ pod, answer = .pod (.ok pod)

/-- How often the pod is read at most, once the deletion was accepted. -/
def reads (client : Client) (partner : Partner) (entry deadline : Instant) (pod : Pod) : Nat :=
  rounds client.settings.pollInterval deadline (answeredAt partner entry pod)

/-- The first answer within those readings that is not the pod. -/
structure FirstFailure (client : Client) (partner : Partner) (entry deadline : Instant) (pod : Pod)
    (k : Nat) (e : ClusterError) : Prop where
  left : k < reads client partner entry deadline pod
  before : ∀ i < k, Lingers (read partner pod i)
  here : read partner pod k = .pod (.error e)

/-- The questions of a destruction that read its pod some times. -/
def questions (client : Client) (partner : Partner) (entry : Instant) (pod : Pod) (n : Nat) :
    List (Instant × Ask) :=
  (entry, request pod) :: readings (reading pod) client.settings.pollInterval
    (answeredAt partner entry pod) n

/-- What comes of the last reading. -/
def failure (e : ClusterError) : Except LifecycleError Unit :=
  if e.isNotFound then .ok () else .error (.cluster "failed to get pod during deletion" e)

variable {client : Client} {partner : Partner} {books : Books} {handle : String} {key k : Nat}
variable {entry deadline : Instant} {pod : Pod} {e : ClusterError} {s : Solo}

theorem FirstFailure.not_lingers (h : FirstFailure client partner entry deadline pod k e) :
    ¬ Lingers (read partner pod k) := by
  intro lingers
  obtain ⟨found, answer⟩ := lingers
  cases h.here.symm.trans answer

theorem FirstFailure.unique {k' : Nat} {e' : ClusterError}
    (h : FirstFailure client partner entry deadline pod k e)
    (h' : FirstFailure client partner entry deadline pod k' e') : k = k' ∧ e = e' := by
  have same : k = k' := first_unique h.before h.not_lingers h'.before h'.not_lingers
  subst same
  cases h.here.symm.trans h'.here
  exact ⟨rfl, rfl⟩

/-- A pod that is read again and again lingers throughout or fails to at some first time. -/
theorem lingers_or_fails (client : Client) (partner : Partner) (entry deadline : Instant)
    (pod : Pod) : (∀ k < reads client partner entry deadline pod, Lingers (read partner pod k)) ∨
      ∃ k e, FirstFailure client partner entry deadline pod k e := by
  rcases all_or_first (fun k => Lingers (read partner pod k))
      (reads client partner entry deadline pod) with lingers | ⟨k, left, before, fails⟩
  · exact .inl lingers
  · have suits := partner.suits (k + 1) (reading pod)
    cases answer : read partner pod k with
    | pod result =>
        cases result with
        | ok found => exact (fails ⟨found, answer⟩).elim
        | error e => exact .inr ⟨k, e, left, before, answer⟩
    | _ =>
        rw [read] at answer
        rw [answer] at suits
        cases suits

/-! ## Each course -/

/-- Reading the pod until it is gone. -/
def polling (client : Client) (handle : String) (deadline : Instant) (pod : Pod) :
    Polling client (reading pod) deadline where
  reading := .destroy { handle, deadline, stage := .reading pod }
  pausing wake := .destroy { handle, deadline, stage := .pausing pod wake }
  Undecided := Lingers
  note _ books := books
  asks _ := rfl
  pauses _ _ := rfl
  goesOn := by
    intro now books answer lingers
    obtain ⟨found, rfl⟩ := lingers
    rfl
  wakes _ _ _ := rfl

theorem booksAfter_polling (past : List (Instant × Ask)) (k : Nat) :
    (polling client handle deadline pod).booksAfter partner books past k = books := by
  induction k with
  | zero => rfl
  | succ k ih => exact ih

theorem reply_eq (entry : Instant) (k : Nat) :
    reply partner (reading pod) [(entry, request pod)] k = read partner pod k :=
  congrArg (partner.answer · (reading pod)) (Nat.add_comm 1 k)

theorem ends_unknown (absent : books.registry.get? handle = none) :
    Ends client partner (begun books handle entry deadline)
      ⟨entry, books, ended handle deadline (.error (.notFound handle)), []⟩ := by
  have started : start books handle deadline =
      { handle, deadline, stage := .finished (.error (.notFound handle)) } := by
    simp only [start, Books.lookup, Registry.get, absent]
  rw [begun, Call.destroying, started]
  exact ⟨.refl _, rfl⟩

section
variable (finds : Finds books handle pod)

include finds

theorem begun_eq : begun books handle entry deadline =
    ⟨entry, books, .destroy { handle, deadline, stage := .deleting pod }, []⟩ := by
  obtain ⟨key, registered, rfl⟩ := finds
  rw [begun, Call.destroying, start]
  simp only [Books.lookup, Registry.get, registered]

/-- The deadline ends the wait for the answer to the request. -/
theorem ends_unanswered (late : Unanswered partner entry deadline pod) :
    Ends client partner (begun books handle entry deadline)
      ⟨max deadline entry, books, ended handle deadline (.error (.deleteTimeout handle)),
        [(entry, request pod)]⟩ := by
  refine ⟨.one ?_, rfl⟩
  have past : ¬ entry + partner.delay 0 (request pod) ≤ max deadline entry := Nat.not_le_of_lt late
  rw [begun_eq finds]
  simp only [tick, Call.awaiting, awaiting]
  exact if_neg past

/-- The request is answered in time. -/
theorem runs_answered (early : ¬ Unanswered partner entry deadline pod) :
    Runs client partner (begun books handle entry deadline)
      (Solo.told client ⟨entry, books, .destroy { handle, deadline, stage := .deleting pod }, []⟩
        (answeredAt partner entry pod) (.answered (partner.answer 0 (request pod)))
        [(entry, request pod)]) := by
  have due : entry + partner.delay 0 (request pod) ≤ max deadline entry := Nat.le_of_not_lt early
  rw [begun_eq finds]
  apply Runs.one
  simp only [tick, Call.awaiting, awaiting]
  exact if_pos due

theorem ends_refused (refused : Refused partner entry deadline pod e) :
    Ends client partner (begun books handle entry deadline)
      ⟨answeredAt partner entry pod, books,
        ended handle deadline (.error (.cluster "failed to delete pod" e)),
        [(entry, request pod)]⟩ := by
  obtain ⟨early, answer, other⟩ := refused
  have runs : Runs client partner _ _ := runs_answered finds early
  rw [answer] at runs
  simp only [told, Call.resume, resume, other] at runs
  exact ⟨runs, rfl⟩

theorem ends_absent (absent : Absent partner entry deadline pod) :
    Ends client partner (begun books handle entry deadline)
      ⟨answeredAt partner entry pod, books.forget handle pod, ended handle deadline (.ok ()),
        [(entry, request pod)]⟩ := by
  obtain ⟨early, e, answer, gone⟩ := absent
  have runs : Runs client partner _ _ := runs_answered finds early
  rw [answer] at runs
  simp only [told, Call.resume, resume, gone, if_true] at runs
  exact ⟨runs, rfl⟩

theorem runs_accepted (accepted : Accepted partner entry deadline pod) :
    Runs client partner (begun books handle entry deadline)
      ⟨answeredAt partner entry pod, books, (polling client handle deadline pod).reading,
        [(entry, request pod)]⟩ := by
  obtain ⟨early, answer⟩ := accepted
  have runs : Runs client partner _ _ := runs_answered finds early
  rw [answer] at runs
  exact runs

section
variable (positive : 0 < client.settings.pollInterval)
variable (prompt : ∀ k, partner.delay k (reading pod) = 0)
variable (accepted : Accepted partner entry deadline pod)

include positive prompt accepted

/-- The first answer that is not the pod ends the destruction. -/
theorem ends_failed (first : FirstFailure client partner entry deadline pod k e) :
    Ends client partner (begun books handle entry deadline)
      ⟨answeredAt partner entry pod + k * client.settings.pollInterval, books.forget handle pod,
        ended handle deadline (failure e),
        questions client partner entry pod (k + 1)⟩ := by
  have decided : Runs client partner ⟨answeredAt partner entry pod, books,
      (polling client handle deadline pod).reading, [(entry, request pod)]⟩ _ :=
    runs_decided positive prompt first.left
      (fun i hi => (reply_eq entry i).symm ▸ first.before i hi)
  rw [reply_eq, first.here, told, before, booksAfter_polling] at decided
  exact ⟨(runs_accepted finds accepted).trans decided, rfl⟩

/-- A pod that lingers is given up at the deadline. -/
theorem ends_lingering
    (lingers : ∀ k < reads client partner entry deadline pod, Lingers (read partner pod k)) :
    Ends client partner (begun books handle entry deadline)
      ⟨max deadline (answeredAt partner entry pod), books.forget handle pod,
        ended handle deadline (.error (.deleteTimeout handle)),
        questions client partner entry pod (reads client partner entry deadline pod)⟩ := by
  have expired : Runs client partner ⟨answeredAt partner entry pod, books,
      (polling client handle deadline pod).reading, [(entry, request pod)]⟩ _ :=
    runs_expired positive prompt (fun i hi => (reply_eq entry i).symm ▸ lingers i hi)
  simp only [booksAfter_polling] at expired
  exact ⟨(runs_accepted finds accepted).trans expired, rfl⟩

end
end

/-! ## All courses -/

/-- How a destruction ends, by what the books held and what the cluster answered. -/
structure Ending (client : Client) (partner : Partner) (books : Books) (handle : String)
    (entry deadline : Instant) (s : Solo) : Prop where
  unknown : books.registry.get? handle = none →
    s = ⟨entry, books, ended handle deadline (.error (.notFound handle)), []⟩
  unanswered : ∀ pod, Finds books handle pod → Unanswered partner entry deadline pod →
    s = ⟨max deadline entry, books, ended handle deadline (.error (.deleteTimeout handle)),
      [(entry, request pod)]⟩
  refused : ∀ pod e, Finds books handle pod → Refused partner entry deadline pod e →
    s = ⟨answeredAt partner entry pod, books,
      ended handle deadline (.error (.cluster "failed to delete pod" e)), [(entry, request pod)]⟩
  /-- Exactly these three leave the books alone. -/
  kept : s.books.Agrees books ↔ books.registry.get? handle = none ∨
    ∃ pod, Finds books handle pod ∧
      (Unanswered partner entry deadline pod ∨ ∃ e, Refused partner entry deadline pod e)
  forgotten : ¬ s.books.Agrees books →
    ∃ pod, Finds books handle pod ∧ books.Forgotten s.books handle pod
  absent : ∀ pod, Finds books handle pod → Absent partner entry deadline pod →
    s = ⟨answeredAt partner entry pod, books.forget handle pod, ended handle deadline (.ok ()),
      [(entry, request pod)]⟩
  failed : ∀ pod k e, Finds books handle pod → Accepted partner entry deadline pod →
    FirstFailure client partner entry deadline pod k e →
    s = ⟨answeredAt partner entry pod + k * client.settings.pollInterval, books.forget handle pod,
      ended handle deadline (failure e), questions client partner entry pod (k + 1)⟩
  lingering : ∀ pod, Finds books handle pod → Accepted partner entry deadline pod →
    (∀ k < reads client partner entry deadline pod, Lingers (read partner pod k)) →
    s = ⟨max deadline (answeredAt partner entry pod), books.forget handle pod,
      ended handle deadline (.error (.deleteTimeout handle)),
      questions client partner entry pod (reads client partner entry deadline pod)⟩
  /-- Once the request is accepted the pod is read so many times at most, and the destruction
  succeeds just when the first other answer says that the pod is gone. -/
  polled : ∀ pod, Finds books handle pod → Accepted partner entry deadline pod →
    (∃ n, n ≤ reads client partner entry deadline pod ∧
      s.log = questions client partner entry pod n) ∧
    (s.call = ended handle deadline (.ok ()) ↔
      ∃ k e, FirstFailure client partner entry deadline pod k e ∧ e.isNotFound = true)

/-- What the cluster can answer to the request, and whether in time. -/
theorem request_cases (partner : Partner) (entry deadline : Instant) (pod : Pod) :
    Unanswered partner entry deadline pod ∨ (∃ e, Refused partner entry deadline pod e) ∨
      Absent partner entry deadline pod ∨ Accepted partner entry deadline pod := by
  by_cases late : Unanswered partner entry deadline pod
  · exact .inl late
  · right
    have suits := partner.suits 0 (request pod)
    cases answer : partner.answer 0 (request pod) with
    | deleted result =>
        cases result with
        | ok u => exact .inr (.inr ⟨late, answer⟩)
        | error e =>
            cases gone : e.isNotFound with
            | true => exact .inr (.inl ⟨late, e, answer, gone⟩)
            | false => exact .inl ⟨e, late, answer, gone⟩
    | _ =>
        rw [answer] at suits
        cases suits

/-- Every course comes to its end, either with the books as they were or with the handle
forgotten. -/
theorem exists_end (books : Books) (handle : String) (entry deadline : Instant)
    (positive : 0 < client.settings.pollInterval)
    (prompt : ∀ k pod, partner.delay k (reading pod) = 0) :
    ∃ s, Ends client partner (begun books handle entry deadline) s ∧
      ((s.books = books ∧ (books.registry.get? handle = none ∨ ∃ pod, Finds books handle pod ∧
          (Unanswered partner entry deadline pod ∨ ∃ e, Refused partner entry deadline pod e))) ∨
        ∃ pod, Finds books handle pod ∧ s.books = books.forget handle pod) := by
  cases registered : books.registry.get? handle with
  | none => exact ⟨_, ends_unknown registered, .inl ⟨rfl, .inl rfl⟩⟩
  | some key =>
      have finds : Finds books handle (books.sandbox key).pod := ⟨key, registered, rfl⟩
      rcases request_cases partner entry deadline (books.sandbox key).pod with
        late | ⟨e, refused⟩ | absent | accepted
      · exact ⟨_, ends_unanswered finds late, .inl ⟨rfl, .inr ⟨_, finds, .inl late⟩⟩⟩
      · exact ⟨_, ends_refused finds refused, .inl ⟨rfl, .inr ⟨_, finds, .inr ⟨e, refused⟩⟩⟩⟩
      · exact ⟨_, ends_absent finds absent, .inr ⟨_, finds, rfl⟩⟩
      · rcases lingers_or_fails client partner entry deadline (books.sandbox key).pod with
          lingers | ⟨k, e, first⟩
        · exact ⟨_, ends_lingering finds positive (prompt · _) accepted lingers,
            .inr ⟨_, finds, rfl⟩⟩
        · exact ⟨_, ends_failed finds positive (prompt · _) accepted first,
            .inr ⟨_, finds, rfl⟩⟩

theorem Finds.not_agrees {after : Books} {found : Pod} (finds : Finds books handle pod)
    (forgot : after = books.forget handle found) : ¬ after.Agrees books := by
  obtain ⟨key, registered, -⟩ := finds
  rw [forgot]
  exact (Books.forgotten_forget books handle found).not_agrees registered

/-- A destruction ends whatever the cluster answers, and in the way that the answers determine. -/
theorem destruction_ending (positive : 0 < client.settings.pollInterval)
    (prompt : ∀ k pod, partner.delay k (reading pod) = 0) :
    (∃ s, Ends client partner (begun books handle entry deadline) s) ∧
      ∀ s, Ends client partner (begun books handle entry deadline) s →
        Ending client partner books handle entry deadline s := by
  obtain ⟨e, ends, course⟩ := exists_end books handle entry deadline positive prompt
  refine ⟨⟨e, ends⟩, fun s other => ?_⟩
  obtain rfl := ends.unique other
  refine ⟨?_, ?_, ?_, ?_, ?_, ?_, ?_, ?_, ?_⟩
  · exact fun absent => ends.unique (ends_unknown absent)
  · exact fun pod finds late => ends.unique (ends_unanswered finds late)
  · exact fun pod e finds refused => ends.unique (ends_refused finds refused)
  · constructor
    · intro same
      rcases course with ⟨-, why⟩ | ⟨pod, finds, forgot⟩
      · exact why
      · exact (finds.not_agrees forgot same).elim
    · intro why
      rcases why with absent | ⟨pod, finds, late | ⟨e, refused⟩⟩
      · rw [ends.unique (ends_unknown absent)]
        exact .refl books
      · rw [ends.unique (ends_unanswered finds late)]
        exact .refl books
      · rw [ends.unique (ends_refused finds refused)]
        exact .refl books
  · intro changed
    rcases course with ⟨same, -⟩ | ⟨pod, finds, forgot⟩
    · rw [same] at changed
      exact (changed (.refl books)).elim
    · rw [forgot]
      exact ⟨pod, finds, Books.forgotten_forget books handle pod⟩
  · exact fun pod finds absent => ends.unique (ends_absent finds absent)
  · exact fun pod k e finds accepted first =>
      ends.unique (ends_failed finds positive (prompt · pod) accepted first)
  · exact fun pod finds accepted lingers =>
      ends.unique (ends_lingering finds positive (prompt · pod) accepted lingers)
  · intro pod finds accepted
    rcases lingers_or_fails client partner entry deadline pod with lingers | ⟨k, e, first⟩
    · rw [ends.unique (ends_lingering finds positive (prompt · pod) accepted lingers)]
      refine ⟨⟨_, Nat.le_refl _, rfl⟩, ?_⟩
      constructor
      · intro ok
        cases ok
      · intro fails
        obtain ⟨k, e, first, -⟩ := fails
        exact (first.not_lingers (lingers k first.left)).elim
    · rw [ends.unique (ends_failed finds positive (prompt · pod) accepted first)]
      refine ⟨⟨_, first.left, rfl⟩, ?_⟩
      constructor
      · intro ok
        refine ⟨k, e, first, ?_⟩
        by_contra other
        simp [ended, failure, other] at ok
      · intro fails
        obtain ⟨k', e', first', gone⟩ := fails
        obtain ⟨-, rfl⟩ := first.unique first'
        simp [ended, failure, gone]

/-- The third reading of a pod that lingers falls on the deadline. -/
theorem lingering_pod_read_on_deadline : ∃ (client : Client) (books : Books),
    Connected [.publishing "web" 62000] client books ∧
      let partner := Partner.showing (.publishing "web" 62000) 200000000
      reads client partner 0 1200000000 (.publishing "web" 62000) = 3 ∧
        0 < client.settings.pollInterval ∧ (∀ k pod, partner.delay k (reading pod) = 0) ∧
        (∃ s, Ends client partner (begun books "web" 0 1200000000) s) ∧
        ∀ s, Ends client partner (begun books "web" 0 1200000000) s →
          Ending client partner books "web" 0 1200000000 s :=
  ⟨_, _, ⟨{}, "node", {}, [], rfl⟩, by decide, by decide, fun _ _ => rfl,
    destruction_ending (by decide) fun _ _ => rfl⟩

end DestroyCall
end SandboxPods
