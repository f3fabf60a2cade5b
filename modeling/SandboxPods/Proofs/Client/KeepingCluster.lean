import SandboxPods.Proofs.Client.Interleaving

/-!
# Calls against a cluster that keeps its pods

The cluster keeps every pod as it was submitted and gives it a status, which no
longer changes once the pod runs. A pod goes only after its deletion was accepted.
The runtime finds the same tasks whenever it is given the same statuses. For a call
that is not lost, that is, does not return an error, this module lists what a step
does to the books together with what the cluster had to do with it.
-/
namespace SandboxPods

/-! ## The cluster -/

/-- A pod of the cluster. Once its deletion was accepted it is leaving. -/
structure KeptPod where
  pod : Pod
  leaving : Bool := false

/-- The pods of one namespace by name. -/
abbrev Kept := Table KeptPod

/-- What the runtime makes of the statuses of a pod. -/
abbrev TaskLoader := List ContainerStatus → Except EngineError Tasks

/-- The namespace of the pods that a call on the cluster is about. -/
def ClusterCall.podNamespace? : ClusterCall → Option String
  | .getNode _ => none
  | .getPod podNamespace _ | .deletePod podNamespace _ _ | .listPods podNamespace _ =>
    some podNamespace
  | .createPod pod => some pod.podNamespace

/-- The cluster failed, and not because it knows no such pod. -/
def Answer.isFailure : Answer → Bool
  | .pod (.error e) | .deleted (.error e) => !e.isNotFound
  | .pods (.error _) => true
  | _ => false

/-- A read may miss a pod of the name: there is none, or it is not running yet. -/
def Kept.Misses (kept : Kept) (name : String) : Prop :=
  ∀ k, kept.get? name = some k → k.pod.isRunning = false

/-- A question about the pods of a namespace, or about images or tasks, is answered, and the kept
pods are those of after. A failure says nothing about what has come of the question. -/
inductive Answers (podNamespace : String) (loads : TaskLoader) (kept : Kept) :
    Ask → Answer → Kept → Prop
  | creates {pod stored : Pod} : pod.podNamespace = podNamespace → kept.get? pod.name = none →
      stored.metadata = pod.metadata → stored.spec = pod.spec →
      Answers podNamespace loads kept (.cluster (.createPod pod)) (.pod (.ok stored))
        (kept.insert pod.name { pod := stored })
  | refuses {pod : Pod} {e : ClusterError} {after : Kept} :
      Answers podNamespace loads kept (.cluster (.createPod pod)) (.pod (.error e)) after
  | shows {name : String} {k : KeptPod} : kept.get? name = some k →
      Answers podNamespace loads kept (.cluster (.getPod podNamespace name)) (.pod (.ok k.pod)) kept
  | misses {name : String} {e : ClusterError} : e.isNotFound = true → kept.Misses name →
      Answers podNamespace loads kept (.cluster (.getPod podNamespace name)) (.pod (.error e)) kept
  | accepts {name : String} {grace : Option Int} {k : KeptPod} : kept.get? name = some k →
      Answers podNamespace loads kept (.cluster (.deletePod podNamespace name grace))
        (.deleted (.ok ())) (kept.insert name { k with leaving := true })
  | knowsNone {name : String} {grace : Option Int} {e : ClusterError} : e.isNotFound = true →
      kept.Misses name → Answers podNamespace loads kept
        (.cluster (.deletePod podNamespace name grace)) (.deleted (.error e)) kept
  | lists {listed : List Pod} : listed.Perm (kept.values.map (·.pod)) →
      Answers podNamespace loads kept (.cluster (.listPods podNamespace {})) (.pods (.ok listed))
        kept
  | fails {call : ClusterCall} {answer : Answer} {after : Kept} : answer.isFailure = true →
      Answers podNamespace loads kept (.cluster call) answer after
  | elsewhere {call : ClusterCall} {answer : Answer} : call.podNamespace? ≠ some podNamespace →
      Answers podNamespace loads kept (.cluster call) answer kept
  | pulls {reference : ImageReference} {credentials : Option Credentials} {answer : Answer} :
      Answers podNamespace loads kept (.pull reference credentials) answer kept
  | discards {id : ImageId} {answer : Answer} :
      Answers podNamespace loads kept (.deleteImage id) answer kept
  | loads {statuses : List ContainerStatus} :
      Answers podNamespace loads kept (.loadTasks statuses) (.tasks (loads statuses)) kept

namespace Answers
variable {ns name : String} {loads : TaskLoader} {kept after : Kept} {pod : Pod}
variable {answer : Answer} {e : ClusterError} {grace : Option Int}

theorem of_created {stored : Pod} (here : pod.podNamespace = ns)
    (h : Answers ns loads kept (.cluster (.createPod pod)) (.pod (.ok stored)) after) :
    stored.metadata = pod.metadata ∧ stored.spec = pod.spec ∧
      after = kept.insert pod.name { pod := stored } := by
  cases h with
  | creates _ _ metadata spec => exact ⟨metadata, spec, rfl⟩
  | fails failed => cases failed
  | elsewhere away => exact (away (congrArg some here)).elim

theorem of_shown (h : Answers ns loads kept (.cluster (.getPod ns name)) (.pod (.ok pod)) after) :
    after = kept ∧ ∃ k, kept.get? name = some k ∧ k.pod = pod := by
  cases h with
  | shows found => exact ⟨rfl, _, found, rfl⟩
  | fails failed => cases failed
  | elsewhere away => exact (away rfl).elim

theorem of_missed (absent : e.isNotFound = true)
    (h : Answers ns loads kept (.cluster (.getPod ns name)) (.pod (.error e)) after) :
    after = kept ∧ kept.Misses name := by
  cases h with
  | misses _ missed => exact ⟨rfl, missed⟩
  | fails failed =>
      rw [Answer.isFailure, absent] at failed
      cases failed
  | elsewhere away => exact (away rfl).elim

theorem of_accepted
    (h : Answers ns loads kept (.cluster (.deletePod ns name grace)) (.deleted (.ok ())) after) :
    ∃ k, kept.get? name = some k ∧ after = kept.insert name { k with leaving := true } := by
  cases h with
  | accepts found => exact ⟨_, found, rfl⟩
  | fails failed => cases failed
  | elsewhere away => exact (away rfl).elim

theorem of_unknown (absent : e.isNotFound = true)
    (h : Answers ns loads kept (.cluster (.deletePod ns name grace)) (.deleted (.error e)) after) :
    after = kept ∧ kept.Misses name := by
  cases h with
  | knowsNone _ missed => exact ⟨rfl, missed⟩
  | fails failed =>
      rw [Answer.isFailure, absent] at failed
      cases failed
  | elsewhere away => exact (away rfl).elim

theorem of_listed {listed : List Pod}
    (h : Answers ns loads kept (.cluster (.listPods ns {})) (.pods (.ok listed)) after) :
    listed.Perm (kept.values.map (·.pod)) := by
  cases h with
  | lists perm => exact perm
  | fails failed => cases failed
  | elsewhere away => exact (away rfl).elim

theorem of_loaded {statuses : List ContainerStatus}
    (h : Answers ns loads kept (.loadTasks statuses) answer after) :
    answer = .tasks (loads statuses) ∧ after = kept := by
  cases h with
  | loads => exact ⟨rfl, rfl⟩

theorem of_silent {ask : Ask} (silent : ∀ call, ask ≠ .cluster call)
    (h : Answers ns loads kept ask answer after) : after = kept := by
  cases h with
  | pulls => rfl
  | discards => rfl
  | loads => rfl
  | _ => exact (silent _ rfl).elim

end Answers

/-- The answer to a question comes from the cluster; nothing else has to do with it. -/
def Awaiting.Served (podNamespace : String) (loads : TaskLoader) (kept : Kept)
    (awaiting : Awaiting) (event : Event) (after : Kept) : Prop :=
  match event with
  | .answered reply => ∃ ask, awaiting.ask? = some ask ∧
      Answers podNamespace loads kept ask reply after
  | _ => after = kept

/-! ## Calls -/

namespace Call

/-- The call has returned without an error. -/
def isSuccess : Call → Bool
  | .create { stage := .finished (.ok _), .. } => true
  | .destroy { stage := .finished (.ok _), .. } => true
  | _ => false

/-- The call has returned an error, or it withdraws its pod and cannot return anything else. -/
def isLost : Call → Bool
  | .create { stage := .finished (.error _), .. } => true
  | .create { stage := .withdrawing _, .. } => true
  | .destroy { stage := .finished (.error _), .. } => true
  | _ => false

theorem isReturned_of_finished {call : CreateCall} {result : Except LifecycleError Nat}
    (h : call.stage = .finished result) : (Call.create call).isReturned = true := by
  obtain ⟨spec, deadline, stage⟩ := call
  cases h
  rfl

theorem isSuccess_iff {call : Call} :
    call.isSuccess = true ↔ call.isReturned = true ∧ call.isLost = false := by
  cases call with
  | create call =>
      obtain ⟨spec, deadline, stage⟩ := call
      cases stage with
      | finished result => cases result <;> simp [isSuccess, isReturned, isLost]
      | _ => simp [isSuccess, isReturned]
  | destroy call =>
      obtain ⟨handle, deadline, stage⟩ := call
      cases stage with
      | finished result => cases result <;> simp [isSuccess, isReturned, isLost]
      | _ => simp [isSuccess, isReturned]

/-- A call that is lost and has not returned is told what became of its pod and returns. -/
theorem isLost_resume {client : Client} {now : Instant} {books : Books} {event : Event}
    {call : Call} (lost : call.isLost = true)
    (admitted : (call.awaiting client books).admits now event = true) :
    (call.resume client now books event).2.isLost = true := by
  cases call with
  | create call =>
      obtain ⟨spec, deadline, stage⟩ := call
      cases stage with
      | finished result => cases admitted
      | withdrawing key =>
          cases event with
          | answered answer =>
              cases answer with
              | deleted result => rfl
              | _ => cases admitted
          | _ => cases admitted
      | _ => cases lost
  | destroy call =>
      obtain ⟨handle, deadline, stage⟩ := call
      cases stage with
      | finished result => cases admitted
      | _ => cases lost

end Call

namespace CreateCall
variable {client : Client} {loads : TaskLoader} {now : Instant} {b : Books} {kept after : Kept}
variable {call : CreateCall} {key : Nat} {event : Event}

/-- What becomes of a creation whose sandbox is registered when it is told something and is not
lost by that. -/
inductive Advances (loads : TaskLoader) (b : Books) (kept : Kept) (call : CreateCall) (key : Nat) :
    Books × CreateCall → Kept → Prop
  | submits {stored : Pod} : call.stage = .submitting key →
      stored.metadata = (b.sandbox key).pod.metadata → stored.spec = (b.sandbox key).pod.spec →
      Advances loads b kept call key (b, { call with stage := .reading key })
        (kept.insert (b.sandbox key).pod.name { pod := stored })
  | rests {wake : Instant} : call.stage = .reading key →
      Advances loads b kept call key (b, { call with stage := .pausing key wake }) kept
  | wakes {wake : Instant} : call.stage = .pausing key wake →
      Advances loads b kept call key (b, { call with stage := .reading key }) kept
  | sees {k : KeptPod} {wake : Instant} : call.stage = .reading key →
      kept.get? call.spec.handle = some k → Advances loads b kept call key
        (b.modify key fun s => { s with pod := k.pod }, { call with stage := .pausing key wake })
        kept
  | ready {k : KeptPod} : call.stage = .reading key → kept.get? call.spec.handle = some k →
      k.pod.isRunning = true → Advances loads b kept call key
        (b.modify key fun s => { s with pod := k.pod },
          { call with stage := .loading key k.pod.status.containerStatuses }) kept
  | succeeds {statuses : List ContainerStatus} {tasks : Tasks} :
      call.stage = .loading key statuses → loads statuses = .ok tasks →
      Advances loads b kept call key (loaded b call key tasks) kept

theorem submitting_advances (stage : call.stage = .submitting key)
    (here : (b.sandbox key).pod.podNamespace = client.settings.podNamespace)
    (admitted : (call.awaiting client b).admits now event = true)
    (served : (call.awaiting client b).Served client.settings.podNamespace loads kept event after)
    (unlost : (Call.create (call.resume client now b event).2).isLost = false) :
    Advances loads b kept call key (call.resume client now b event) after := by
  obtain ⟨spec, deadline, stage⟩ := call
  cases stage
  cases event with
  | answered answer =>
      cases answer with
      | pod result =>
          obtain ⟨ask, ⟨⟩, answers⟩ := served
          cases result with
          | ok stored =>
              obtain ⟨metadata, spec, rfl⟩ := answers.of_created here
              exact .submits rfl metadata spec
          | error e => cases unlost
      | _ => cases admitted
  | _ => cases admitted

theorem reading_advances (stage : call.stage = .reading key)
    (admitted : (call.awaiting client b).admits now event = true)
    (served : (call.awaiting client b).Served client.settings.podNamespace loads kept event after)
    (unlost : (Call.create (call.resume client now b event).2).isLost = false) :
    Advances loads b kept call key (call.resume client now b event) after := by
  obtain ⟨spec, deadline, stage⟩ := call
  cases stage
  cases event with
  | answered answer =>
      cases answer with
      | pod result =>
          obtain ⟨ask, ⟨⟩, answers⟩ := served
          cases result with
          | ok pod =>
              obtain ⟨rfl, k, found, rfl⟩ := answers.of_shown
              by_cases running : k.pod.isRunning = true
              · simp only [resume, sawPod, running, if_true]
                exact .ready rfl found running
              · simp only [resume, sawPod, running]
                exact .sees rfl found
          | error e =>
              by_cases absent : e.isNotFound = true
              · obtain ⟨rfl, -⟩ := answers.of_missed absent
                simp only [resume, absent, if_true]
                exact .rests rfl
              · simp only [resume, absent] at unlost
                cases unlost
      | _ => cases admitted
  | expired => cases unlost
  | woke => cases admitted

theorem loading_advances {statuses : List ContainerStatus}
    (stage : call.stage = .loading key statuses)
    (admitted : (call.awaiting client b).admits now event = true)
    (served : (call.awaiting client b).Served client.settings.podNamespace loads kept event after)
    (unlost : (Call.create (call.resume client now b event).2).isLost = false) :
    Advances loads b kept call key (call.resume client now b event) after := by
  obtain ⟨spec, deadline, stage⟩ := call
  cases stage
  cases event with
  | answered answer =>
      cases answer with
      | tasks result =>
          obtain ⟨ask, ⟨⟩, answers⟩ := served
          obtain ⟨same, rfl⟩ := answers.of_loaded
          cases result with
          | ok tasks => exact .succeeds rfl (Answer.tasks.inj same).symm
          | error e => cases unlost
      | _ => cases admitted
  | _ => cases admitted

theorem resume_advances (held : call.key? = some key)
    (here : (b.sandbox key).pod.podNamespace = client.settings.podNamespace)
    (admitted : (call.awaiting client b).admits now event = true)
    (served : (call.awaiting client b).Served client.settings.podNamespace loads kept event after)
    (unlost : (Call.create (call.resume client now b event).2).isLost = false) :
    Advances loads b kept call key (call.resume client now b event) after := by
  obtain ⟨spec, deadline, stage⟩ := call
  cases stage with
  | submitting k =>
      cases held
      exact submitting_advances rfl here admitted served unlost
  | reading k =>
      cases held
      exact reading_advances rfl admitted served unlost
  | loading k statuses =>
      cases held
      exact loading_advances rfl admitted served unlost
  | pausing k wake =>
      cases held
      cases event with
      | answered answer => cases admitted
      | woke =>
          cases served
          exact .wakes rfl
      | expired => cases unlost
  | withdrawing k =>
      -- The withdrawal ends with an error, whatever becomes of the pod.
      cases event with
      | answered answer =>
          cases answer with
          | deleted result => cases unlost
          | _ => cases admitted
      | _ => cases admitted
  | _ => cases held

end CreateCall

namespace DestroyCall
variable {client : Client} {loads : TaskLoader} {now : Instant} {b : Books} {kept after : Kept}
variable {call : DestroyCall} {pod : Pod} {event : Event}

/-- What becomes of a destruction when it is told something and is not lost by that. -/
inductive Advances (b : Books) (kept : Kept) (call : DestroyCall) (pod : Pod) :
    Books × DestroyCall → Kept → Prop
  | deletes {k : KeptPod} : call.stage = .deleting pod → kept.get? pod.name = some k →
      Advances b kept call pod (b, { call with stage := .reading pod })
        (kept.insert pod.name { k with leaving := true })
  | sees {wake : Instant} : call.stage = .reading pod →
      Advances b kept call pod (b, { call with stage := .pausing pod wake }) kept
  | wakes {wake : Instant} : call.stage = .pausing pod wake →
      Advances b kept call pod (b, { call with stage := .reading pod }) kept
  | forgets : kept.Misses pod.name →
      Advances b kept call pod (call.forget b pod (.ok ())) kept

theorem deleting_advances (stage : call.stage = .deleting pod)
    (here : pod.podNamespace = client.settings.podNamespace)
    (admitted : call.awaiting.admits now event = true)
    (served : call.awaiting.Served client.settings.podNamespace loads kept event after)
    (unlost : (Call.destroy (call.resume client now b event).2).isLost = false) :
    Advances b kept call pod (call.resume client now b event) after := by
  obtain ⟨handle, deadline, stage⟩ := call
  cases stage
  cases event with
  | answered answer =>
      cases answer with
      | deleted result =>
          obtain ⟨ask, ⟨⟩, answers⟩ := served
          rw [here] at answers
          cases result with
          | ok u =>
              obtain ⟨k, found, rfl⟩ := answers.of_accepted
              exact .deletes rfl found
          | error e =>
              by_cases absent : e.isNotFound = true
              · obtain ⟨rfl, missed⟩ := answers.of_unknown absent
                simp only [resume, absent, if_true]
                exact .forgets missed
              · simp only [resume, absent] at unlost
                cases unlost
      | _ => cases admitted
  | expired => cases unlost
  | woke => cases admitted

theorem reading_advances (stage : call.stage = .reading pod)
    (here : pod.podNamespace = client.settings.podNamespace)
    (admitted : call.awaiting.admits now event = true)
    (served : call.awaiting.Served client.settings.podNamespace loads kept event after)
    (unlost : (Call.destroy (call.resume client now b event).2).isLost = false) :
    Advances b kept call pod (call.resume client now b event) after := by
  obtain ⟨handle, deadline, stage⟩ := call
  cases stage
  cases event with
  | answered answer =>
      cases answer with
      | pod result =>
          obtain ⟨ask, ⟨⟩, answers⟩ := served
          rw [here] at answers
          cases result with
          | ok found =>
              obtain ⟨rfl, -⟩ := answers.of_shown
              exact .sees rfl
          | error e =>
              by_cases absent : e.isNotFound = true
              · obtain ⟨rfl, missed⟩ := answers.of_missed absent
                simp only [resume, absent, if_true]
                exact .forgets missed
              · simp only [resume, absent] at unlost
                cases unlost
      | _ => cases admitted
  | expired => cases unlost
  | woke => cases admitted

theorem resume_advances (held : call.pod? = some pod)
    (here : pod.podNamespace = client.settings.podNamespace)
    (admitted : call.awaiting.admits now event = true)
    (served : call.awaiting.Served client.settings.podNamespace loads kept event after)
    (unlost : (Call.destroy (call.resume client now b event).2).isLost = false) :
    Advances b kept call pod (call.resume client now b event) after := by
  obtain ⟨handle, deadline, stage⟩ := call
  cases stage with
  | deleting p =>
      cases held
      exact deleting_advances rfl here admitted served unlost
  | reading p =>
      cases held
      exact reading_advances rfl here admitted served unlost
  | pausing p wake =>
      cases held
      cases event with
      | answered answer => cases admitted
      | woke =>
          cases served
          exact .wakes rfl
      | expired => cases unlost
  | finished result => cases held

end DestroyCall

namespace Interleaving
variable {client : Client} {loads : TaskLoader} {books : Books} {s t : Interleaving} {m : Move}
variable {kept after : Kept}

/-! ## Runs -/

/-- What a call is told, if it is told anything, comes from the cluster as it stands. -/
def Served (client : Client) (loads : TaskLoader) (s : Interleaving) (kept : Kept) (m : Move)
    (after : Kept) : Prop :=
  match m with
  | .event i _ event => ∃ call, s.calls[i]? = some call ∧
      (call.awaiting client s.books).Served client.settings.podNamespace loads kept event after
  | _ => after = kept

theorem Served.of_event {i : Nat} {call : Call} {now : Instant} {event : Event}
    (served : s.Served client loads kept (.event i now event) after)
    (found : s.calls[i]? = some call) : (call.awaiting client s.books).Served
      client.settings.podNamespace loads kept event after := by
  obtain ⟨other, here, served⟩ := served
  cases found.symm.trans here
  exact served

/-- What comes about from the books and an empty namespace when calls are made one after another.
Between their moves the status of a pod changes that is not running, and pods that are leaving
are gone. -/
inductive Deployed (client : Client) (loads : TaskLoader) (books : Books) :
    Interleaving → Kept → Prop
  | start : Deployed client loads books { books } {}
  | moves {s : Interleaving} {kept after : Kept} {m : Move} : Deployed client loads books s kept →
      s.Admits client m → s.Sequential m → s.Served client loads kept m after →
      Deployed client loads books (s.step client m) after
  | changes {s : Interleaving} {kept : Kept} {name : String} {k : KeptPod} {status : PodStatus} :
      Deployed client loads books s kept → kept.get? name = some k → k.pod.isRunning = false →
      Deployed client loads books s (kept.insert name { k with pod := { k.pod with status } })
  | vanishes {s : Interleaving} {kept : Kept} {name : String} {k : KeptPod} :
      Deployed client loads books s kept → kept.get? name = some k → k.leaving = true →
      Deployed client loads books s (kept.erase name)

theorem Deployed.reaches (run : Deployed client loads books s kept) :
    Reaches client Sequential { books } s := by
  induction run with
  | start => exact .start
  | moves _ admitted sequential _ ih => exact ih.step admitted sequential
  | changes _ _ _ ih => exact ih
  | vanishes _ _ _ ih => exact ih

/-- Some call has returned an error or is bound to. -/
def Lost (s : Interleaving) : Prop := ∃ call ∈ s.calls, call.isLost = true

theorem Lost.step (lost : s.Lost) (admitted : s.Admits client m) : (s.step client m).Lost := by
  obtain ⟨call, member, fails⟩ := lost
  cases m with
  | create spec deadline => exact ⟨call, List.mem_append_left _ member, fails⟩
  | destroy handle deadline => exact ⟨call, List.mem_append_left _ member, fails⟩
  | event i now event =>
      obtain ⟨mine, found, admits⟩ := admitted
      have placed : Placed client s (s.step client (.event i now event)) i
          (mine.resume client now s.books event) := by
        simp only [Interleaving.step, found]
        exact placed_advanced found event _
      obtain ⟨j, hj⟩ := List.mem_iff_getElem?.1 member
      by_cases same : j = i
      · subst same
        cases found.symm.trans hj
        exact ⟨_, List.mem_of_getElem? placed.here, Call.isLost_resume fails admits⟩
      · exact ⟨call, List.mem_of_getElem? ((placed.elsewhere j same).trans hj), fails⟩

end Interleaving
end SandboxPods
