import SandboxPods.Client.Exchange
import SandboxPods.Proofs.Client.HandleRace
import SandboxPods.Proofs.Client.Incarnation
import SandboxPods.Proofs.Client.Ownership

/-!
# The tasks of a created sandbox

A creation goes by the phase of the pod alone when it decides that the pod is ready,
and then has the tasks loaded for the statuses of that very reading. A status may
come without the identifier of a running container, and a role may come without a
status; the runtime leaves both out. So the roles of a created sandbox that have a
task are those that the reading identified, and no others: processes and transfers
find the task of the former and fail for want of one in the latter.

The runtime is followed down to its replies on the wire, which may be any.
-/
namespace SandboxPods

/-! ## What a dialogue can come to -/

namespace Dialogue
variable {Q R Q' R' α β ε : Type} {d : Dialogue Q R α} {a : α} {b : β}

/-- Some replies lead the dialogue to the result. -/
inductive Yields : Dialogue Q R α → α → Prop
  | done (a : α) : Yields (.done a) a
  | send {question : Q} {next : R → Dialogue Q R α} {a : α} (reply : R) :
      Yields (next reply) a → Yields (.send question next) a

theorem Yields.of_bind {f : α → Dialogue Q R β} (h : (d.bind f).Yields b) :
    ∃ a, d.Yields a ∧ (f a).Yields b := by
  induction d with
  | done a => exact ⟨a, .done a, h⟩
  | send question next ih =>
      cases h with
      | send reply later =>
          obtain ⟨a, before, after⟩ := ih reply later
          exact ⟨a, .send reply before, after⟩

/-- Only a good result leads to a good result. -/
theorem Yields.of_andThen {d : Dialogue Q R (Except ε α)} {f : α → Dialogue Q R (Except ε β)}
    (h : (d.andThen f).Yields (.ok b)) : ∃ a, d.Yields (.ok a) ∧ (f a).Yields (.ok b) := by
  obtain ⟨result, before, after⟩ := h.of_bind
  cases result with
  | error e => cases after
  | ok a => exact ⟨a, before, after⟩

theorem Yields.of_lift {question : Q → Q'} {reply : R' → R}
    (h : (d.lift question reply).Yields a) : d.Yields a := by
  induction d with
  | done a =>
      cases h
      exact .done a
  | send q next ih =>
      cases h with
      | send answer later => exact .send (reply answer) (ih (reply answer) later)

end Dialogue

/-! ## The tasks that the runtime finds -/

/-- A status of the role carries the identifier of its running container. -/
def Identified (statuses : List ContainerStatus) (role : String) : Prop :=
  ∃ status ∈ statuses, status.name = role ∧ status.containerId.isSome = true

instance (statuses : List ContainerStatus) (role : String) : Decidable (Identified statuses role) :=
  inferInstanceAs (Decidable (∃ status ∈ statuses,
    status.name = role ∧ status.containerId.isSome = true))

theorem identified_cons {status : ContainerStatus} {rest : List ContainerStatus} {role : String} :
    Identified (status :: rest) role ↔
      (status.name = role ∧ status.containerId.isSome = true) ∨ Identified rest role := by
  simp [Identified]

/-- Whatever the runtime replies, the roles that get a task are those that are identified. -/
theorem Runtime.loadTasks_yields {statuses : List ContainerStatus} {tasks loaded : Tasks}
    (h : (Runtime.loadTasks tasks statuses).Yields (.ok loaded)) (role : String) :
    loaded.contains role = true ↔ tasks.contains role = true ∨ Identified statuses role := by
  induction statuses generalizing tasks with
  | nil =>
      cases h
      simp [Identified]
  | cons status rest ih =>
      rw [identified_cons]
      unfold loadTasks at h
      cases identifier : status.containerId with
      | none =>
          rw [identifier] at h
          rw [ih h]
          simp
      | some id =>
          rw [identifier] at h
          obtain ⟨task, -, later⟩ := h.of_andThen
          rw [ih later]
          by_cases here : role = status.name
          · simp [Table.contains, here]
          · simp [Table.contains, Table.get?_insert, here, Ne.symm here]

theorem Ask.loadTasks_yields {statuses : List ContainerStatus} {tasks : Tasks}
    (h : (Ask.loadTasks statuses).dialogue.Yields (.tasks (.ok tasks))) (role : String) :
    tasks.contains role = true ↔ Identified statuses role := by
  obtain ⟨result, before, after⟩ := Dialogue.Yields.of_bind h
  cases after
  have none_before : ({} : Tasks).contains role = false := rfl
  rw [Runtime.loadTasks_yields before.of_lift, none_before]
  simp

/-! ## What a task is good for -/

namespace Sandbox
variable {s : Sandbox} {role : String}

end Sandbox

/-! ## Where a creation gets its sandbox's tasks -/

namespace CreateCall
variable {client : Client} {now : Instant} {books : Books} {call : CreateCall} {event : Event}
variable {key k : Nat} {statuses : List ContainerStatus}

/-- The two steps by which a creation whose sandbox is registered comes to its tasks, and all the
others, after which it neither waits for tasks nor has succeeded. -/
inductive Readying (books : Books) (call : CreateCall) (key : Nat) (event : Event) :
    Books × CreateCall → Prop
  | loads (pod : Pod) : event = .answered (.pod (.ok pod)) → pod.isRunning = true →
      Readying books call key event (books.modify key (fun s => { s with pod }),
        { call with stage := .loading key pod.status.containerStatuses })
  | succeeds (statuses : List ContainerStatus) (tasks : Tasks) :
      call.stage = .loading key statuses → event = .answered (.tasks (.ok tasks)) →
      Readying books call key event (loaded books call key tasks)
  | passes {r : Books × CreateCall} : (∀ k statuses, r.2.stage ≠ .loading k statuses) →
      (∀ k, r.2.stage ≠ .finished (.ok k)) → Readying books call key event r

theorem resume_readying (held : call.key? = some key)
    (admitted : (call.awaiting client books).admits now event = true) :
    Readying books call key event (call.resume client now books event) := by
  obtain ⟨spec, deadline, stage⟩ := call
  cases stage with
  | submitting k =>
      cases event with
      | answered answer =>
          cases answer with
          | pod result =>
              cases result with
              | ok pod => exact .passes (fun _ _ e => nomatch e) (fun _ e => nomatch e)
              | error e => exact .passes (fun _ _ e => nomatch e) (fun _ e => nomatch e)
          | _ => cases admitted
      | _ => cases admitted
  | reading k =>
      cases held
      cases event with
      | answered answer =>
          cases answer with
          | pod result =>
              cases result with
              | ok pod =>
                  by_cases running : pod.isRunning = true
                  · simp only [resume, sawPod, running, if_true]
                    exact .loads pod rfl running
                  · simp only [resume, sawPod, running]
                    exact .passes (fun _ _ e => nomatch e) (fun _ e => nomatch e)
              | error e =>
                  by_cases absent : e.isNotFound = true
                  · simp only [resume, absent, if_true]
                    exact .passes (fun _ _ e => nomatch e) (fun _ e => nomatch e)
                  · simp only [resume, absent]
                    exact .passes (fun _ _ e => nomatch e) (fun _ e => nomatch e)
          | _ => cases admitted
      | expired => exact .passes (fun _ _ e => nomatch e) (fun _ e => nomatch e)
      | woke => cases admitted
  | pausing k wake =>
      cases event with
      | answered answer => cases admitted
      | woke => exact .passes (fun _ _ e => nomatch e) (fun _ e => nomatch e)
      | expired => exact .passes (fun _ _ e => nomatch e) (fun _ e => nomatch e)
  | withdrawing k =>
      cases event with
      | answered answer =>
          cases answer with
          | deleted result => exact .passes (fun _ _ e => nomatch e) (fun _ e => nomatch e)
          | _ => cases admitted
      | _ => cases admitted
  | loading k statuses =>
      cases held
      cases event with
      | answered answer =>
          cases answer with
          | tasks result =>
              cases result with
              | ok tasks => exact .succeeds statuses tasks rfl rfl
              | error e => exact .passes (fun _ _ e => nomatch e) (fun _ e => nomatch e)
          | _ => cases admitted
      | _ => cases admitted
  | _ => cases held

end CreateCall

/-! ## Every run -/

namespace Interleaving
variable {client : Client} {s t : Interleaving} {m : Move} {i n key : Nat} {call : CreateCall}

/-- Tasks come from the runtime, which may reply anything. -/
def LoadsFromRuntime (client : Client) (s : Interleaving) : Move → Prop
  | .event i _ (.answered answer) => ∀ call statuses, s.calls[i]? = some call →
      (call.awaiting client s.books).ask? = some (.loadTasks statuses) →
      (Ask.loadTasks statuses).dialogue.Yields answer
  | _ => True

/-- The sandbox at `key` has the running pod with which the creation at position `i` was answered,
and the pod has the statuses. -/
structure Shown (s : Interleaving) (i key : Nat) (statuses : List ContainerStatus) : Prop where
  running : (s.books.sandbox key).pod.isRunning = true
  told : (i, .answered (.pod (.ok (s.books.sandbox key).pod))) ∈ s.told
  statuses : (s.books.sandbox key).pod.status.containerStatuses = statuses

/-- What is known of the sandbox of a creation that waits for its tasks, or has got them. -/
structure Tended (s : Interleaving) (i : Nat) (call : CreateCall) : Prop where
  loading : ∀ key statuses, call.stage = .loading key statuses → s.Shown i key statuses
  created : ∀ key, call.stage = .finished (.ok key) → ∃ statuses, s.Shown i key statuses ∧
    ∀ role, (s.books.sandbox key).tasks.contains role = true ↔ Identified statuses role

/-- Each creation has a sandbox of its own and has tended it. -/
structure Attaches (s : Interleaving) : Prop extends s.Owned where
  tended : ∀ (i : Nat) (call : CreateCall), s.calls[i]? = some (.create call) → s.Tended i call

theorem Shown.keep {statuses : List ContainerStatus} (h : s.Shown i key statuses)
    (same : t.books.sandbox key = s.books.sandbox key) (told : ∀ e ∈ s.told, e ∈ t.told) :
    t.Shown i key statuses := by
  refine ⟨?_, ?_, ?_⟩
  · rw [same]
    exact h.running
  · rw [same]
    exact told _ h.told
  · rw [same]
    exact h.statuses

theorem Tended.keep (h : s.Tended i call)
    (same : ∀ key, call.sandbox? = some key → t.books.sandbox key = s.books.sandbox key)
    (told : ∀ e ∈ s.told, e ∈ t.told) : t.Tended i call := by
  obtain ⟨spec, deadline, stage⟩ := call
  constructor
  · rintro key statuses rfl
    exact (h.loading key statuses rfl).keep (same key rfl) told
  · rintro key rfl
    obtain ⟨statuses, shown, attached⟩ := h.created key rfl
    refine ⟨statuses, shown.keep (same key rfl) told, ?_⟩
    rw [same key rfl]
    exact attached

/-- A creation that neither waits for tasks nor has succeeded need not have tended anything. -/
theorem tended_of_passes (loads : ∀ k statuses, call.stage ≠ .loading k statuses)
    (succeeds : ∀ k, call.stage ≠ .finished (.ok k)) : s.Tended i call :=
  ⟨fun key statuses e => (loads key statuses e).elim, fun key e => (succeeds key e).elim⟩

theorem Attaches.placed {r : Books × Call} (h : s.Attaches) (placed : Placed client s t n r)
    (told : ∀ e ∈ s.told, e ∈ t.told) (keeps : s.Keeps n r)
    (mine : ∀ call, r.2 = .create call → t.Tended n call) : t.Attaches := by
  refine ⟨h.toOwned.placed placed keeps, ?_⟩
  intro i call found
  by_cases hi : i = n
  · subst hi
    exact mine call (Option.some.inj (placed.here.symm.trans found))
  · have before := (placed.elsewhere i hi).symm.trans found
    refine (h.tended i call before).keep ?_ told
    intro key made
    obtain ⟨-, lt, apart⟩ := h.toOwned.elsewhere placed hi found made
    rw [placed.books]
    exact keeps.others key lt apart

/-- Up to its registration a creation has nothing to tend. -/
theorem tended_claiming {b : Books} {claim : PortClaim} {r : Books × CreateCall}
    (moved : CreateCall.Claiming client b call claim r) : s.Tended n r.2 := by
  cases moved with
  | keeps holds =>
      apply tended_of_passes
      · rintro k statuses rfl
        cases holds
      · rintro k rfl
        cases holds
  | abandons e =>
      exact tended_of_passes (by simp [CreateCall.abandon, CreateCall.finish])
        (by simp [CreateCall.abandon, CreateCall.finish])
  | registers image env rootfsSize free => exact tended_of_passes (by simp) (by simp)

/-- A step of a creation that has its sandbox. -/
theorem tended_attending {now : Instant} {event : Event} {r : Books × CreateCall}
    (h : s.Attaches) (found : s.calls[n]? = some (.create call)) (held : call.key? = some key)
    (readied : CreateCall.Readying s.books call key event r)
    (books : t.books = r.1) (told : t.told = s.told ++ [(n, event)])
    (loads : s.LoadsFromRuntime client (.event n now event)) : t.Tended n r.2 := by
  have known := h.known n call key found (CreateCall.sandbox?_of_key? held)
  cases readied with
  | passes loading succeeds => exact tended_of_passes loading succeeds
  | loads pod told' running =>
      refine ⟨?_, fun k e => nomatch e⟩
      rintro k statuses ⟨⟩
      have now_kept : t.books.sandbox key = { s.books.sandbox key with pod } := by
        rw [books]
        exact Books.sandbox_modify_self known _
      refine ⟨?_, ?_, ?_⟩
      · rw [now_kept]
        exact running
      · rw [now_kept, told, told']
        simp
      · rw [now_kept]
  | succeeds statuses tasks waits answered =>
      refine ⟨fun k statuses e => (nomatch e), ?_⟩
      rintro k ⟨⟩
      have now_kept : t.books.sandbox key = { s.books.sandbox key with tasks } := by
        rw [books]
        exact Books.sandbox_modify_self known _
      obtain ⟨running, seen, same⟩ := (h.tended n call found).loading key statuses waits
      refine ⟨statuses, ⟨?_, ?_, ?_⟩, ?_⟩
      · rw [now_kept]
        exact running
      · rw [now_kept, told]
        exact List.mem_append_left _ seen
      · rw [now_kept]
        exact same
      · intro role
        rw [now_kept]
        subst answered
        have asks : ((Call.create call).awaiting client s.books).ask? =
            some (.loadTasks statuses) := by
          simp only [Call.awaiting, CreateCall.awaiting, waits]
          rfl
        exact Ask.loadTasks_yields (loads _ statuses found asks) role

theorem Attaches.step (h : s.Attaches) (admitted : s.Admits client m)
    (loads : s.LoadsFromRuntime client m) : (s.step client m).Attaches := by
  have told : ∀ e ∈ s.told, e ∈ (s.step client m).told := by
    intro e he
    rw [told_step admitted]
    exact List.mem_append_left _ he
  cases stepped admitted with
  | starts hm moved placed =>
      refine h.placed placed told (keeps_starting moved) ?_
      rintro call ⟨⟩
      cases moved with
      | refused e => exact tended_of_passes (fun _ _ e => nomatch e) (fun _ e => nomatch e)
      | claims free made moved => exact tended_claiming moved
  | looks hm placed => exact h.placed placed told (keeps_looking _) fun _ e => nomatch e
  | claiming hm found holds moved placed =>
      refine h.placed placed told (keeps_claiming moved rfl) ?_
      rintro call ⟨⟩
      exact tended_claiming moved
  | @attending i now event call key r hm found holds moved placed =>
      subst hm
      obtain ⟨c, here, admits⟩ := id admitted
      cases found.symm.trans here
      have readied := CreateCall.resume_readying holds admits
      rw [placed.resumed found] at readied
      refine h.placed placed told (h.toOwned.keeps_attending found holds moved) ?_
      rintro call' ⟨⟩
      exact tended_attending h found holds readied placed.books (told_step admitted) loads
  | deleting hm found holds moved result placed =>
      exact h.placed placed told (keeps_deleting moved) fun _ e => nomatch e

/-- A pod of that name with one role, as read while it runs. -/
def runningPod (name : String) (containerStatuses : List ContainerStatus) : Pod where
  metadata := { name }
  spec := { containers := [{ name := Role.app }] }
  status := { phase := some .running, containerStatuses }

/-- A creation whose pod is read running with the statuses, and that is then given the tasks. -/
def readied (containerStatuses : List ContainerStatus) (tasks : Tasks) : List Move := [
  .create (.plain "web") 10, .event 0 0 (.answered (.pod (.ok {}))),
  .event 0 0 (.answered (.pod (.ok (runningPod "web" containerStatuses)))),
  .event 0 0 (.answered (.tasks (.ok tasks)))]

end Interleaving
end SandboxPods
