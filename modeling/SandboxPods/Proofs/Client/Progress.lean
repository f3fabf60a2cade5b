import SandboxPods.Client.Call
import SandboxPods.Proofs.Client.Books

/-!
# What one step of a call can do

A call moves on when the wait it is in comes to its end: an answer of the right
kind, a pause that is over, or the deadline once it has passed. For a creation and
for a destruction this module lists everything such a step can do to the books and
to the call. The reasons for a failure are left open, since what a failed call
leaves behind does not depend on them. Later modules use these lists and do not
open the calls again.
-/
namespace SandboxPods

/-! ## What can end a wait -/

/-- The answer is of the kind that the question asks for. -/
def Ask.admits : Ask → Answer → Bool
  | .cluster (.getNode _), .node _ => true
  | .cluster (.listPods ..), .pods _ => true
  | .cluster (.getPod ..), .pod _ => true
  | .cluster (.createPod _), .pod _ => true
  | .cluster (.deletePod ..), .deleted _ => true
  | .pull .., .pulled _ => true
  | .deleteImage _, .imageDeleted _ => true
  | .loadTasks _, .tasks _ => true
  | _, _ => false

/-- What can end the wait at a given time. An answer may come at any time; at a deadline a
pause that is over by then comes first. -/
def Awaiting.admits (now : Instant) : Awaiting → Event → Bool
  | .answer ask _, .answered reply => ask.admits reply
  | .answer _ (some limit), .expired => limit ≤ now
  | .pause wake _, .woke => wake ≤ now
  | .pause wake limit, .expired => limit ≤ now && now < wake
  | _, _ => false

def Awaiting.ask? : Awaiting → Option Ask
  | .answer ask _ => some ask
  | _ => none

/-- The deletion was accepted, or the cluster knew of no such pod. -/
def Event.grantsDeletion : Event → Bool
  | .answered (.deleted (.ok ())) => true
  | .answered (.deleted (.error e)) => e.isNotFound
  | _ => false

/-- The question asks for a change of the cluster's pods. -/
def Ask.changesPods : Ask → Bool
  | .cluster (.createPod _) => true
  | .cluster (.deletePod ..) => true
  | _ => false

/-! ## Creations -/

namespace CreateCall
variable {client : Client} {now : Instant} {books : Books} {call : CreateCall}
variable {claim : PortClaim} {key : Nat} {event : Event}

/-- The claim of a creation that has neither registered its sandbox nor returned. -/
def claim? (call : CreateCall) : Option PortClaim :=
  match call.stage with
  | .pulling claim _ | .discarding claim _ => some claim
  | _ => none

/-- The position of the sandbox that a creation has registered and not yet returned. -/
def key? (call : CreateCall) : Option Nat :=
  match call.stage with
  | .submitting key | .reading key | .pausing key _ | .withdrawing key | .loading key _ => some key
  | _ => none

/-- What becomes of a creation that holds a claim. -/
inductive Claiming (client : Client) (books : Books) (call : CreateCall) (claim : PortClaim) :
    Books × CreateCall → Prop
  | keeps {stage : CreateStage} : ({ call with stage } : CreateCall).claim? = some claim →
      Claiming client books call claim (books, { call with stage })
  | abandons (e : LifecycleError) : Claiming client books call claim (call.abandon books claim e)
  | registers (image : String) (env : List String) (rootfsSize : UInt64) :
      books.registry.contains call.spec.handle = false →
      Claiming client books call claim
        (books.enrol (draft client call.spec claim image env rootfsSize) call.spec.properties,
          { call with stage := .submitting books.sandboxes.length })

/-- What becomes of a creation whose sandbox is registered. It never submits a second time. -/
inductive Attending (books : Books) (call : CreateCall) (key : Nat) (event : Event) :
    Books × CreateCall → Prop
  | waits {stage : CreateStage} : ({ call with stage } : CreateCall).key? = some key →
      stage ≠ .submitting key → Attending books call key event (books, { call with stage })
  | sees {stage : CreateStage} {pod : Pod} : event = .answered (.pod (.ok pod)) →
      ({ call with stage } : CreateCall).key? = some key → stage ≠ .submitting key →
      Attending books call key event
        (books.modify key (fun s => { s with pod }), { call with stage })
  | completes (tasks : Tasks) : Attending books call key event (loaded books call key tasks)
  | fails (e : LifecycleError) : Attending books call key event (books, call.finish (.error e))

/-- What becomes of a creation up to its first wait. -/
inductive Starting (client : Client) (books : Books) (spec : SandboxSpec) (deadline : Instant) :
    Books × CreateCall → Prop
  | refused (e : LifecycleError) : Starting client books spec deadline
      (books, { spec, deadline, stage := .finished (.error e) })
  | claims {ports : PortPool} {claim : PortClaim} {result : Books × CreateCall} :
      books.registry.contains spec.handle = false →
      PortClaim.make books.ports spec.ports = .ok (ports, claim) →
      Claiming client { books with ports } { spec, deadline } claim result →
      Starting client books spec deadline result

theorem register_claiming (image : String) (env : List String) (rootfsSize : UInt64) :
    Claiming client books call claim (register client books call claim image env rootfsSize) := by
  cases h : books.registry.contains call.spec.handle with
  | false =>
      rw [register_free h]
      exact .registers image env rootfsSize h
  | true =>
      rw [register_taken h]
      exact .abandons _

theorem resolveImage_claiming :
    Claiming client books call claim (resolveImage client books call claim) := by
  unfold resolveImage
  dsimp only
  split
  · exact .abandons _
  · exact register_claiming _ _ _
  · exact .keeps rfl

theorem start_starting (client : Client) (books : Books) (spec : SandboxSpec)
    (deadline : Instant) :
    Starting client books spec deadline (start client books spec deadline) := by
  unfold start
  dsimp only
  split
  · exact .refused _
  · split
    · exact .refused _
    · rename_i free
      split
      · exact .refused _
      · rename_i ports claim made
        exact .claims (Bool.eq_false_iff.2 free) made resolveImage_claiming

theorem pulled_claiming (image : PulledImage) :
    Claiming client books call claim (pulled client books call claim image) := by
  unfold pulled
  split
  · exact .keeps rfl
  · exact register_claiming _ _ _

/-- Whatever reaches a creation that holds a claim. -/
theorem resume_claiming (h : call.claim? = some claim) :
    Claiming client books call claim (call.resume client now books event) := by
  obtain ⟨spec, deadline, stage⟩ := call
  have ignored : Claiming client books ⟨spec, deadline, stage⟩ claim
      (books, ⟨spec, deadline, stage⟩) := .keeps h
  cases stage with
  | pulling held reference =>
      cases h
      cases event with
      | answered answer =>
          cases answer with
          | pulled result =>
              cases result with
              | ok image => exact pulled_claiming image
              | error e => exact .abandons _
          | _ => exact ignored
      | _ => exact ignored
  | discarding held image =>
      cases h
      cases event with
      | answered answer =>
          cases answer with
          | imageDeleted removal => exact .abandons _
          | _ => exact ignored
      | _ => exact ignored
  | _ => cases h

/-- Whatever ends the wait of a creation whose sandbox is registered. -/
theorem resume_attending (h : call.key? = some key)
    (admitted : (call.awaiting client books).admits now event = true) :
    Attending books call key event (call.resume client now books event) := by
  obtain ⟨spec, deadline, stage⟩ := call
  cases stage with
  | submitting k =>
      cases h
      cases event with
      | answered answer =>
          cases answer with
          | pod result =>
              cases result with
              | ok pod => exact .waits rfl (by simp)
              | error e => exact .fails _
          | _ => cases admitted
      | _ => cases admitted
  | reading k =>
      cases h
      cases event with
      | answered answer =>
          cases answer with
          | pod result =>
              cases result with
              | ok pod =>
                  by_cases running : pod.isRunning = true
                  · simp only [resume, sawPod, running, if_true]
                    exact .sees rfl rfl (by simp)
                  · simp only [resume, sawPod, running]
                    exact .sees rfl rfl (by simp)
              | error e =>
                  by_cases absent : e.isNotFound = true
                  · simp only [resume, absent, if_true]
                    exact .waits rfl (by simp)
                  · simp only [resume, absent]
                    exact .fails _
          | _ => cases admitted
      | expired => exact .waits rfl (by simp)
      | woke => cases admitted
  | pausing k wake =>
      cases h
      cases event with
      | answered answer => cases admitted
      | woke => exact .waits rfl (by simp)
      | expired => exact .waits rfl (by simp)
  | withdrawing k =>
      cases h
      cases event with
      | answered answer =>
          cases answer with
          | deleted result => exact .fails _
          | _ => cases admitted
      | _ => cases admitted
  | loading k statuses =>
      cases h
      cases event with
      | answered answer =>
          cases answer with
          | tasks result =>
              cases result with
              | ok tasks => exact .completes tasks
              | error e => exact .fails _
          | _ => cases admitted
      | _ => cases admitted
  | _ => cases h

/-- A creation that holds a claim can always be made to give it back. -/
theorem exists_abandon (client : Client) (now : Instant) (books : Books)
    (h : call.claim? = some claim) : ∃ event e,
      (call.awaiting client books).admits now event = true ∧
      call.resume client now books event = call.abandon books claim e ∧
      ∀ pod, event ≠ .answered (.pod pod) := by
  obtain ⟨spec, deadline, stage⟩ := call
  cases stage with
  | pulling held reference =>
      cases h
      exact ⟨.answered (.pulled (.error (.pullFailed ""))), _, rfl, rfl, fun _ e => nomatch e⟩
  | discarding held image =>
      cases h
      exact ⟨.answered (.imageDeleted (.ok ())), _, rfl, rfl, fun _ e => nomatch e⟩
  | _ => cases h

/-- A creation that holds a claim has to do with images only. -/
theorem silent_of_claim {ask : Ask}
    (holds : call.claim? = some claim) (asks : (call.awaiting client books).ask? = some ask) :
    ask.changesPods = false := by
  obtain ⟨spec, deadline, stage⟩ := call
  cases stage with
  | pulling held reference =>
      cases asks
      rfl
  | discarding held image =>
      cases asks
      rfl
  | _ => cases holds

theorem ask?_submitting (now : call.stage = .submitting key) :
    (call.awaiting client books).ask? = some (.cluster (.createPod (books.sandbox key).pod)) := by
  rw [awaiting, now]
  rfl

/-! What every such step has in common. -/

section
variable {r : Books × CreateCall} {k : Nat} {spec : SandboxSpec} {deadline : Instant}

theorem claim?_of_key? (h : call.key? = some key) : call.claim? = none := by
  obtain ⟨spec, deadline, stage⟩ := call
  cases stage with
  | pulling claim reference => cases h
  | discarding claim image => cases h
  | _ => rfl

theorem key?_of_claim? (h : call.claim? = some claim) : call.key? = none := by
  cases hk : call.key? with
  | none => rfl
  | some key =>
      rw [claim?_of_key? hk] at h
      cases h

theorem Claiming.spec_eq (h : Claiming client books call claim r) : r.2.spec = call.spec := by
  cases h with
  | keeps same => rfl
  | abandons e => rfl
  | registers image env rootfsSize free => rfl

/-- What holds just after a creation registered its sandbox: it is about to submit the pod. -/
structure Registered (books : Books) (handle : String) (r : Books × CreateCall) (k : Nat) :
    Prop where
  stage : r.2.stage = .submitting k
  newest : k = books.sandboxes.length
  registry : r.1.registry = books.registry.insert handle k
  known : k < r.1.sandboxes.length

theorem Claiming.registered (h : Claiming client books call claim r) (hk : r.2.key? = some k) :
    Registered books call.spec.handle r k := by
  cases h with
  | keeps same =>
      rw [key?_of_claim? same] at hk
      cases hk
  | abandons e => cases hk
  | registers image env rootfsSize free =>
      cases hk
      exact ⟨rfl, rfl, rfl, by simp [Books.enrol]⟩

theorem Starting.spec_eq (h : Starting client books spec deadline r) : r.2.spec = spec := by
  cases h with
  | refused e => rfl
  | claims free made moved => exact moved.spec_eq

theorem Starting.registered (h : Starting client books spec deadline r) (hk : r.2.key? = some k) :
    Registered books spec.handle r k := by
  cases h with
  | refused e => cases hk
  | claims free made moved =>
      obtain ⟨stage, newest, registry, known⟩ := moved.registered hk
      exact ⟨stage, newest, registry, known⟩

theorem Attending.spec_eq (h : Attending books call key event r) : r.2.spec = call.spec := by
  cases h with
  | waits same later => rfl
  | sees told same later => rfl
  | completes tasks => rfl
  | fails e => rfl

theorem Attending.claim? (h : Attending books call key event r) : r.2.claim? = none := by
  cases h with
  | waits same later => exact claim?_of_key? same
  | sees told same later => exact claim?_of_key? same
  | completes tasks => rfl
  | fails e => rfl

theorem Attending.ports_eq (h : Attending books call key event r) : r.1.ports = books.ports := by
  cases h with
  | waits same later => rfl
  | sees told same later => rfl
  | completes tasks => rfl
  | fails e => rfl

theorem Attending.registry_eq (h : Attending books call key event r) :
    r.1.registry = books.registry := by
  cases h with
  | waits same later => rfl
  | sees told same later => rfl
  | completes tasks => rfl
  | fails e => rfl

theorem Attending.length_eq (h : Attending books call key event r) :
    r.1.sandboxes.length = books.sandboxes.length := by
  cases h with
  | waits same later => rfl
  | sees told same later => exact Books.length_modify ..
  | completes tasks => exact Books.length_modify ..
  | fails e => rfl

/-- Tending a sandbox replaces its pod and its tasks and nothing else of it. -/
theorem Attending.sandbox_eq (h : Attending books call key event r)
    (known : key < books.sandboxes.length) (pod : Pod) (tasks : Tasks) :
    { r.1.sandbox key with pod, tasks } = { books.sandbox key with pod, tasks } := by
  have modified (f : Sandbox → Sandbox)
      (rest : ∀ x : Sandbox, { f x with pod, tasks } = { x with pod, tasks }) :
      { (books.modify key f).sandbox key with pod, tasks } =
        { books.sandbox key with pod, tasks } := by
    rw [Books.sandbox_modify_self known, rest]
  cases h with
  | waits same later => rfl
  | sees told same later => exact modified _ fun _ => rfl
  | completes tasks => exact modified _ fun _ => rfl
  | fails e => rfl

/-- A pod that is kept is one that has been read. -/
theorem Attending.pod_eq (h : Attending books call key event r)
    (known : key < books.sandboxes.length) :
    (r.1.sandbox key).pod = (books.sandbox key).pod ∨
      event = .answered (.pod (.ok (r.1.sandbox key).pod)) := by
  cases h with
  | waits same later => exact .inl rfl
  | sees told same later =>
      rw [Books.sandbox_modify_self known]
      exact .inr told
  | completes tasks =>
      have kept := Books.sandbox_modify_self known fun x : Sandbox => { x with tasks }
      have same := congrArg Sandbox.pod kept
      exact .inl same
  | fails e => exact .inl rfl

/-- A pod that was submitted is not submitted again. -/
theorem Attending.no_submission (h : Attending books call key event r) (client : Client)
    (b : Books) (pod : Pod) :
    (r.2.awaiting client b).ask? ≠ some (.cluster (.createPod pod)) := by
  have later_stage {stage : CreateStage} (held : ({ call with stage } : CreateCall).key? = some key)
      (later : stage ≠ .submitting key) :
      (({ call with stage } : CreateCall).awaiting client b).ask? ≠
        some (.cluster (.createPod pod)) := by
    intro asks
    cases stage with
    | submitting k =>
        cases held
        exact later rfl
    | _ => cases asks
  cases h with
  | waits same later => exact later_stage same later
  | sees told same later => exact later_stage same later
  | completes tasks => exact fun asks => nomatch asks
  | fails e => exact fun asks => nomatch asks

theorem Attending.key_eq (h : Attending books call key event r) (registered : r.2.key? = some k) :
    k = key := by
  cases h with
  | waits same later => exact Option.some.inj (registered.symm.trans same)
  | sees told same later => exact Option.some.inj (registered.symm.trans same)
  | completes tasks => cases registered
  | fails e => cases registered

end

/-- A creation that waits for something holds a claim or has registered its sandbox. -/
theorem claim_or_key (admitted : (call.awaiting client books).admits now event = true) :
    (∃ claim, call.claim? = some claim) ∨ ∃ key, call.key? = some key := by
  obtain ⟨spec, deadline, stage⟩ := call
  cases stage with
  | new => cases admitted
  | finished result => cases admitted
  | pulling claim reference => exact .inl ⟨claim, rfl⟩
  | discarding claim image => exact .inl ⟨claim, rfl⟩
  | submitting key => exact .inr ⟨key, rfl⟩
  | reading key => exact .inr ⟨key, rfl⟩
  | pausing key wake => exact .inr ⟨key, rfl⟩
  | withdrawing key => exact .inr ⟨key, rfl⟩
  | loading key statuses => exact .inr ⟨key, rfl⟩

end CreateCall

/-! ## Destructions -/

namespace DestroyCall
variable {client : Client} {now : Instant} {books : Books} {call : DestroyCall}
variable {pod : Pod} {event : Event}

/-- The pod that a destruction which has not returned is about. -/
def pod? (call : DestroyCall) : Option Pod :=
  match call.stage with
  | .deleting pod | .reading pod | .pausing pod _ => some pod
  | .finished _ => none

/-- What becomes of a destruction. It fails only while its deletion has not been granted; after
that it ends by forgetting the sandbox. -/
inductive Deleting (books : Books) (call : DestroyCall) (pod : Pod) (event : Event) :
    Books × DestroyCall → Prop
  | waits {stage : DestroyStage} : ({ call with stage } : DestroyCall).pod? = some pod →
      stage ≠ .deleting pod → Deleting books call pod event (books, { call with stage })
  | fails (e : LifecycleError) : call.stage = .deleting pod → event.grantsDeletion = false →
      Deleting books call pod event (books, call.finish (.error e))
  | forgets (result : Except LifecycleError Unit) :
      Deleting books call pod event (call.forget books pod result)

/-- Whatever ends the wait of a destruction. -/
theorem resume_deleting (h : call.pod? = some pod)
    (admitted : call.awaiting.admits now event = true) :
    Deleting books call pod event (call.resume client now books event) := by
  obtain ⟨handle, deadline, stage⟩ := call
  cases stage with
  | deleting p =>
      cases h
      cases event with
      | answered answer =>
          cases answer with
          | deleted result =>
              cases result with
              | ok u => exact .waits rfl (by simp)
              | error e =>
                  by_cases absent : e.isNotFound = true
                  · simp only [resume, absent, if_true]
                    exact .forgets _
                  · simp only [resume, absent]
                    exact .fails _ rfl (Bool.eq_false_iff.2 absent)
          | _ => cases admitted
      | expired => exact .fails _ rfl rfl
      | woke => cases admitted
  | reading p =>
      cases h
      cases event with
      | answered answer =>
          cases answer with
          | pod result =>
              cases result with
              | ok found => exact .waits rfl (by simp)
              | error e => exact .forgets _
          | _ => cases admitted
      | expired => exact .forgets _
      | woke => cases admitted
  | pausing p wake =>
      cases h
      cases event with
      | answered answer => cases admitted
      | woke => exact .waits rfl (by simp)
      | expired => exact .forgets _
  | finished result => cases h

theorem Deleting.handle_eq {r : Books × DestroyCall} (h : Deleting books call pod event r) :
    r.2.handle = call.handle := by
  cases h with
  | waits same later => rfl
  | fails e first refused => rfl
  | forgets result => rfl

theorem start_handle (books : Books) (handle : String) (deadline : Instant) :
    (start books handle deadline).handle = handle := by
  unfold start
  split <;> rfl

/-- A destruction begins with the pod of the sandbox that is registered under its handle. -/
theorem start_pod? {handle : String} {deadline : Instant}
    (h : (start books handle deadline).pod? = some pod) :
    ∃ key, books.registry.get? handle = some key ∧ (books.sandbox key).pod = pod := by
  unfold start at h
  cases found : books.registry.get? handle with
  | none =>
      simp only [Books.lookup, Registry.get, found] at h
      cases h
  | some key =>
      simp only [Books.lookup, Registry.get, found] at h
      cases h
      exact ⟨key, rfl, rfl⟩

/-- A destruction that waits for something is about a pod. -/
theorem exists_pod (admitted : call.awaiting.admits now event = true) :
    ∃ pod, call.pod? = some pod := by
  obtain ⟨handle, deadline, stage⟩ := call
  cases stage with
  | deleting pod => exact ⟨pod, rfl⟩
  | reading pod => exact ⟨pod, rfl⟩
  | pausing pod wake => exact ⟨pod, rfl⟩
  | finished result => cases admitted

/-- A destruction submits no pod. -/
theorem no_submission (pod : Pod) :
    call.awaiting.ask? ≠ some (.cluster (.createPod pod)) := by
  obtain ⟨handle, deadline, stage⟩ := call
  intro asks
  cases stage with
  | _ => cases asks

end DestroyCall
end SandboxPods
