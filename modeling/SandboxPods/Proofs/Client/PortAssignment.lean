import SandboxPods.Proofs.Client.EqualRace
import SandboxPods.Proofs.Client.Readiness
import SandboxPods.Proofs.PortChoice

/-!
# The ports of a new sandbox

A creation that runs alone settles its ports before it waits for anything. What it
refuses for its ports it refuses at once, and no answer brings such a refusal later.
From the registration on, the one pod that it sends to the cluster declares the ports
that the pool served the requests with, whichever container carries them, and what
the sandbox shows of its ports is the same, as long as the cluster shows pods with
the ports that were asked for. All of them that belong to the pool stay held.
-/
namespace SandboxPods

/-- The failure is about the ports of a description. -/
def LifecycleError.refusesPorts : LifecycleError → Bool
  | .invalidSpec (.portInUse _) | .resourceExhausted .. => true
  | _ => false

/-- Every pod that the collaborators show declares these ports. -/
def Partner.Shows (partner : Partner) (declared : List ContainerPort) : Prop :=
  ∀ k ask pod, partner.answer k ask = .pod (.ok pod) → pod.ports = declared

namespace CreateCall
open Solo PortClaim

variable {client : Client} {partner : Partner} {books : Books} {call : CreateCall}
variable {spec : SandboxSpec} {entry deadline now : Instant} {key : Nat} {s t : Solo}
variable {held : PortPool} {claim : PortClaim} {event : Event} {log : List (Instant × Ask)}

/-! ## Refusals -/

/-- The creation has not been refused for its ports. -/
def Unrefused (call : CreateCall) : Prop :=
  ∀ e, call.stage = .finished (.error e) → e.refusesPorts = false

theorem unrefused_finish {e : LifecycleError} (other : e.refusesPorts = false) :
    (call.finish (.error e)).Unrefused := by
  rintro e ⟨⟩
  exact other

theorem unrefused_register (image : String) (env : List String) (rootfsSize : UInt64) :
    (register client books call claim image env rootfsSize).2.Unrefused := by
  cases taken : books.registry.contains call.spec.handle with
  | false =>
      rw [register_free taken]
      exact fun e ended => nomatch ended
  | true =>
      rw [register_taken taken]
      exact unrefused_finish rfl

theorem unrefused_resolveImage :
    (resolveImage client books call claim).2.Unrefused := by
  unfold resolveImage
  dsimp only
  split
  · exact unrefused_finish rfl
  · exact unrefused_register _ _ _
  · exact fun e ended => nomatch ended

theorem unrefused_start (made : make books.ports spec.ports = .ok (held, claim)) :
    (start client books spec deadline).2.Unrefused := by
  unfold start
  dsimp only
  split
  · exact unrefused_finish rfl
  · split
    · exact unrefused_finish rfl
    · rw [made]
      exact unrefused_resolveImage

/-- No answer makes a creation refuse its ports afterwards. -/
theorem Unrefused.resume (h : call.Unrefused) :
    (call.resume client now books event).2.Unrefused := by
  unfold CreateCall.resume
  split
  · unfold pulled
    split
    · intro e ended
      cases ended
    · exact unrefused_register _ _ _
  · exact unrefused_finish rfl
  · exact unrefused_finish rfl
  · intro e ended
    cases ended
  · exact unrefused_finish rfl
  · unfold sawPod
    split
    · intro e ended
      cases ended
    · intro e ended
      cases ended
  · split
    · intro e ended
      cases ended
    · exact unrefused_finish rfl
  · intro e ended
    cases ended
  · intro e ended
    cases ended
  · intro e ended
    cases ended
  · exact unrefused_finish rfl
  · intro e ended
    cases ended
  · exact unrefused_finish rfl
  · exact h

/-- After a claim was made, ports are no reason for a refusal any more. -/
theorem unrefused_of_runs (made : make books.ports spec.ports = .ok (held, claim))
    (runs : Runs client partner (begun client books spec entry deadline) t) :
    ∃ call, t.call = .create call ∧ call.Unrefused := by
  apply runs.invariant (P := fun t => ∃ call, t.call = .create call ∧ call.Unrefused)
  · exact ⟨_, rfl, unrefused_start made⟩
  · rintro s ⟨call, here, unrefused⟩
    by_cases halted : s.call.awaiting client s.books = .nothing
    · rw [tick, halted]
      exact ⟨call, here, unrefused⟩
    · obtain ⟨now, event, moved, -⟩ := exists_resume partner here halted
      rw [moved]
      exact ⟨_, rfl, unrefused.resume⟩

/-- A claim that fails is the end of the creation. -/
theorem ends_unclaimed {e : LifecycleError} (valid : Handle.fault? spec.handle = none)
    (free : books.registry.contains spec.handle = false)
    (refused : make books.ports spec.ports = .error e) :
    Ends client partner (begun client books spec entry deadline)
      ⟨entry, books, ended spec deadline (.error e), []⟩ := by
  have begins : begun client books spec entry deadline =
      ⟨entry, books, ended spec deadline (.error e), []⟩ := by
    simp only [begun, Call.creating, start_unclaimed valid free refused]
    rfl
  rw [begins]
  exact ⟨.refl _, rfl⟩

/-- A creation fails for its ports just as its claim does. -/
theorem ends_refused_iff {e : LifecycleError} (valid : Handle.fault? spec.handle = none)
    (free : books.registry.contains spec.handle = false) (about : e.refusesPorts = true) :
    (∃ t, Ends client partner (begun client books spec entry deadline) t ∧
      t.call = ended spec deadline (.error e)) ↔ make books.ports spec.ports = .error e := by
  constructor
  · rintro ⟨t, ends, failed⟩
    cases made : make books.ports spec.ports with
    | ok result =>
        obtain ⟨call, here, unrefused⟩ := unrefused_of_runs made ends.runs
        cases here.symm.trans failed
        have other := unrefused e rfl
        rw [about] at other
        cases other
    | error refusal =>
        have known := ends.unique (ends_unclaimed valid free made)
        rw [known] at failed
        cases failed
        rfl
  · exact fun refused => ⟨_, ends_unclaimed valid free refused, rfl⟩

/-! ## From the claim to the pod -/

/-- The creation has asked the cluster for the pod, or is asking for it. -/
def Sends (client : Client) (s : Solo) (pod : Pod) : Prop :=
  ∃ time, (time, Ask.cluster (.createPod pod)) ∈ s.log ++ s.asking client

theorem sends_iff {pod : Pod} (noted : t.log = s.log ++ s.asking client) :
    Sends client t pod ↔ Sends client s pod ∨
      (t.call.awaiting client t.books).ask? = some (.cluster (.createPod pod)) := by
  unfold Sends
  rw [noted]
  constructor
  · rintro ⟨time, sent⟩
    rcases List.mem_append.1 sent with before | now
    · exact .inl ⟨time, before⟩
    · exact .inr (ask?_of_mem_asking now)
  · rintro (⟨time, before⟩ | now)
    · exact ⟨time, List.mem_append_left _ before⟩
    · refine ⟨t.now, List.mem_append_right _ ?_⟩
      rw [asking, now]
      exact List.mem_singleton.2 rfl

/-- The creation has just registered the sandbox and is about to submit its pod. -/
def Submitting (s : Solo) (key : Nat) : Prop :=
  ∃ call, s.call = .create call ∧ call.stage = .submitting key

/-- A registered sandbox whose one pod declares some ports. -/
structure Serving (client : Client) (partner : Partner) (handle : String) (held : PortPool)
    (declared : List ContainerPort) (s : Solo) (key : Nat) : Prop where
  registered : s.books.registry.get? handle = some key
  known : key < s.books.sandboxes.length
  ports : s.books.ports = held
  sent : ∃ pod, pod.ports = declared ∧ ∀ other, Sends client s other ↔ other = pod
  shown : Submitting s key ∨ partner.Shows declared → (s.books.sandbox key).pod.ports = declared

/-- How far a creation has come with its claim. -/
inductive Course (client : Client) (partner : Partner) (handle : String) (held : PortPool)
    (claim : PortClaim) (s : Solo) (call : CreateCall) : Prop
  | opening : call.claim? = some claim → s.books.ports = held →
      s.books.registry.get? handle = none → Silent s.log →
      Course client partner handle held claim s call
  | serving {key : Nat} : Attends key s call →
      Serving client partner handle held claim.ports s key →
      Course client partner handle held claim s call
  | failed : s.call.isReturned = true → s.books.registry.get? handle = none →
      Course client partner handle held claim s call

theorem ports_draft (client : Client) (spec : SandboxSpec) (claim : PortClaim) (image : String)
    (env : List String) (rootfsSize : UInt64) :
    (draft client spec claim image env rootfsSize).pod.ports = claim.ports :=
  PodPlan.ports_pod _

/-- A creation with its claim keeps it, gives it back, or registers a pod with its ports. -/
theorem course_claiming {r : Books × CreateCall}
    (moved : Claiming client books call claim r) (asked : call.spec = spec)
    (ports : books.ports = held) (free : books.registry.get? spec.handle = none)
    (silent : Silent log) :
    Course client partner spec.handle held claim ⟨now, r.1, .create r.2, log⟩ r.2 := by
  have before (pod : Pod) (time : Instant) : (time, Ask.cluster (.createPod pod)) ∉ log :=
    fun sent => nomatch silent _ sent
  cases moved with
  | keeps same => exact .opening same ports free silent
  | abandons e => exact .failed rfl free
  | registers image env rootfsSize unknown =>
      refine .serving ⟨rfl, .inl rfl⟩ ⟨?_, by simp [Books.enrol], ports, ?_, ?_⟩
      · rw [Books.get?_enrol, ← asked]
        exact if_pos rfl
      · refine ⟨_, ports_draft client call.spec claim image env rootfsSize, fun other => ?_⟩
        have asking : asking client ⟨now, books.enrol
            (draft client call.spec claim image env rootfsSize) call.spec.properties,
            .create { call with stage := .submitting books.sandboxes.length }, log⟩ =
              [(now, .cluster
                (.createPod (draft client call.spec claim image env rootfsSize).pod))] := by
          simp only [asking, Call.awaiting, awaiting, Books.sandbox_enrol_self]
          rfl
        unfold Sends
        rw [asking]
        constructor
        · rintro ⟨time, sent⟩
          rcases List.mem_append.1 sent with old | new
          · exact (before other time old).elim
          · cases List.mem_singleton.1 new
            rfl
        · rintro rfl
          exact ⟨now, List.mem_append_right _ List.mem_cons_self⟩
      · intro _
        rw [Books.sandbox_enrol_self]
        exact ports_draft client call.spec claim image env rootfsSize

/-- Attending to the sandbox changes neither its ports nor what was sent. -/
theorem Serving.attending {r : Books × CreateCall} {declared : List ContainerPort}
    {handle : String} (h : Serving client partner handle held declared s key)
    (moved : Attending s.books call key event r) (tells : partner.Tells event) :
    Serving client partner handle held declared
      ⟨now, r.1, .create r.2, s.log ++ s.asking client⟩ key := by
  refine ⟨?_, ?_, moved.ports_eq.trans h.ports, ?_, ?_⟩
  · rw [← h.registered]
    exact congrArg (Table.get? · handle) moved.registry_eq
  · exact moved.length_eq.symm ▸ h.known
  · obtain ⟨pod, declares, only⟩ := h.sent
    refine ⟨pod, declares, fun other => ?_⟩
    rw [sends_iff rfl, only other]
    exact or_iff_left (moved.no_submission client r.1 other)
  · rintro (⟨call, ⟨⟩, submits⟩ | shows)
    · exact (moved.no_submission client r.1 _ (ask?_submitting submits)).elim
    rcases moved.pod_eq h.known with same | read
    · exact (congrArg Pod.ports same).trans (h.shown (.inr shows))
    · obtain ⟨k, ask, answer⟩ := tells _ read
      exact shows k ask _ answer.symm

/-- A creation that has made its claim. -/
structure Pursues (client : Client) (partner : Partner) (spec : SandboxSpec) (held : PortPool)
    (claim : PortClaim) (s : Solo) (call : CreateCall) : Prop where
  here : s.call = .create call
  asked : call.spec = spec
  course : Course client partner spec.handle held claim s call

theorem Pursues.tick (h : Pursues client partner spec held claim s call) :
    ∃ next, Pursues client partner spec held claim (tick client partner s) next := by
  obtain ⟨here, asked, course⟩ := h
  by_cases halted : s.call.awaiting client s.books = .nothing
  · refine ⟨call, ?_⟩
    rw [Solo.tick, halted]
    exact ⟨here, asked, course⟩
  · obtain ⟨now, event, moved, admitted, tells⟩ := exists_resume partner here halted
    cases course with
    | opening holds ports free silent =>
        have next : Claiming client s.books call claim (call.resume client now s.books event) :=
          resume_claiming holds
        rw [moved]
        refine ⟨_, rfl, next.spec_eq.trans asked, course_claiming next asked ports free ?_⟩
        intro q noted
        rcases ask?_of_mem_log here noted with earlier | asks
        · exact silent q earlier
        · exact silent_of_claim holds asks
    | serving attends serving =>
        rcases attends.attends with holds | returned
        · have attended := resume_attending holds admitted
          rw [moved]
          exact ⟨_, rfl, attended.spec_eq.trans asked,
            .serving ⟨rfl, attended.key_or_returned⟩ (serving.attending attended tells)⟩
        · rw [tick_returned returned]
          exact ⟨call, here, asked, .serving attends serving⟩
    | failed returned free =>
        rw [tick_returned returned]
        exact ⟨call, here, asked, .failed returned free⟩

theorem pursues_of_runs (free : books.registry.contains spec.handle = false)
    (made : make books.ports spec.ports = .ok (held, claim))
    (runs : Runs client partner (begun client books spec entry deadline) t) :
    ∃ call, Pursues client partner spec held claim t call := by
  have absent : books.registry.get? spec.handle = none := Table.get?_eq_none free
  apply runs.invariant (P := fun t => ∃ call, Pursues client partner spec held claim t call)
  · have started := start_starting client books spec deadline
    refine ⟨_, rfl, started.spec_eq, ?_⟩
    change Course client partner spec.handle held claim
      ⟨entry, (start client books spec deadline).1,
        .create (start client books spec deadline).2, []⟩
      (start client books spec deadline).2
    generalize start client books spec deadline = r at started
    cases started with
    | refused e => exact .failed rfl absent
    | claims free again moved =>
        cases made.symm.trans again
        exact course_claiming moved rfl rfl absent fun _ none => nomatch none
  · rintro s ⟨call, pursues⟩
    exact pursues.tick

/-- A creation that is registered has made its claim. -/
theorem serving_of_runs (free : books.registry.contains spec.handle = false)
    (runs : Runs client partner (begun client books spec entry deadline) t)
    (registered : t.books.registry.get? spec.handle = some key) :
    ∃ held claim, make books.ports spec.ports = .ok (held, claim) ∧
      Serving client partner spec.handle held claim.ports t key := by
  cases made : make books.ports spec.ports with
  | ok result =>
      obtain ⟨held, claim⟩ := result
      obtain ⟨call, -, -, course⟩ := pursues_of_runs free made runs
      refine ⟨held, claim, rfl, ?_⟩
      cases course with
      | opening holds ports absent silent =>
          rw [registered] at absent
          cases absent
      | serving attends serving =>
          cases registered.symm.trans serving.registered
          exact serving
      | failed returned absent =>
          rw [registered] at absent
          cases absent
  | error e =>
      have gone : t.call.isReturned = true ∧ t.books.registry.get? spec.handle = none := by
        apply runs.invariant (P := fun t => t.call.isReturned = true ∧
          t.books.registry.get? spec.handle = none)
        · have started := start_starting client books spec deadline
          change (Call.create (start client books spec deadline).2).isReturned = true ∧
            (start client books spec deadline).1.registry.get? spec.handle = none
          generalize start client books spec deadline = r at started
          cases started with
          | refused e => exact ⟨rfl, Table.get?_eq_none free⟩
          | claims _ again => cases made.symm.trans again
        · rintro s ⟨returned, absent⟩
          rw [tick_returned returned]
          exact ⟨returned, absent⟩
      rw [registered] at gone
      cases gone.2

/-! ## All courses -/

/-- The pod that a creation sends, and what its sandbox shows, declare the assigned ports. -/
structure Served (client : Client) (partner : Partner) (books : Books) (spec : SandboxSpec)
    (t : Solo) (key : Nat) (mapped : List PortMapping) : Prop where
  assigned : Assigned books.ports spec.ports mapped
  /-- One pod is sent; its ports are read over all of its containers. -/
  sent : ∃ pod, pod.ports = mapped.map published ∧ ∀ other, Sends client t other ↔ other = pod
  /-- The sandbox shows these ports from its registration on, unless the cluster shows others. -/
  shown : Submitting t key ∨ partner.Shows (mapped.map published) →
    (t.books.sandbox key).info.mappedPorts = mapped
  held : ∀ m ∈ mapped, books.ports.contains m.hostPort = true →
    m.hostPort ∈ t.books.ports.held

/-- What becomes of the ports of a description, by what they find in the pool. -/
structure PortsSettled (client : Client) (partner : Partner) (books : Books) (spec : SandboxSpec)
    (entry deadline : Instant) : Prop where
  inUse : (∃ p t, Ends client partner (begun client books spec entry deadline) t ∧
      t.call = ended spec deadline (.error (.invalidSpec (.portInUse p)))) ↔
    ∃ p, Clashes books.ports spec.ports p
  named : ∀ p t, Ends client partner (begun client books spec entry deadline) t →
    t.call = ended spec deadline (.error (.invalidSpec (.portInUse p))) →
    Clashes books.ports spec.ports p ∧
      FirstHeld books.ports (explicitPorts books.ports spec.ports) p
  exhausted : (¬ ∃ p, Clashes books.ports spec.ports p) →
    ((∃ requested available t, Ends client partner (begun client books spec entry deadline) t ∧
        t.call = ended spec deadline (.error (.resourceExhausted requested available))) ↔
      (spare books.ports spec.ports).length < missing spec.ports)
  figures : ∀ requested available t,
    Ends client partner (begun client books spec entry deadline) t →
    t.call = ended spec deadline (.error (.resourceExhausted requested available)) →
    requested = missing spec.ports ∧ available = (spare books.ports spec.ports).length
  served : ∀ t key, Runs client partner (begun client books spec entry deadline) t →
    t.books.registry.get? spec.handle = some key →
    ∃ mapped, Served client partner books spec t key mapped

theorem mappedPorts_of_ports {x : Sandbox} {mapped : List PortMapping}
    (declares : x.pod.ports = mapped.map published) : x.info.mappedPorts = mapped := by
  change x.pod.ports.map Sandbox.mapping = mapped
  rw [declares, List.map_map]
  exact List.map_id'' (fun m => rfl) mapped

theorem served_of_runs (nonzero : books.ports.contains 0 = false)
    (free : books.registry.contains spec.handle = false)
    (runs : Runs client partner (begun client books spec entry deadline) t)
    (registered : t.books.registry.get? spec.handle = some key) :
    ∃ mapped, Served client partner books spec t key mapped := by
  obtain ⟨held, claim, made, serving⟩ := serving_of_runs free runs registered
  obtain ⟨mapped, assigned, declared, holds⟩ := make_served nonzero made
  obtain ⟨-, -, ports, sent, shown⟩ := serving
  rw [declared] at sent shown
  refine ⟨mapped, assigned, sent, fun shows => mappedPorts_of_ports (shown shows), ?_⟩
  rw [ports]
  exact holds

/-- A creation with a valid handle that is free is refused for its ports exactly when they clash or
do not suffice, and is served with the lowest ones otherwise. -/
theorem ports_settled (valid : Handle.fault? spec.handle = none)
    (free : books.registry.contains spec.handle = false)
    (nonzero : books.ports.contains 0 = false) :
    PortsSettled client partner books spec entry deadline := by
  have refuses {e : LifecycleError} (about : e.refusesPorts = true) :
      (∃ t, Ends client partner (begun client books spec entry deadline) t ∧
        t.call = ended spec deadline (.error e)) ↔ make books.ports spec.ports = .error e :=
    ends_refused_iff valid free about
  refine ⟨⟨?_, ?_⟩, ?_, fun clear => ⟨?_, ?_⟩, ?_, ?_⟩
  · rintro ⟨p, failed⟩
    exact ⟨p, (firstHeld_of_make ((refuses rfl).1 failed)).clashes⟩
  · intro clash
    obtain ⟨p, -, refused⟩ := make_clash clash
    exact ⟨p, (refuses rfl).2 refused⟩
  · intro p t ends failed
    have first := firstHeld_of_make ((refuses rfl).1 ⟨t, ends, failed⟩)
    exact ⟨first.clashes, first⟩
  · rintro ⟨requested, available, failed⟩
    exact (short_of_make ((refuses rfl).1 failed)).1
  · exact fun short => ⟨_, _, (refuses rfl).2 (make_short clear short)⟩
  · exact fun requested available t ends failed =>
      (short_of_make ((refuses rfl).1 ⟨t, ends, failed⟩)).2
  · exact fun t key runs registered => served_of_runs nonzero free runs registered

/-- A sandbox with two open choices and two explicit ports, one of which is the pool's. -/
def mixed : SandboxSpec where
  handle := "job"
  image := .ofUri "docker:///busybox"
  ports := [⟨0, 80⟩, ⟨62001, 81⟩, ⟨0, 82⟩, ⟨8080, 83⟩]
  disk := 10

theorem mixed_ports_settled : ∃ (client : Client) (books : Books) (t : Solo),
    Connected [.publishing "web" 62000] client books ∧
      Handle.fault? mixed.handle = none ∧ books.registry.contains mixed.handle = false ∧
      books.ports.contains 0 = false ∧
      Runs client sluggish (begun client books mixed 0 1000000000) t ∧
      t.books.registry.get? mixed.handle = some 1 ∧
      (t.books.sandbox 1).info.mappedPorts =
        [⟨62002, 80⟩, ⟨62001, 81⟩, ⟨62003, 82⟩, ⟨8080, 83⟩] ∧
      PortsSettled client sluggish books mixed 0 1000000000 := by
  refine ⟨_, _, _, ⟨{}, "node", {}, [], rfl⟩, by decide, by decide, by decide, .one rfl, by decide,
    by decide, ?_⟩
  exact ports_settled (by decide) (by decide) (by decide)

end CreateCall
end SandboxPods
