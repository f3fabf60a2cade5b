import SandboxPods.Proofs.Client.HandleRace
import SandboxPods.Proofs.Client.KeepingCluster
import SandboxPods.Proofs.Client.PortAccounting
import SandboxPods.Proofs.Client.Undoing

/-!
# The cluster mirrors the books

When calls are made one after another against a cluster that keeps its pods, and none
of them is lost, the cluster mirrors the books: it keeps the pods of the registered
sandboxes as these are known to the client, and no others. Only the handle of the one
call that has not returned is out of step for a while, and for each of its stages the
mirror says how.
-/
namespace SandboxPods.Interleaving
variable {client : Client} {loads : TaskLoader} {books : Books} {s t : Interleaving} {m : Move}
variable {kept after : Kept} {n key : Nat} {h : String} {call : CreateCall}

/-! ## The mirror -/

/-- The sandbox of a creation stands in the books, with the pod of its description. -/
structure Entered (client : Client) (b : Books) (call : CreateCall) (key : Nat) : Prop where
  registered : b.registry.get? call.spec.handle = some key
  handle : (b.sandbox key).handle = call.spec.handle
  metadata : (b.sandbox key).pod.metadata = {
    name := call.spec.handle
    podNamespace := client.settings.podNamespace
    labels := podLabels call.spec.properties }
  properties : b.properties.all call.spec.handle = call.ownProperties

/-- The sandbox that a creation has returned: its pod was running, and its tasks are those of the
pod's statuses. -/
structure Completed (client : Client) (loads : TaskLoader) (b : Books) (call : CreateCall)
    (key : Nat) : Prop extends Entered client b call key where
  finished : call.stage = .finished (.ok key)
  running : (b.sandbox key).pod.isRunning = true
  tasks : loads (b.sandbox key).pod.status.containerStatuses = .ok (b.sandbox key).tasks

/-- The cluster keeps a pod of the handle just when a sandbox is registered, which a creation has
returned, and then it is the pod that the client knows. -/
structure AtRest (client : Client) (loads : TaskLoader) (s : Interleaving) (kept : Kept)
    (h : String) : Prop where
  kept : kept.get? h = (s.books.registry.get? h).map fun key => { pod := (s.books.sandbox key).pod }
  created : ∀ key, s.books.registry.get? h = some key → ∃ call, .create call ∈ s.calls ∧
    call.spec.handle = h ∧ Completed client loads s.books call key

/-- What the cluster keeps for a creation: nothing up to its registration, and once it was
submitted the pod of its sandbox, up to a status that the creation has not read yet. -/
def Attended (client : Client) (b : Books) (kept : Kept) (call : CreateCall) : Prop :=
  match call.stage with
  | .pulling .. | .discarding .. =>
    b.registry.get? call.spec.handle = none ∧ kept.get? call.spec.handle = none
  | .submitting key => Entered client b call key
  | .reading key | .pausing key _ => Entered client b call key ∧
      ∃ k, kept.get? call.spec.handle = some k ∧ k.leaving = false ∧
        k.pod.metadata = (b.sandbox key).pod.metadata ∧ k.pod.spec = (b.sandbox key).pod.spec
  | .loading key statuses => Entered client b call key ∧
      (b.sandbox key).pod.isRunning = true ∧
      (b.sandbox key).pod.status.containerStatuses = statuses ∧
      kept.get? call.spec.handle = some { pod := (b.sandbox key).pod }
  | .new | .withdrawing _ | .finished _ => True

/-- The pod is the one that the client knows of the handle's sandbox, and it runs. -/
structure Targets (client : Client) (b : Books) (handle : String) (pod : Pod) : Prop where
  registered : ∃ key, b.registry.get? handle = some key ∧ (b.sandbox key).pod = pod
  running : pod.isRunning = true
  name : pod.name = handle
  podNamespace : pod.podNamespace = client.settings.podNamespace

/-- What the cluster keeps for a destruction: the pod of the sandbox, which is leaving and may be
gone once the deletion was accepted. -/
def Dismissed (client : Client) (loads : TaskLoader) (s : Interleaving) (kept : Kept)
    (call : DestroyCall) : Prop :=
  match call.stage with
  | .deleting pod => Targets client s.books call.handle pod ∧
      s.AtRest client loads kept call.handle
  | .reading pod | .pausing pod _ => Targets client s.books call.handle pod ∧
      ∀ k, kept.get? call.handle = some k → k = { pod, leaving := true }
  | .finished _ => True

/-- How the cluster stands to a call that has not returned. -/
def Underway (client : Client) (loads : TaskLoader) (s : Interleaving) (kept : Kept) :
    Call → Prop
  | .create call => Attended client s.books kept call
  | .destroy call => s.Dismissed client loads kept call

/-- The cluster mirrors the books, up to the call that has not returned. -/
structure Mirrored (client : Client) (loads : TaskLoader) (s : Interleaving) (kept : Kept) :
    Prop where
  tidy : s.Tidy
  accounts : Accounts s.books s.claims []
  atRest : ∀ h, (∀ call ∈ s.calls, call.handle = h → call.isReturned = true) →
    s.AtRest client loads kept h
  underway : ∀ call ∈ s.calls, call.isReturned = false → s.Underway client loads kept call

/-! ## One move -/

theorem frame_forget (b : Books) {handle : String} (pod : Pod) (away : handle ≠ h) :
    Frame h none b (b.forget handle pod) := by
  refine ⟨Table.get?_erase_ne _ away.symm, ?_, Nat.le_refl _, fun _ _ _ => rfl⟩
  exact congrArg (·.getD {}) (Table.get?_erase_ne b.properties.spaces away.symm)

/-- The calls that have returned are there after another call has moved. -/
theorem Turn.returned_stays {r : Books × Call} {call : Call} (turn : s.Turn n h)
    (placed : Placed client s t n r) (member : call ∈ s.calls) (returned : call.isReturned = true) :
    call ∈ t.calls := by
  obtain ⟨j, found⟩ := List.mem_iff_getElem?.1 member
  have other : j ≠ n := by
    rintro rfl
    rw [(turn.mine call found).2] at returned
    cases returned
  exact List.mem_of_getElem? ((placed.elsewhere j other).trans found)

/-- A handle stays settled as long as nothing happens to it. -/
theorem AtRest.frame {touched : Option Nat} (settled : s.AtRest client loads kept h)
    (keys : s.books.Keyed) (frame : Frame h touched s.books t.books)
    (untouched : ∀ key, touched = some key → (s.books.sandbox key).handle ≠ h)
    (calls : ∀ call ∈ s.calls, call.isReturned = true → call ∈ t.calls)
    (same : after.get? h = kept.get? h) : t.AtRest client loads after h := by
  -- The sandbox of the handle is another one than the sandbox that is touched.
  have sandbox (key : Nat) (found : s.books.registry.get? h = some key) :
      t.books.sandbox key = s.books.sandbox key := by
    apply frame.sandbox key (keys h key found)
    intro touches
    obtain ⟨call, -, handle, completed⟩ := settled.created key found
    exact untouched key touches (completed.handle.trans handle)
  constructor
  · rw [same, settled.kept, frame.registry]
    cases found : s.books.registry.get? h with
    | none => rfl
    | some key => simp only [Option.map_some, sandbox key found]
  · intro key registered
    have found := frame.registry.symm.trans registered
    obtain ⟨call, member, rfl, completed⟩ := settled.created key found
    obtain ⟨⟨entered, handle, metadata, properties⟩, finished, running, tasks⟩ := completed
    refine ⟨call, calls _ member (Call.isReturned_of_finished finished), rfl,
      ⟨registered, ?_, ?_, ?_⟩, finished, ?_, ?_⟩
    · rw [sandbox key found, handle]
    · rw [sandbox key found, metadata]
    · rw [frame.properties, properties]
    · rw [sandbox key found, running]
    · rw [sandbox key found, tasks]

/-- Only the call that moves and its handle need to be looked at again. -/
theorem Mirrored.placed {r : Books × Call} {touched : Option Nat} {handle : String}
    (mirrored : s.Mirrored client loads kept) (placed : Placed client s t n r) (tidy : t.Tidy)
    (turn : s.Turn n handle) (accounts : Accounts t.books t.claims []) (own : r.2.handle = handle)
    (frame : ∀ h, h ≠ handle → Frame h touched s.books t.books)
    (untouched : ∀ key, touched = some key → (s.books.sandbox key).handle = handle)
    (elsewhere : ∀ h, h ≠ handle → after.get? h = kept.get? h)
    (ended : r.2.isReturned = true → t.AtRest client loads after handle)
    (going : r.2.isReturned = false → t.Underway client loads after r.2) :
    t.Mirrored client loads after := by
  refine ⟨tidy, accounts, ?_, ?_⟩
  · intro h idle
    by_cases hh : h = handle
    · subst hh
      exact ended (idle r.2 (List.mem_of_getElem? placed.here) own)
    · refine (mirrored.atRest h ?_).frame mirrored.accounts.keys (frame h hh) ?_ ?_ (elsewhere h hh)
      · intro call member same
        obtain ⟨j, found⟩ := List.mem_iff_getElem?.1 member
        by_cases hj : j = n
        · subst hj
          exact (hh (same.symm.trans (turn.mine call found).1)).elim
        · exact turn.others j call hj found
      · intro key touches same
        exact hh (same.symm.trans (untouched key touches))
      · exact fun call member returned => turn.returned_stays placed member returned
  · intro call member busy
    obtain ⟨j, found⟩ := List.mem_iff_getElem?.1 member
    by_cases hj : j = n
    · subst hj
      cases placed.here.symm.trans found
      exact going busy
    · rw [placed.elsewhere j hj] at found
      rw [turn.others j call hj found] at busy
      cases busy

/-! ### Creations -/

theorem attended_of_claim? {b : Books} {claim : PortClaim} (holds : call.claim? = some claim)
    (free : b.registry.get? call.spec.handle = none)
    (vacant : kept.get? call.spec.handle = none) : Attended client b kept call := by
  obtain ⟨spec, deadline, stage⟩ := call
  cases stage with
  | pulling claim reference => exact ⟨free, vacant⟩
  | discarding claim image => exact ⟨free, vacant⟩
  | _ => cases holds

/-- The sandbox of a creation that has just registered it. -/
theorem entered_enrol {b : Books} (known : b.Known)
    (free : b.registry.get? call.spec.handle = none) (claim : PortClaim) (image : String)
    (env : List String) (rootfsSize : UInt64) : Entered client
      (b.enrol (CreateCall.draft client call.spec claim image env rootfsSize) call.spec.properties)
      { call with stage := .submitting b.sandboxes.length } b.sandboxes.length := by
  generalize drafted : CreateCall.draft client call.spec claim image env rootfsSize = x
  have handle : x.handle = call.spec.handle := drafted ▸ rfl
  have here : (b.enrol x call.spec.properties).sandbox b.sandboxes.length = x :=
    Books.sandbox_enrol_self b x _
  refine ⟨?_, ?_, ?_, ?_⟩
  · rw [Books.get?_enrol, if_pos handle.symm]
  · rw [here]
    exact handle
  · rw [here, ← drafted]
    rfl
  · change (b.properties.setAll x.handle call.spec.properties).all call.spec.handle = _
    rw [handle]
    exact PropertyStore.all_setAll (known.all_eq free)

/-- A creation on its way to registration. -/
theorem Mirrored.claiming {ports : PortPool} {claim : PortClaim} {r : Books × CreateCall}
    (mirrored : s.Mirrored client loads kept) (placed : Placed client s t n (r.1, .create r.2))
    (tidy : t.Tidy) (turn : s.Turn n call.spec.handle) (accounts : Accounts t.books t.claims [])
    (moved : CreateCall.Claiming client { s.books with ports } call claim r)
    (free : s.books.registry.get? call.spec.handle = none)
    (vacant : kept.get? call.spec.handle = none) (unlost : (Call.create r.2).isLost = false) :
    t.Mirrored client loads kept := by
  have spec := moved.spec_eq
  have frame (h : String) (away : h ≠ call.spec.handle) : Frame h none s.books t.books := by
    obtain ⟨registry, properties, length, sandbox⟩ := frame_claiming moved (.inl away.symm)
    rw [placed.books]
    exact ⟨registry, properties, length, sandbox⟩
  refine mirrored.placed placed tidy turn accounts (congrArg SandboxSpec.handle spec) frame
    (by rintro _ ⟨⟩) (fun _ _ => rfl) ?_ ?_
  · intro returned
    cases moved with
    | keeps holds =>
        have busy := Call.busy_of_claim? holds
        rw [busy] at returned
        cases returned
    | abandons e => cases unlost
    | registers image env rootfsSize _ => cases returned
  · intro busy
    cases moved with
    | keeps holds =>
        apply attended_of_claim? holds ?_ vacant
        rw [placed.books]
        exact free
    | abandons e => cases busy
    | registers image env rootfsSize _ =>
        change Attended client t.books kept
          { call with stage := .submitting s.books.sandboxes.length }
        rw [placed.books]
        exact entered_enrol (b := { s.books with ports }) mirrored.tidy.known free claim image env
          rootfsSize

theorem Entered.name {b : Books} (entered : Entered client b call key) :
    (b.sandbox key).pod.name = call.spec.handle := by
  rw [Pod.name, entered.metadata]

theorem Entered.goesOn {b : Books} {stage : CreateStage} (entered : Entered client b call key)
    (held : call.key? = some key) (again : ({ call with stage } : CreateCall).key? = some key) :
    Entered client b { call with stage } key := by
  refine ⟨entered.registered, entered.handle, entered.metadata, ?_⟩
  rw [CreateCall.ownProperties_of_key? again]
  exact entered.properties.trans (CreateCall.ownProperties_of_key? held)

/-- A pod that was read is the one that was submitted, up to its status. -/
theorem Entered.reads {b : Books} {pod : Pod} (entered : Entered client b call key)
    (known : key < b.sandboxes.length) (same : pod.metadata = (b.sandbox key).pod.metadata) :
    Entered client (b.modify key fun x => { x with pod }) call key := by
  refine ⟨entered.registered, ?_, ?_, entered.properties⟩
  · rw [Books.sandbox_modify_self known]
    exact entered.handle
  · rw [Books.sandbox_modify_self known]
    exact same.trans entered.metadata

/-- The sandbox of a running pod is complete with the tasks of its statuses. -/
theorem Entered.completes {b : Books} {tasks : Tasks} (entered : Entered client b call key)
    (held : call.key? = some key) (known : key < b.sandboxes.length)
    (running : (b.sandbox key).pod.isRunning = true)
    (loaded : loads (b.sandbox key).pod.status.containerStatuses = .ok tasks) :
    Completed client loads (CreateCall.loaded b call key tasks).1
      (CreateCall.loaded b call key tasks).2 key := by
  have sandbox : (CreateCall.loaded b call key tasks).1.sandbox key =
      { b.sandbox key with tasks } := Books.sandbox_modify_self known _
  refine ⟨⟨entered.registered, ?_, ?_, ?_⟩, rfl, ?_, ?_⟩
  · rw [sandbox]
    exact entered.handle
  · rw [sandbox]
    exact entered.metadata
  · have before := entered.properties.trans (CreateCall.ownProperties_of_key? held)
    have stored := PropertyStore.all_set b.properties call.spec.handle Sandbox.stateProperty
      Sandbox.stateCreated
    rw [before] at stored
    exact stored
  · rw [sandbox]
    exact running
  · rw [sandbox]
    exact loaded

/-- The accounts after a step of a creation that has its sandbox. -/
theorem accounts_attending {event : Event} {r : Books × CreateCall}
    (accounts : Accounts s.books s.claims []) (found : s.calls[n]? = some (.create call))
    (held : call.key? = some key) (entered : Entered client s.books call key)
    (moved : CreateCall.Attending s.books call key event r)
    (placed : Placed client s t n (r.1, .create r.2))
    (spec : (r.1.sandbox key).pod.spec = (s.books.sandbox key).pod.spec) :
    Accounts t.books t.claims [] := by
  have vacant : s.claims n = none :=
    (claims_of_create found).trans (CreateCall.claim?_of_key? held)
  rw [placed.claims_same (moved.claim?.trans vacant.symm), placed.books]
  refine accounts.congr moved.ports_eq moved.registry_eq moved.length_eq.ge ?_
  intro h k registered
  by_cases hk : k = key
  · rw [hk]
    exact spec
  · have away : call.spec.handle ≠ h := by
      intro same
      subst same
      exact hk (Option.some.inj (registered.symm.trans entered.registered))
    have other : some key ≠ some k := fun e => hk (Option.some.inj e).symm
    rw [(frame_attending moved away).sandbox k (accounts.keys h k registered) other]

section
variable {b : Books} {r : Books × CreateCall}

/-- A creation that reads finds the pod that it has submitted. -/
theorem Attended.finds {k : KeptPod} (attended : Attended client b kept call)
    (stage : call.stage = .reading key) (here : kept.get? call.spec.handle = some k) :
    k.leaving = false ∧ k.pod.metadata = (b.sandbox key).pod.metadata ∧
      k.pod.spec = (b.sandbox key).pod.spec := by
  rw [Attended, stage] at attended
  obtain ⟨-, k', here', agrees⟩ := attended
  cases here.symm.trans here'
  exact agrees

/-- The tasks of a running pod are loaded. -/
theorem Attended.runs {statuses : List ContainerStatus} (attended : Attended client b kept call)
    (stage : call.stage = .loading key statuses) : (b.sandbox key).pod.isRunning = true ∧
      (b.sandbox key).pod.status.containerStatuses = statuses ∧
      kept.get? call.spec.handle = some { pod := (b.sandbox key).pod } := by
  rw [Attended, stage] at attended
  exact attended.2

/-- Only the pod of the sandbox changes in the cluster. -/
theorem Entered.advances_elsewhere (entered : Entered client b call key)
    (advances : CreateCall.Advances loads b kept call key r after)
    (away : h ≠ call.spec.handle) : after.get? h = kept.get? h := by
  cases advances with
  | submits stage metadata spec =>
      rw [entered.name]
      exact Table.get?_insert_ne kept _ away
  | _ => rfl

theorem Attended.advances_spec (attended : Attended client b kept call)
    (known : key < b.sandboxes.length)
    (advances : CreateCall.Advances loads b kept call key r after) :
    (r.1.sandbox key).pod.spec = (b.sandbox key).pod.spec := by
  cases advances with
  | sees stage here =>
      rw [Books.sandbox_modify_self known]
      exact (attended.finds stage here).2.2
  | ready stage here running =>
      rw [Books.sandbox_modify_self known]
      exact (attended.finds stage here).2.2
  | @succeeds statuses tasks stage loaded =>
      have sandbox : (CreateCall.loaded b call key tasks).1.sandbox key =
          { b.sandbox key with tasks } := Books.sandbox_modify_self known _
      rw [sandbox]
  | _ => rfl

/-- The cluster stands to a creation that goes on as its stage says. -/
theorem Attended.advances (attended : Attended client b kept call)
    (entered : Entered client b call key) (held : call.key? = some key)
    (known : key < b.sandboxes.length)
    (advances : CreateCall.Advances loads b kept call key r after)
    (busy : (Call.create r.2).isReturned = false) : Attended client r.1 after r.2 := by
  cases advances with
  | submits stage metadata spec =>
      rw [entered.name]
      exact ⟨entered.goesOn held rfl, _, Table.get?_insert_self .., rfl, metadata, spec⟩
  | rests stage =>
      rw [Attended, stage] at attended
      exact ⟨entered.goesOn held rfl, attended.2⟩
  | wakes stage =>
      rw [Attended, stage] at attended
      exact ⟨entered.goesOn held rfl, attended.2⟩
  | @sees k wake stage here =>
      obtain ⟨stays, metadata, spec⟩ := attended.finds stage here
      have sandbox := Books.sandbox_modify_self known fun x : Sandbox => { x with pod := k.pod }
      refine ⟨(entered.reads known metadata).goesOn held rfl, k, here, stays, ?_, ?_⟩
      · rw [sandbox]
      · rw [sandbox]
  | @ready k stage here running =>
      obtain ⟨stays, metadata, spec⟩ := attended.finds stage here
      have sandbox := Books.sandbox_modify_self known fun x : Sandbox => { x with pod := k.pod }
      refine ⟨(entered.reads known metadata).goesOn held rfl, ?_, ?_, ?_⟩
      · rw [sandbox]
        exact running
      · rw [sandbox]
      · rw [sandbox, here]
        obtain ⟨pod, leaving⟩ := k
        cases stays
        rfl
  | succeeds stage loaded => cases busy

/-- A creation that returns has completed its sandbox, and the cluster keeps its pod. -/
theorem Attended.completes (attended : Attended client b kept call)
    (entered : Entered client b call key) (held : call.key? = some key)
    (known : key < b.sandboxes.length)
    (advances : CreateCall.Advances loads b kept call key r after)
    (returned : (Call.create r.2).isReturned = true) :
    Completed client loads r.1 r.2 key ∧ r.2.spec = call.spec ∧
      after.get? call.spec.handle = some { pod := (r.1.sandbox key).pod } := by
  cases advances with
  | @succeeds statuses tasks stage loaded =>
      obtain ⟨running, rfl, here⟩ := attended.runs stage
      have sandbox : (CreateCall.loaded b call key tasks).1.sandbox key =
          { b.sandbox key with tasks } := Books.sandbox_modify_self known _
      refine ⟨entered.completes held known running loaded, rfl, ?_⟩
      rw [here, sandbox]
  | _ => cases returned

end

/-- A creation that has its sandbox. -/
theorem Mirrored.attending {event : Event} {r : Books × CreateCall}
    (mirrored : s.Mirrored client loads kept) (found : s.calls[n]? = some (.create call))
    (held : call.key? = some key) (entered : Entered client s.books call key)
    (moved : CreateCall.Attending s.books call key event r)
    (placed : Placed client s t n (r.1, .create r.2)) (tidy : t.Tidy)
    (turn : s.Turn n call.spec.handle)
    (advances : CreateCall.Advances loads s.books kept call key r after) :
    t.Mirrored client loads after := by
  have known := mirrored.accounts.keys _ key entered.registered
  have attended : Attended client s.books kept call :=
    mirrored.underway _ (List.mem_of_getElem? found) (Call.busy_of_key? held)
  have frame (h : String) (away : h ≠ call.spec.handle) :
      Frame h (some key) s.books t.books := by
    rw [placed.books]
    exact frame_attending moved away.symm
  have accounts := accounts_attending mirrored.accounts found held entered moved placed
    (attended.advances_spec known advances)
  have handle := congrArg SandboxSpec.handle moved.spec_eq
  refine mirrored.placed placed tidy turn accounts handle frame ?_
    (fun h away => entered.advances_elsewhere advances away) ?_ ?_
  · rintro _ ⟨⟩
    exact entered.handle
  · intro returned
    obtain ⟨completed, spec, here⟩ := attended.completes entered held known advances returned
    have registered := completed.registered
    rw [spec] at registered
    constructor
    · rw [here, placed.books, registered, Option.map_some]
    · intro k again
      rw [placed.books] at again ⊢
      cases registered.symm.trans again
      exact ⟨_, List.mem_of_getElem? placed.here, handle, completed⟩
  · intro busy
    change Attended client t.books after r.2
    rw [placed.books]
    exact attended.advances entered held known advances busy

/-! ### Destructions -/

theorem AtRest.targets (settled : s.AtRest client loads kept h)
    (registered : s.books.registry.get? h = some key) :
    Targets client s.books h (s.books.sandbox key).pod := by
  obtain ⟨call, -, rfl, completed⟩ := settled.created key registered
  refine ⟨⟨key, registered, rfl⟩, completed.running, completed.name, ?_⟩
  rw [Pod.podNamespace, completed.metadata]

section
variable {destruction : DestroyCall} {pod : Pod}

theorem Dismissed.targets (dismissed : s.Dismissed client loads kept destruction)
    (held : destruction.pod? = some pod) : Targets client s.books destruction.handle pod := by
  obtain ⟨handle, deadline, stage⟩ := destruction
  cases stage with
  | finished result => cases held
  | _ =>
      cases held
      exact dismissed.1

/-- A pod that is kept under the handle is the one that the destruction has in hand. -/
theorem Dismissed.pod_eq {k : KeptPod} (dismissed : s.Dismissed client loads kept destruction)
    (held : destruction.pod? = some pod) (here : kept.get? destruction.handle = some k) :
    k.pod = pod := by
  obtain ⟨key, registered, same⟩ := (dismissed.targets held).registered
  obtain ⟨handle, deadline, stage⟩ := destruction
  cases stage with
  | finished result => cases held
  | deleting p =>
      cases held
      have known := dismissed.2.kept
      rw [here, registered, Option.map_some, same] at known
      cases known
      rfl
  | reading p =>
      cases held
      rw [dismissed.2 k here]
  | pausing p wake =>
      cases held
      rw [dismissed.2 k here]

/-- A destruction that goes on leaves the books alone. -/
theorem Mirrored.dismissing {later : DestroyCall} (mirrored : s.Mirrored client loads kept)
    (found : s.calls[n]? = some (.destroy destruction))
    (placed : Placed client s t n (s.books, .destroy later)) (tidy : t.Tidy)
    (turn : s.Turn n destruction.handle) (own : later.handle = destruction.handle)
    (elsewhere : ∀ h, h ≠ destruction.handle → after.get? h = kept.get? h)
    (busy : (Call.destroy later).isReturned = false)
    (going : t.Dismissed client loads after later) : t.Mirrored client loads after := by
  have frame (h : String) (_ : h ≠ destruction.handle) : Frame h none s.books t.books := by
    rw [placed.books]
    exact .refl h none s.books
  refine mirrored.placed placed tidy turn ?_ own frame (by rintro _ ⟨⟩) elsewhere ?_
    fun _ => going
  · rw [placed.claims_same (claims_of_destroy found).symm, placed.books]
    exact mirrored.accounts
  · intro returned
    rw [busy] at returned
    cases returned

/-- The pod that a destruction has in hand runs, so a read that misses it finds none. -/
theorem Dismissed.gone (dismissed : s.Dismissed client loads kept destruction)
    (held : destruction.pod? = some pod) (missed : kept.Misses pod.name) :
    kept.get? destruction.handle = none := by
  have targets := dismissed.targets held
  cases here : kept.get? destruction.handle with
  | none => rfl
  | some k =>
      have idle := missed k (targets.name.symm ▸ here)
      rw [dismissed.pod_eq held here, targets.running] at idle
      cases idle

/-- A destruction whose pod is gone forgets the sandbox. -/
theorem Mirrored.forgetting {outcome : Except LifecycleError Unit}
    (mirrored : s.Mirrored client loads kept)
    (found : s.calls[n]? = some (.destroy destruction))
    (registered : s.books.registry.get? destruction.handle = some key)
    (gone : kept.get? destruction.handle = none)
    (placed : Placed client s t n ((destruction.forget s.books (s.books.sandbox key).pod outcome).1,
      .destroy (destruction.forget s.books (s.books.sandbox key).pod outcome).2))
    (tidy : t.Tidy) (turn : s.Turn n destruction.handle) : t.Mirrored client loads kept := by
  have books := placed.books
  have free : t.books.registry.get? destruction.handle = none := by
    rw [books]
    exact Table.get?_erase_self ..
  have frame (h : String) (away : h ≠ destruction.handle) : Frame h none s.books t.books := by
    rw [books]
    exact frame_forget s.books _ away.symm
  refine mirrored.placed placed tidy turn ?_ rfl frame (by rintro _ ⟨⟩)
    (fun _ _ => rfl) (fun _ => ⟨?_, ?_⟩) (by rintro ⟨⟩)
  · rw [placed.claims_same (claims_of_destroy found).symm, books]
    exact mirrored.accounts.forget_own registered
  · rw [gone, free]
    rfl
  · intro k again
    rw [free] at again
    cases again

/-- A destruction that has found its pod. -/
theorem Mirrored.deleting {r : Books × DestroyCall} (mirrored : s.Mirrored client loads kept)
    (found : s.calls[n]? = some (.destroy destruction)) (held : destruction.pod? = some pod)
    (placed : Placed client s t n (r.1, .destroy r.2)) (tidy : t.Tidy)
    (turn : s.Turn n destruction.handle)
    (advances : destruction.Advances s.books kept pod r after) :
    t.Mirrored client loads after := by
  have under : s.Dismissed client loads kept destruction :=
    mirrored.underway _ (List.mem_of_getElem? found) (turn.mine _ found).2
  have targets := under.targets held
  have books := placed.books
  cases advances with
  | @deletes k stage here =>
      rw [targets.name] at *
      refine mirrored.dismissing found placed tidy turn rfl
        (fun h away => Table.get?_insert_ne kept _ away) rfl ⟨?_, ?_⟩
      · rw [books]
        exact targets
      · intro k' here'
        rw [Table.get?_insert_self] at here'
        cases here'
        rw [under.pod_eq held here]
  | sees stage =>
      rw [Dismissed, stage] at under
      refine mirrored.dismissing found placed tidy turn rfl (fun _ _ => rfl) rfl ⟨?_, under.2⟩
      rw [books]
      exact targets
  | wakes stage =>
      rw [Dismissed, stage] at under
      refine mirrored.dismissing found placed tidy turn rfl (fun _ _ => rfl) rfl ⟨?_, under.2⟩
      rw [books]
      exact targets
  | forgets missed =>
      obtain ⟨key, registered, rfl⟩ := targets.registered
      exact mirrored.forgetting found registered (under.gone held missed) placed tidy turn

end

/-! ### Any call -/

theorem Attended.of_claim? {b : Books} {claim : PortClaim} (attended : Attended client b kept call)
    (holds : call.claim? = some claim) :
    b.registry.get? call.spec.handle = none ∧ kept.get? call.spec.handle = none := by
  obtain ⟨spec, deadline, stage⟩ := call
  cases stage with
  | pulling claim reference => exact attended
  | discarding claim image => exact attended
  | _ => cases holds

theorem Attended.entered {b : Books} (attended : Attended client b kept call)
    (held : call.key? = some key) (unlost : (Call.create call).isLost = false) :
    Entered client b call key := by
  obtain ⟨spec, deadline, stage⟩ := call
  cases stage with
  | submitting k =>
      cases held
      exact attended
  | reading k =>
      cases held
      exact attended.1
  | pausing k wake =>
      cases held
      exact attended.1
  | loading k statuses =>
      cases held
      exact attended.1
  | withdrawing k => cases unlost
  | _ => cases held

/-- Images are no matter of the cluster. -/
theorem served_of_claim? {b : Books} {claim : PortClaim} {event : Event} {ns : String}
    (holds : call.claim? = some claim)
    (served : (call.awaiting client b).Served ns loads kept event after) : after = kept := by
  cases event with
  | answered answer =>
      obtain ⟨ask, asks, answers⟩ := served
      apply answers.of_silent
      rintro question rfl
      obtain ⟨spec, deadline, stage⟩ := call
      cases stage with
      | pulling claim reference => cases asks
      | discarding claim image => cases asks
      | _ => cases holds
  | woke => exact served
  | expired => exact served

/-- A destruction is begun. -/
theorem Mirrored.looking {handle : String} {deadline : Instant}
    (mirrored : s.Mirrored client loads kept) (idle : s.Idle)
    (placed : Placed client s t s.calls.length
      (s.books, .destroy (DestroyCall.start s.books handle deadline)))
    (tidy : t.Tidy) (unlost : ¬ t.Lost) : t.Mirrored client loads kept := by
  cases registered : s.books.registry.get? handle with
  | none =>
      have missing : DestroyCall.start s.books handle deadline =
          ⟨handle, deadline, .finished (.error (.notFound handle))⟩ := by
        simp only [DestroyCall.start, Books.lookup, Registry.get, registered]
      rw [missing] at placed
      exact (unlost ⟨_, List.mem_of_getElem? placed.here, rfl⟩).elim
  | some key =>
      have started : DestroyCall.start s.books handle deadline =
          ⟨handle, deadline, .deleting (s.books.sandbox key).pod⟩ := by
        simp only [DestroyCall.start, Books.lookup, Registry.get, registered]
      rw [started] at placed
      have books := placed.books
      have settled := mirrored.atRest handle fun call member _ => idle call member
      have turn := turn_begins idle handle
      have frame (h : String) : Frame h none s.books t.books := by
        rw [books]
        exact .refl h none s.books
      refine mirrored.placed placed tidy turn ?_ rfl (fun h _ => frame h)
        (by rintro _ ⟨⟩) (fun _ _ => rfl) (by rintro ⟨⟩) fun _ => ⟨?_, ?_⟩
      · rw [placed.claims_same s.claims_vacant.symm, books]
        exact mirrored.accounts
      · rw [books]
        exact settled.targets registered
      · exact settled.frame mirrored.accounts.keys (frame handle) (by rintro _ ⟨⟩)
          (fun call member returned => turn.returned_stays placed member returned) rfl

/-- A creation is begun. -/
theorem Mirrored.starting {spec : SandboxSpec} {deadline : Instant} {r : Books × CreateCall}
    (mirrored : s.Mirrored client loads kept) (idle : s.Idle)
    (moved : CreateCall.Starting client s.books spec deadline r)
    (placed : Placed client s t s.calls.length (r.1, .create r.2)) (tidy : t.Tidy)
    (unlost : (Call.create r.2).isLost = false) : t.Mirrored client loads kept := by
  have accounts : Accounts t.books t.claims [] := by
    rw [placed.claims_eq, placed.books]
    exact mirrored.accounts.starting s.claims_vacant moved
  cases moved with
  | refused e => cases unlost
  | claims free made moved =>
      have absent := Table.get?_eq_none free
      have settled := mirrored.atRest spec.handle fun call member _ => idle call member
      have vacant : kept.get? spec.handle = none := by
        rw [settled.kept, absent]
        rfl
      exact mirrored.claiming placed tidy (turn_begins idle _) accounts moved absent vacant unlost

/-- A move after which no call is lost keeps the mirror. -/
theorem Mirrored.step (mirrored : s.Mirrored client loads kept) (admitted : s.Admits client m)
    (sequential : s.Sequential m) (served : s.Served client loads kept m after)
    (unlost : ¬ (s.step client m).Lost) : (s.step client m).Mirrored client loads after := by
  have tidy := mirrored.tidy.step admitted sequential
  have before (call : Call) (member : call ∈ s.calls) : call.isLost = false := by
    by_contra fails
    exact unlost (Lost.step ⟨call, member, by simpa using fails⟩ admitted)
  have now_unlost {n : Nat} {call : Call} (found : (s.step client m).calls[n]? = some call) :
      call.isLost = false := by
    by_contra fails
    exact unlost ⟨call, List.mem_of_getElem? found, by simpa using fails⟩
  cases stepped admitted with
  | starts hm moved placed =>
      subst hm
      cases served
      exact mirrored.starting sequential moved placed tidy (now_unlost placed.here)
  | looks hm placed =>
      subst hm
      cases served
      exact mirrored.looking sequential placed tidy unlost
  | @claiming i now event call claim r hm found holds moved placed =>
      subst hm
      cases served_of_claim? holds (served.of_event found)
      have attended : Attended client s.books kept call :=
        mirrored.underway _ (List.mem_of_getElem? found) (Call.busy_of_claim? holds)
      obtain ⟨free, vacant⟩ := attended.of_claim? holds
      refine mirrored.claiming placed tidy (mirrored.tidy.turn admitted found) ?_ moved free vacant
        (now_unlost placed.here)
      rw [placed.claims_eq, placed.books]
      exact mirrored.accounts.claiming ((claims_of_create found).trans holds) moved
  | @attending i now event call key r hm found holds moved placed =>
      subst hm
      have member := List.mem_of_getElem? found
      have attended : Attended client s.books kept call :=
        mirrored.underway _ member (Call.busy_of_key? holds)
      have entered := attended.entered holds (before _ member)
      have resumed := placed.resumed found
      have within : (s.books.sandbox key).pod.podNamespace = client.settings.podNamespace := by
        rw [Pod.podNamespace, entered.metadata]
      have advances := CreateCall.resume_advances holds within (admitted.of_event found)
        (served.of_event found) (by rw [resumed]; exact now_unlost placed.here)
      rw [resumed] at advances
      exact mirrored.attending found holds entered moved placed tidy
        (mirrored.tidy.turn admitted found) advances
  | @deleting i now event call pod r hm found holds moved result placed =>
      subst hm
      have turn := mirrored.tidy.turn admitted found
      have dismissed : s.Dismissed client loads kept call :=
        mirrored.underway _ (List.mem_of_getElem? found) (turn.mine _ found).2
      have targets := dismissed.targets holds
      have advances := DestroyCall.resume_advances holds targets.podNamespace
        (admitted.of_event found) (served.of_event found)
        (by rw [result]; exact now_unlost placed.here)
      rw [result] at advances
      exact mirrored.deleting found holds placed tidy turn advances

/-! ## Between the moves -/

theorem Underway.congr {call : Call} (underway : s.Underway client loads kept call)
    (same : after.get? call.handle = kept.get? call.handle) :
    s.Underway client loads after call := by
  cases call with
  | create call =>
      change after.get? call.spec.handle = kept.get? call.spec.handle at same
      change Attended client s.books after call
      unfold Attended
      rw [same]
      exact underway
  | destroy call =>
      change after.get? call.handle = kept.get? call.handle at same
      obtain ⟨handle, deadline, stage⟩ := call
      cases stage with
      | deleting pod => exact ⟨underway.1, same.trans underway.2.kept, underway.2.created⟩
      | reading pod => exact ⟨underway.1, fun k here => underway.2 k (same ▸ here)⟩
      | pausing pod wake => exact ⟨underway.1, fun k here => underway.2 k (same ▸ here)⟩
      | finished result => trivial

/-- A change of one pod matters only to the call that is about its handle. -/
theorem Mirrored.elsewhere {name : String} (mirrored : s.Mirrored client loads kept)
    (others : ∀ h, h ≠ name → after.get? h = kept.get? h)
    (unsettled : ¬ s.AtRest client loads kept name)
    (mine : ∀ call : Call, call.handle = name → s.Underway client loads kept call →
      s.Underway client loads after call) : s.Mirrored client loads after := by
  refine ⟨mirrored.tidy, mirrored.accounts, ?_, ?_⟩
  · intro h idle
    by_cases hh : h = name
    · subst hh
      exact (unsettled (mirrored.atRest h idle)).elim
    · obtain ⟨same, created⟩ := mirrored.atRest h idle
      exact ⟨(others h hh).trans same, created⟩
  · intro call member busy
    have underway := mirrored.underway call member busy
    by_cases hh : call.handle = name
    · exact mine call hh underway
    · exact underway.congr (others _ hh)

/-- The pod of a settled handle runs and stays. -/
theorem AtRest.stays {k : KeptPod} (settled : s.AtRest client loads kept h)
    (here : kept.get? h = some k) : k.pod.isRunning = true ∧ k.leaving = false := by
  rw [settled.kept] at here
  cases registered : s.books.registry.get? h with
  | none =>
      rw [registered] at here
      cases here
  | some key =>
      rw [registered] at here
      cases here
      obtain ⟨call, -, rfl, completed⟩ := settled.created key registered
      exact ⟨completed.running, rfl⟩

theorem Mirrored.changes {name : String} {k : KeptPod} (mirrored : s.Mirrored client loads kept)
    (here : kept.get? name = some k) (idle : k.pod.isRunning = false) (status : PodStatus) :
    s.Mirrored client loads (kept.insert name { k with pod := { k.pod with status } }) := by
  have running (busy : k.pod.isRunning = true) : False := by
    rw [idle] at busy
    cases busy
  refine mirrored.elsewhere (fun h away => Table.get?_insert_ne kept _ away)
    (fun settled => running (settled.stays here).1) ?_
  rintro call rfl underway
  cases call with
  | create call =>
      obtain ⟨spec, deadline, stage⟩ := call
      cases stage with
      | pulling claim reference => cases here.symm.trans underway.2
      | discarding claim image => cases here.symm.trans underway.2
      | submitting key => exact underway
      | reading key =>
          obtain ⟨entered, k', here', stays, metadata, spec⟩ := underway
          cases here.symm.trans here'
          exact ⟨entered, _, Table.get?_insert_self .., stays, metadata, spec⟩
      | pausing key wake =>
          obtain ⟨entered, k', here', stays, metadata, spec⟩ := underway
          cases here.symm.trans here'
          exact ⟨entered, _, Table.get?_insert_self .., stays, metadata, spec⟩
      | loading key statuses =>
          obtain ⟨-, busy, -, here'⟩ := underway
          cases here.symm.trans here'
          exact (running busy).elim
      | _ => trivial
  | destroy call =>
      have known (pod : Pod) (held : call.pod? = some pod) : False := by
        have same := Dismissed.pod_eq underway held here
        exact running (same ▸ (Dismissed.targets underway held).running)
      obtain ⟨handle, deadline, stage⟩ := call
      cases stage with
      | finished result => trivial
      | _ => exact (known _ rfl).elim

theorem Mirrored.vanishes {name : String} {k : KeptPod} (mirrored : s.Mirrored client loads kept)
    (here : kept.get? name = some k) (leaves : k.leaving = true) :
    s.Mirrored client loads (kept.erase name) := by
  have stays (stays : k.leaving = false) : False := by
    rw [leaves] at stays
    cases stays
  refine mirrored.elsewhere (fun h away => Table.get?_erase_ne kept away)
    (fun settled => stays (settled.stays here).2) ?_
  rintro call rfl underway
  cases call with
  | create call =>
      obtain ⟨spec, deadline, stage⟩ := call
      cases stage with
      | pulling claim reference => cases here.symm.trans underway.2
      | discarding claim image => cases here.symm.trans underway.2
      | submitting key => exact underway
      | reading key =>
          obtain ⟨-, k', here', lasts, -⟩ := underway
          cases here.symm.trans here'
          exact (stays lasts).elim
      | pausing key wake =>
          obtain ⟨-, k', here', lasts, -⟩ := underway
          cases here.symm.trans here'
          exact (stays lasts).elim
      | loading key statuses =>
          cases here.symm.trans underway.2.2.2
          exact (stays rfl).elim
      | _ => trivial
  | destroy call =>
      have gone {k' : KeptPod} (again : (kept.erase call.handle).get? call.handle = some k') :
          False := by
        rw [Table.get?_erase_self] at again
        cases again
      obtain ⟨handle, deadline, stage⟩ := call
      cases stage with
      | deleting pod => exact (stays (underway.2.stays here).2).elim
      | reading pod => exact ⟨underway.1, fun _ again => (gone again).elim⟩
      | pausing pod wake => exact ⟨underway.1, fun _ again => (gone again).elim⟩
      | finished result => trivial

/-! ## Whole runs -/

theorem mirrored_start (connected : Connected [] client books) :
    Mirrored client loads { books } {} := by
  have recovered := connected.recovered
  have free (h : String) : books.registry.get? h = none := by
    cases found : books.registry.get? h with
    | none => rfl
    | some key => cases (recovered.entries h key found).2.1
  refine ⟨tidy_of_connected connected .start, accounts_start recovered .nil, ?_, ?_⟩
  · intro h _
    refine ⟨?_, ?_⟩
    · rw [free h]
      rfl
    · intro key found
      rw [free h] at found
      cases found
  · intro call member
    cases member

/-- As long as no call is lost the cluster mirrors the books. -/
theorem Deployed.mirrored (connected : Connected [] client books)
    (run : Deployed client loads books s kept) (unlost : ¬ s.Lost) :
    s.Mirrored client loads kept := by
  induction run with
  | start => exact mirrored_start connected
  | moves _ admitted sequential served ih =>
      have before := ih fun lost => unlost (lost.step admitted)
      exact before.step admitted sequential served unlost
  | changes _ here idle ih => exact (ih unlost).changes here idle _
  | vanishes _ here leaves ih => exact (ih unlost).vanishes here leaves

end SandboxPods.Interleaving
