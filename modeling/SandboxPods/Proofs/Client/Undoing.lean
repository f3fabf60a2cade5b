import SandboxPods.Proofs.Client.Connection
import SandboxPods.Proofs.Client.Interleaving

/-!
# A creation and the destruction that undoes it

Calls of one client are made one after another here. A creation that does not
register its handle leaves the books as they were, whichever way it ends. One that
does has added a single sandbox to them, whose pod declares the ports that were
claimed, and that stays so whatever becomes of it: submission, reading, withdrawal
and loading only ever replace the pod by one with the same specification. From the
cached pod alone a destruction can therefore put ports, handles and properties back.
-/
namespace SandboxPods

/-! ## One sandbox more -/

namespace Books

/-- The books differ by one sandbox, whose pod declares the ports that were claimed for it. -/
structure Added (b c : Books) (handle : String) (x : Sandbox) : Prop where
  absent : b.registry.get? handle = none
  registry : c.registry = b.registry.insert handle b.sandboxes.length
  sandboxes : c.sandboxes = b.sandboxes ++ [x]
  spaces : ∀ h, h ≠ handle → c.properties.spaces.get? h = b.properties.spaces.get? h
  ports : ∃ claim, PortClaim.Made b.ports c.ports claim ∧ x.pod.hostPorts = claim.hostPorts

namespace Added
variable {b c : Books} {handle : String} {x : Sandbox}

theorem of_enrol {ports : PortPool} {claim : PortClaim} (absent : b.registry.get? x.handle = none)
    (made : PortClaim.Made b.ports ports claim) (declares : x.pod.hostPorts = claim.hostPorts)
    (properties : Properties) :
    Added b (Books.enrol { b with ports } x properties) x.handle x := by
  refine ⟨absent, rfl, rfl, ?_, claim, made, declares⟩
  intro h hh
  exact PropertyStore.spaces_setAll b.properties properties hh

theorem registered (h : Added b c handle x) :
    c.registry.get? handle = some b.sandboxes.length := by
  rw [h.registry, Table.get?_insert_self]

theorem sandbox (h : Added b c handle x) : c.sandbox b.sandboxes.length = x :=
  sandbox_append_self h.sandboxes

theorem modify (h : Added b c handle x) {f : Sandbox → Sandbox}
    (kept : (f x).pod.hostPorts = x.pod.hostPorts) :
    Added b (c.modify b.sandboxes.length f) handle (f x) := by
  obtain ⟨claim, made, declares⟩ := h.ports
  refine ⟨h.absent, h.registry, ?_, h.spaces, claim, made, kept.trans declares⟩
  change c.sandboxes.modify b.sandboxes.length f = _
  rw [h.sandboxes, modify_last]

theorem setProperty (h : Added b c handle x) (name value : String) :
    Added b (c.setProperty handle name value) handle x := by
  refine ⟨h.absent, h.registry, h.sandboxes, ?_, h.ports⟩
  intro other ne
  exact (PropertyStore.spaces_set c.properties name value ne).trans (h.spaces other ne)

/-- Forgetting the sandbox with the pod that is known of it puts the books back. -/
theorem forget (h : Added b c handle x) (empty : b.properties.spaces.get? handle = none) :
    (c.forget handle x.pod).ports = b.ports ∧ (c.forget handle x.pod).registry = b.registry ∧
      (c.forget handle x.pod).properties = b.properties := by
  obtain ⟨claim, made, declares⟩ := h.ports
  refine ⟨?_, ?_, PropertyStore.destroy_eq empty h.spaces⟩
  · apply made.releaseAll
    intro p inside
    rw [made.covers p, declares]
    exact (and_iff_right inside).symm
  · change c.registry.erase handle = b.registry
    rw [h.registry, Table.erase_insert _ h.absent]

end Added
end Books

/-! ## The creation -/

namespace Interleaving
variable {client : Client} {s t w : Interleaving} {m : Move} {n : Nat} {b : Books}

/-- How far a creation has come that began with the books `b`. -/
inductive Creating (b : Books) (n : Nat) (w : Interleaving) (call : CreateCall) : Prop
  | refused : (Call.create call).isReturned = true → w.books = b → w.Quiet n →
      Creating b n w call
  | claiming {ports : PortPool} {claim : PortClaim} : call.claim? = some claim →
      b.registry.get? call.spec.handle = none → PortClaim.Made b.ports ports claim →
      w.books = { b with ports } → w.Quiet n → Creating b n w call
  | registered {x : Sandbox} {sent : Pod} : call.claim? = none →
      (∀ key, call.key? = some key → key = b.sandboxes.length) →
      b.Added w.books call.spec.handle x → w.Submitted n sent → sent.spec = x.pod.spec →
      Creating b n w call

/-- A creation with its claim in hand goes on, gives the claim back, or adds its sandbox. -/
theorem creating_of_claiming {ports : PortPool} {claim : PortClaim} {call : CreateCall}
    {r : Books × CreateCall} (made : PortClaim.Made b.ports ports claim)
    (absent : b.registry.get? call.spec.handle = none)
    (moved : CreateCall.Claiming client { b with ports } call claim r)
    (placed : Placed client w t n (r.1, .create r.2)) (quiet : w.Quiet n) :
    Creating b n t r.2 := by
  cases moved with
  | keeps same =>
      apply Creating.claiming same absent made placed.books
      exact quiet.placed placed fun ask asks => CreateCall.silent_of_claim same asks
  | abandons e =>
      refine Creating.refused rfl ?_ (quiet.placed placed fun ask asks => nomatch asks)
      rw [placed.books]
      change { b with ports := ports.releaseAll claim.claimed } = b
      rw [made.releaseAll fun _ _ => Iff.rfl]
  | registers image env rootfsSize free =>
      have declares := CreateCall.hostPorts_draft client call.spec claim image env rootfsSize
      have added : b.Added t.books call.spec.handle
          (CreateCall.draft client call.spec claim image env rootfsSize) := by
        rw [placed.books]
        exact Books.Added.of_enrol absent made declares call.spec.properties
      refine Creating.registered rfl ?_ added (placed.submitted_now rfl) ?_
      · intro key again
        exact (Option.some.inj again).symm
      · rw [Books.sandbox_append_self (b := b) rfl]

/-- A creation that attends to the sandbox it has added keeps it the only difference. -/
theorem creating_of_attending {call : CreateCall} {event : Event} {r : Books × CreateCall}
    {x : Sandbox} {sent : Pod} (added : b.Added w.books call.spec.handle x)
    (before : w.Submitted n sent) (spec : sent.spec = x.pod.spec)
    (moved : CreateCall.Attending w.books call b.sandboxes.length event r)
    (placed : Placed client w t n (r.1, .create r.2))
    (handsBack : ∀ pod, event = .answered (.pod (.ok pod)) → pod.spec = sent.spec) :
    Creating b n t r.2 := by
  have submitted := placed.submitted before
  cases moved with
  | waits again later =>
      refine .registered (CreateCall.claim?_of_key? again) ?_ ?_ submitted spec
      · exact fun k hk => Option.some.inj (hk.symm.trans again)
      · rw [placed.books]
        exact added
  | fails e =>
      refine .registered rfl (fun k hk => nomatch hk) ?_ submitted spec
      rw [placed.books]
      exact added
  | completes tasks =>
      have tended := added.modify (f := fun x => { x with tasks }) rfl
      refine .registered (x := { x with tasks }) rfl (fun k hk => nomatch hk) ?_ submitted spec
      rw [placed.books]
      exact tended.setProperty Sandbox.stateProperty Sandbox.stateCreated
  | @sees stage pod told again later =>
      -- The pod as read is the one that was submitted, so it declares the same ports.
      have back := handsBack pod told
      have read := added.modify (f := fun x => { x with pod })
        (Pod.hostPorts_congr (back.trans spec))
      refine .registered (x := { x with pod }) (CreateCall.claim?_of_key? again) ?_ ?_ submitted
        back.symm
      · exact fun k hk => Option.some.inj (hk.symm.trans again)
      · rw [placed.books]
        exact read

theorem creating_start {spec : SandboxSpec} {deadline : Instant} (logged : s.Logged) :
    ∃ call, (s.step client (.create spec deadline)).calls[s.calls.length]? = some (.create call) ∧
      call.spec = spec ∧
      Creating s.books s.calls.length (s.step client (.create spec deadline)) call := by
  have quiet := logged.fresh
  have placed : Placed client s (s.step client (.create spec deadline)) s.calls.length
      ((CreateCall.start client s.books spec deadline).1,
        .create (CreateCall.start client s.books spec deadline).2) := placed_begun _
  have started := CreateCall.start_starting client s.books spec deadline
  refine ⟨_, placed.here, started.spec_eq, ?_⟩
  generalize CreateCall.start client s.books spec deadline = r at placed started
  cases started with
  | refused e =>
      exact .refused rfl placed.books (quiet.placed placed fun ask asks => nomatch asks)
  | claims free made moved =>
      exact creating_of_claiming (PortClaim.make_ok made) (Table.get?_eq_none free) moved placed
        quiet

theorem Creating.step {call : CreateCall} {now : Instant} {event : Event}
    (h : Creating b n w call) (found : w.calls[n]? = some (.create call))
    (admitted : w.Admits client (.event n now event))
    (handsBack : w.HandsBack (.event n now event)) :
    ∃ after, (w.step client (.event n now event)).calls[n]? = some (.create after) ∧
      after.spec = call.spec ∧ Creating b n (w.step client (.event n now event)) after := by
  have busy := busy_of_admits admitted found
  cases stepped admitted with
  | starts hm => cases hm
  | looks hm => cases hm
  | deleting hm same =>
      cases hm
      cases found.symm.trans same
  | @claiming i _ _ _ claim r hm same holds moved placed =>
      cases hm
      cases found.symm.trans same
      refine ⟨r.2, placed.here, moved.spec_eq, ?_⟩
      cases h with
      | refused returned =>
          rw [returned] at busy
          cases busy
      | claiming mine absent made books quiet =>
          cases mine.symm.trans holds
          rw [books] at moved
          exact creating_of_claiming made absent moved placed quiet
      | registered vacant =>
          rw [vacant] at holds
          cases holds
  | @attending i _ _ _ key r hm same holds moved placed =>
      cases hm
      cases found.symm.trans same
      refine ⟨r.2, placed.here, moved.spec_eq, ?_⟩
      cases h with
      | refused returned =>
          rw [returned] at busy
          cases busy
      | claiming mine =>
          rw [CreateCall.claim?_of_key? holds] at mine
          cases mine
      | @registered x sent vacant keys added before spec =>
          have mine := keys key holds
          subst mine
          apply creating_of_attending added before spec moved placed
          intro pod told
          subst told
          exact handsBack call _ sent found holds added.registered before

/-! ## One call after another -/

/-- Calls are made one after another, and the cluster hands pods back as they were submitted. -/
def Orderly (s : Interleaving) (m : Move) : Prop := s.Sequential m ∧ s.HandsBack m

/-- The move is about the call at the position and its handle, and all other calls have
returned. -/
structure Turn (s : Interleaving) (n : Nat) (handle : String) : Prop where
  others : ∀ (j : Nat) (call : Call), j ≠ n → s.calls[j]? = some call → call.isReturned = true
  mine : ∀ call, s.calls[n]? = some call → call.handle = handle ∧ call.isReturned = false

theorem turn_begins (idle : s.Idle) (handle : String) : s.Turn s.calls.length handle := by
  refine ⟨fun j call _ found => idle call (List.mem_of_getElem? found), ?_⟩
  intro call found
  rw [List.getElem?_eq_none (Nat.le_refl _)] at found
  cases found

/-- At most one call has not returned, and only registered handles have properties. -/
structure Tidy (s : Interleaving) : Prop where
  single : ∀ (i j : Nat) (a c : Call), s.calls[i]? = some a → s.calls[j]? = some c →
    a.isReturned = false → c.isReturned = false → i = j
  known : s.books.Known
  live : ∀ (i : Nat) (call : CreateCall) (key : Nat), s.calls[i]? = some (.create call) →
    call.key? = some key → s.books.registry.get? call.spec.handle ≠ none

theorem Tidy.turn {now : Instant} {event : Event} {call : Call} (tidy : s.Tidy)
    (admitted : s.Admits client (.event n now event)) (found : s.calls[n]? = some call) :
    s.Turn n call.handle := by
  refine ⟨?_, ?_⟩
  · intro j other hj hother
    by_contra busy
    exact hj (tidy.single j n other call hother found (by simpa using busy)
      (busy_of_admits admitted found))
  · intro other same
    cases found.symm.trans same
    exact ⟨rfl, busy_of_admits admitted found⟩

theorem Tidy.placed {r : Books × Call} (placed : Placed client s t n r) (turn : s.Turn n handle)
    (known : t.books.Known)
    (live : ∀ call key, r.2 = .create call → call.key? = some key →
      t.books.registry.get? call.spec.handle ≠ none) : t.Tidy := by
  have only : ∀ (j : Nat) (call : Call), t.calls[j]? = some call → call.isReturned = false →
      j = n := by
    intro j call found busy
    by_contra hj
    rw [placed.elsewhere j hj] at found
    rw [turn.others j call hj found] at busy
    cases busy
  refine ⟨?_, known, ?_⟩
  · intro i j a c ha hc busy busy'
    rw [only i a ha busy, only j c hc busy']
  · intro j call key found holds
    have hj := only j _ found (Call.busy_of_key? holds)
    subst hj
    exact live call key (Option.some.inj (placed.here.symm.trans found)) holds

theorem known_claiming {call : CreateCall} {claim : PortClaim} {r : Books × CreateCall}
    (h : CreateCall.Claiming client b call claim r) (known : b.Known) : r.1.Known := by
  cases h with
  | keeps same => exact known
  | abandons e => exact known
  | registers image env rootfsSize free => exact known.enrol _ _

theorem known_starting {spec : SandboxSpec} {deadline : Instant} {r : Books × CreateCall}
    (h : CreateCall.Starting client b spec deadline r) (known : b.Known) : r.1.Known := by
  cases h with
  | refused e => exact known
  | claims free made moved => exact known_claiming moved known

theorem live_of_registered {handle : String} {r : Books × CreateCall} {key : Nat}
    (h : CreateCall.Registered b handle r key) : r.1.registry.get? handle ≠ none := by
  rw [h.registry, Table.get?_insert_self]
  exact Option.some_ne_none _

theorem Tidy.step (h : s.Tidy) (admitted : s.Admits client m) (sequential : s.Sequential m) :
    (s.step client m).Tidy := by
  cases stepped admitted with
  | @starts spec deadline r hm moved placed =>
      subst hm
      apply Tidy.placed placed (turn_begins sequential spec.handle)
      · rw [placed.books]
        exact known_starting moved h.known
      · intro call key made holds
        cases made
        rw [placed.books, moved.spec_eq]
        exact live_of_registered (moved.registered holds)
  | @looks handle deadline hm placed =>
      subst hm
      apply Tidy.placed placed (turn_begins sequential handle)
      · rw [placed.books]
        exact h.known
      · intro call key moved
        cases moved
  | claiming hm found holds moved placed =>
      subst hm
      apply Tidy.placed placed (h.turn admitted found)
      · rw [placed.books]
        exact known_claiming moved h.known
      · intro call key made again
        cases made
        rw [placed.books, moved.spec_eq]
        exact live_of_registered (moved.registered again)
  | @attending i now event call key r hm found holds moved placed =>
      subst hm
      have registered := h.live i call key found holds
      apply Tidy.placed placed (h.turn admitted found)
      · rw [placed.books]
        cases moved with
        | waits same later => exact h.known
        | fails e => exact h.known
        | sees told same later => exact h.known
        | completes tasks =>
            have tended : (s.books.modify key fun x => { x with tasks }).Known := h.known
            exact tended.setProperty registered _ _
      · intro call key made again
        cases made
        rw [placed.books, moved.spec_eq, moved.registry_eq]
        exact registered
  | deleting hm found holds moved result placed =>
      subst hm
      apply Tidy.placed placed (h.turn admitted found)
      · rw [placed.books]
        cases moved with
        | waits same later => exact h.known
        | fails e first refused => exact h.known
        | forgets outcome => exact h.known.forget _ _
      · intro call key ended
        cases ended

/-! ## The destruction -/

/-- How far a destruction has come that began with the books `b` and the pod in hand. -/
inductive Destroying (b : Books) (n : Nat) (pod : Pod) (w : Interleaving) (call : DestroyCall) :
    Prop
  | asking : call.stage = .deleting pod → w.books = b → (∀ event, (n, event) ∉ w.told) →
      Destroying b n pod w call
  | waiting : call.pod? = some pod → call.stage ≠ .deleting pod → w.books = b →
      Destroying b n pod w call
  | failed : call.pod? = none →
      (∀ event, (n, event) ∈ w.told → event.grantsDeletion = false) → Destroying b n pod w call
  | forgotten : call.pod? = none → w.books = b.forget call.handle pod → Destroying b n pod w call

theorem destroying_start (client : Client) {handle : String} (deadline : Instant) {key : Nat}
    (logged : s.Logged) (registered : s.books.registry.get? handle = some key) :
    ∃ call, (s.step client (.destroy handle deadline)).calls[s.calls.length]? =
        some (.destroy call) ∧ call.handle = handle ∧
      Destroying s.books s.calls.length (s.books.sandbox key).pod
        (s.step client (.destroy handle deadline)) call := by
  have placed : Placed client s (s.step client (.destroy handle deadline)) s.calls.length
      (s.books, .destroy (DestroyCall.start s.books handle deadline)) := placed_begun _
  have started : DestroyCall.start s.books handle deadline =
      { handle, deadline, stage := .deleting (s.books.sandbox key).pod } := by
    simp only [DestroyCall.start, Books.lookup, Registry.get, registered]
  rw [started] at placed
  refine ⟨_, placed.here, rfl, .asking rfl placed.books ?_⟩
  intro event told
  exact absurd (logged.told _ told) (Nat.lt_irrefl _)

theorem Destroying.step {call : DestroyCall} {pod : Pod} {now : Instant} {event : Event}
    (h : Destroying b n pod w call) (found : w.calls[n]? = some (.destroy call))
    (admitted : w.Admits client (.event n now event)) :
    ∃ after, (w.step client (.event n now event)).calls[n]? = some (.destroy after) ∧
      after.handle = call.handle ∧
      Destroying b n pod (w.step client (.event n now event)) after := by
  cases stepped admitted with
  | starts hm => cases hm
  | looks hm => cases hm
  | claiming hm same =>
      cases hm
      cases found.symm.trans same
  | attending hm same =>
      cases hm
      cases found.symm.trans same
  | @deleting i _ _ _ q r hm same holds moved result placed =>
      cases hm
      cases found.symm.trans same
      refine ⟨r.2, placed.here, moved.handle_eq, ?_⟩
      -- While the destruction goes on, the books and the pod are those of its beginning.
      have going : q = pod ∧ w.books = b := by
        cases h with
        | asking stage books untold =>
            rw [DestroyCall.pod?, stage] at holds
            exact ⟨(Option.some.inj holds).symm, books⟩
        | waiting mine later books => exact ⟨Option.some.inj (holds.symm.trans mine), books⟩
        | failed ended untold =>
            rw [ended] at holds
            cases holds
        | forgotten ended books =>
            rw [ended] at holds
            cases holds
      obtain ⟨rfl, books⟩ := going
      cases moved with
      | waits again later =>
          refine .waiting again later ?_
          rw [placed.books]
          exact books
      | forgets outcome =>
          refine .forgotten rfl ?_
          rw [placed.books, ← books]
          rfl
      | fails e first refused =>
          refine .failed rfl ?_
          intro other told
          rw [told_step admitted] at told
          rcases List.mem_append.1 told with old | new
          · cases h with
            | asking stage books untold => exact (untold other old).elim
            | waiting mine later => exact (later first).elim
            | failed ended untold => exact untold other old
            | forgotten ended =>
                rw [ended] at holds
                cases holds
          · cases List.mem_singleton.1 new
            exact refused

/-- A destruction that has ended after its deletion was granted has forgotten its sandbox. -/
theorem Destroying.books_eq {call : DestroyCall} {pod : Pod} (h : Destroying b n pod w call)
    (ended : call.pod? = none)
    (granted : ∃ event, (n, event) ∈ w.told ∧ event.grantsDeletion = true) :
    w.books = b.forget call.handle pod := by
  cases h with
  | asking stage =>
      rw [DestroyCall.pod?, stage] at ended
      cases ended
  | waiting holds =>
      rw [holds] at ended
      cases ended
  | failed _ refused =>
      obtain ⟨event, told, grants⟩ := granted
      rw [refused event told] at grants
      cases grants
  | forgotten _ forgot => exact forgot

/-! ## Both together -/

theorem returned_of_idle {call : Call} (h : s.Idle) (found : s.calls[n]? = some call) :
    call.isReturned = true := h call (List.mem_of_getElem? found)

theorem tidy_of_connected {pods : List Pod} {books : Books}
    (connected : Connected pods client books) (run : Reaches client Orderly { books } s) :
    s.Tidy := by
  apply run.invariant (P := Tidy)
  · refine ⟨?_, connected.recovered.known, ?_⟩
    · intro i j a c found
      cases found
    · intro i call key found
      cases found
  · exact fun s m before admitted orderly => before.step admitted orderly.1

theorem exists_creating {spec : SandboxSpec} {deadline : Instant} (logged : s.Logged)
    (idle : s.Idle) (run : Reaches client Orderly (s.step client (.create spec deadline)) t)
    (alone : t.calls.length = s.calls.length + 1) :
    ∃ call, t.calls[s.calls.length]? = some (.create call) ∧ call.spec = spec ∧
      Creating s.books s.calls.length t call := by
  apply (Reaches.solo (Q := fun w => ∃ call, w.calls[s.calls.length]? = some (.create call) ∧
    call.spec = spec ∧ Creating s.books s.calls.length w call) idle run alone ?_ ?_).1
  · exact creating_start logged
  · intro w now event before admitted orderly
    obtain ⟨call, found, rfl, before⟩ := before
    exact before.step found admitted orderly.2

theorem exists_destroying {handle : String} {limit : Instant} {key : Nat} (logged : s.Logged)
    (idle : s.Idle) (registered : s.books.registry.get? handle = some key)
    (run : Reaches client Orderly (s.step client (.destroy handle limit)) t)
    (alone : t.calls.length = s.calls.length + 1) :
    ∃ call, t.calls[s.calls.length]? = some (.destroy call) ∧ call.handle = handle ∧
      Destroying s.books s.calls.length (s.books.sandbox key).pod t call := by
  apply (Reaches.solo (Q := fun w => ∃ call, w.calls[s.calls.length]? = some (.destroy call) ∧
    call.handle = handle ∧ Destroying s.books s.calls.length (s.books.sandbox key).pod w call)
    idle run alone ?_ ?_).1
  · exact destroying_start client limit logged registered
  · intro w now event before admitted orderly
    obtain ⟨call, found, rfl, before⟩ := before
    exact before.step found admitted

/-- A creation that did not register its handle has changed nothing and has asked for no change of
the cluster's pods. Otherwise, whatever it returned, a destruction that follows and whose deletion
is granted puts ports, handles and properties back as they were before the creation. -/
theorem creation_undone {pods : List Pod} {books : Books} {spec : SandboxSpec}
    {deadline : Instant} (connected : Connected pods client books)
    (run : Reaches client Orderly { books } s) (idle : s.Idle)
    (creation : Reaches client Orderly (s.step client (.create spec deadline)) t)
    (returned : t.Idle) (alone : t.calls.length = s.calls.length + 1) :
    (t.books.registry = s.books.registry → t.books = s.books ∧ t.Quiet s.calls.length) ∧
      (t.books.registry ≠ s.books.registry → ∀ limit u,
        Reaches client Orderly (t.step client (.destroy spec.handle limit)) u → u.Idle →
        u.calls.length = t.calls.length + 1 →
        (∃ event, (t.calls.length, event) ∈ u.told ∧ event.grantsDeletion = true) →
        u.books.ports = s.books.ports ∧ u.books.registry = s.books.registry ∧
          u.books.properties = s.books.properties ∧
          s.books.sandboxes <+: u.books.sandboxes) := by
  have logged := run.logged (logged_start books)
  have tidy := tidy_of_connected connected run
  obtain ⟨call, found, rfl, created⟩ := exists_creating logged idle creation alone
  have ended := returned_of_idle returned found
  cases created with
  | refused _ same quiet => exact ⟨fun _ => ⟨same, quiet⟩, fun other => (other (by rw [same])).elim⟩
  | claiming holds =>
      obtain ⟨spec, deadline, stage⟩ := call
      cases stage with
      | finished result => cases holds
      | _ => cases ended
  | @registered x sent vacant keys added submitted spec =>
      constructor
      · intro same
        have here := added.registered
        rw [same, added.absent] at here
        cases here
      · intro _ limit u destruction rest last granted
        have absent : s.books.properties.spaces.get? call.spec.handle = none := by
          by_contra space
          exact tidy.known _ space added.absent
        obtain ⟨after, found, handle, destroyed⟩ := exists_destroying
          (creation.logged (logged.step trivial)) returned added.registered destruction last
        rw [added.sandbox] at destroyed
        have done := Call.pod?_of_returned (returned_of_idle rest found)
        rw [destroyed.books_eq done granted, handle]
        obtain ⟨ports, registry, properties⟩ := added.forget absent
        refine ⟨ports, registry, properties, ?_⟩
        change s.books.sandboxes <+: t.books.sandboxes
        rw [added.sandboxes]
        exact List.prefix_append _ _

/-- A creation whose pod the cluster turns down. -/
def turnedDown (client : Client) (books : Books) : Interleaving :=
  (step client { books }
    (.create { handle := "job", image := .ofUri "rootfs", ports := [⟨0, 80⟩] } 10)).step client
    (.event 0 0 (.answered (.pod (.error (.api 500 "unavailable")))))

/-- The destruction after it, whose deadline passes while the pod is being read. -/
def cleanedUp (client : Client) (books : Books) : Interleaving :=
  (((turnedDown client books).step client (.destroy "job" 10)).step client
    (.event 1 0 (.answered (.deleted (.ok ()))))).step client (.event 1 10 .expired)

theorem turned_down_creation_undone : ∃ (client : Client) (books : Books),
    Connected [.publishing "web" 62000] client books ∧
      (turnedDown client books).books.ports.held = [62000, 62001] ∧
      (cleanedUp client books).books.ports = books.ports ∧
      (cleanedUp client books).books.registry = books.registry ∧
      (cleanedUp client books).books.properties = books.properties ∧
      books.sandboxes <+: (cleanedUp client books).books.sandboxes := by
  refine ⟨_, _, ⟨{}, "node", {}, [], rfl⟩, by decide, ?_⟩
  have connected : Connected [.publishing "web" 62000] _ _ := ⟨{}, "node", {}, [], rfl⟩
  refine (creation_undone (t := turnedDown _ _) connected .start ?_
    (.step .start ⟨_, rfl, rfl⟩ ⟨trivial, trivial⟩) ?_ rfl).2 ?_ 10 (cleanedUp _ _)
    (.step (.step .start ⟨_, rfl, rfl⟩ ⟨trivial, trivial⟩) ⟨_, rfl, rfl⟩ ⟨trivial, trivial⟩)
    ?_ rfl ⟨.answered (.deleted (.ok ())), ?_, rfl⟩
  · intro call member
    cases member
  · intro call member
    cases List.mem_singleton.1 member
    rfl
  · decide
  · intro call member
    rcases List.mem_cons.1 member with rfl | member
    · rfl
    · cases List.mem_singleton.1 member
      rfl
  · exact List.mem_cons_of_mem _ List.mem_cons_self

end Interleaving
end SandboxPods
