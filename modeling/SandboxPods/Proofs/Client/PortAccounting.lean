import SandboxPods.Proofs.Client.Accounts
import SandboxPods.Proofs.Client.Connection

/-!
# Port accounting over interleaved calls

Calls of one client run in any order between their waits. Two things are expected
of those around it: the cluster hands a pod back as it was submitted, and a
destruction shares no time with another call on its handle. Then the held ports are
divided among the registered sandboxes and the creations on their way, in every
state that is ever reached.

The first expectation alone keeps the accounts right up to the moment at which a
destruction strays, that is, gives back a port that is someone else's.
-/
namespace SandboxPods.Interleaving

/-! ## The accounts of an interleaving -/

/-- The ports of an owner. -/
def portsOf (s : Interleaving) (owner : Owner) : List UInt16 :=
  SandboxPods.portsOf s.books s.claims owner

/-- The move ends a destruction, which forgets the handle with the ports of the pod. -/
def Forgets (client : Client) (s : Interleaving) (m : Move) (handle : String) (pod : Pod) : Prop :=
  ∃ (position : Nat) (now : Instant) (event : Event) (call : DestroyCall)
    (result : Except LifecycleError Unit), m = .event position now event ∧
    s.calls[position]? = some (.destroy call) ∧ call.handle = handle ∧ call.pod? = some pod ∧
    call.resume client now s.books event = call.forget s.books pod result

/-- The move ends a destruction, which gives back a port that is someone else's. -/
def Strays (client : Client) (s : Interleaving) (m : Move) : Prop :=
  ∃ handle pod, s.Forgets client m handle pod ∧
    ∃ owner, owner ≠ .sandbox handle ∧ ∃ p ∈ s.portsOf owner, p ∈ pod.hostPorts

/-- The accounts are right, and a creation whose sandbox is registered has submitted its pod. -/
structure Sound (s : Interleaving) (spare : List UInt16) : Prop where
  accounts : Accounts s.books s.claims spare
  sent : ∀ i call key, s.calls[i]? = some (.create call) → call.key? = some key →
    key < s.books.sandboxes.length ∧ ∀ h, s.books.registry.get? h = some key →
      h = call.spec.handle ∧ ∃ pod, s.Submitted i pod ∧ pod.spec = (s.books.sandbox key).pod.spec

variable {client : Client} {s t : Interleaving} {m : Move} {i : Nat} {spare : List UInt16}

/-! ## One move -/

/-- No sandbox is lost, only new ones are registered, and the pods of the registered ones keep
their specifications. -/
structure Grows (b c : Books) : Prop where
  length : b.sandboxes.length ≤ c.sandboxes.length
  registered : ∀ h key, key < b.sandboxes.length → c.registry.get? h = some key →
    b.registry.get? h = some key
  specs : ∀ h key, b.registry.get? h = some key →
    (c.sandbox key).pod.spec = (b.sandbox key).pod.spec

theorem Grows.refl (b : Books) : Grows b b :=
  ⟨Nat.le_refl _, fun _ _ _ found => found, fun _ _ _ => rfl⟩

theorem grows_forget (b : Books) (handle : String) (pod : Pod) :
    Grows b (b.forget handle pod) :=
  ⟨Nat.le_refl _, fun _ _ _ found => (Books.get?_forget_of_some found).2, fun _ _ _ => rfl⟩

theorem grows_claiming {b : Books} {call : CreateCall} {claim : PortClaim} {r : Books × CreateCall}
    (h : CreateCall.Claiming client b call claim r)
    (keys : b.Keyed) : Grows b r.1 := by
  cases h with
  | keeps same => exact .refl b
  | abandons e =>
      obtain ⟨length, registered, specs⟩ := Grows.refl b
      exact ⟨length, registered, specs⟩
  | registers image env rootfsSize free =>
      refine ⟨by simp [Books.enrol], ?_, ?_⟩
      · intro h key lt found
        rw [Books.get?_enrol] at found
        split at found
        · cases found
          omega
        · exact found
      · intro h key found
        rw [Books.sandbox_enrol (keys h key found)]

theorem grows_starting {b : Books} {spec : SandboxSpec} {deadline : Instant}
    {r : Books × CreateCall} (h : CreateCall.Starting client b spec deadline r)
    (keys : b.Keyed) : Grows b r.1 := by
  cases h with
  | refused e => exact .refl b
  | @claims ports claim _ free made moved =>
      obtain ⟨length, registered, specs⟩ := grows_claiming moved keys
      exact ⟨length, registered, specs⟩

/-- The pod that a creation reads is the one that it submitted, as long as its sandbox is
registered. -/
theorem grows_attending {call : CreateCall} {key : Nat} {event : Event} {r : Books × CreateCall}
    (h : CreateCall.Attending s.books call key event r) (sound : s.Sound spare)
    (found : s.calls[i]? = some (.create call)) (holds : call.key? = some key)
    {now : Instant} (handsBack : s.HandsBack (.event i now event)) : Grows s.books r.1 := by
  obtain ⟨lt, sent⟩ := sound.sent i call key found holds
  have modified (f : Sandbox → Sandbox) (kept : ∀ h, s.books.registry.get? h = some key →
      (f (s.books.sandbox key)).pod.spec = (s.books.sandbox key).pod.spec) :
      Grows s.books (s.books.modify key f) := by
    refine ⟨(Books.length_modify ..).ge, fun _ _ _ registered => registered, ?_⟩
    intro h k registered
    by_cases hk : key = k
    · subst hk
      rw [Books.sandbox_modify_self lt, kept h registered]
    · rw [Books.sandbox_modify_ne hk]
  cases h with
  | waits same later => exact .refl _
  | fails e => exact .refl _
  | completes tasks =>
      obtain ⟨length, registered, specs⟩ := modified (fun x => { x with tasks }) fun _ _ => rfl
      exact ⟨length, registered, specs⟩
  | @sees stage pod told same later =>
      subst told
      apply modified
      intro h registered
      obtain ⟨rfl, before, submitted, same⟩ := sent h registered
      exact (handsBack call key before found holds registered submitted).trans same

/-- Only the call at the position of the move needs to be looked at again. -/
theorem Sound.placed {after : List UInt16} {r : Books × Call} (h : s.Sound spare)
    (placed : Placed client s t i r) (accounts : Accounts t.books t.claims after)
    (grows : Grows s.books t.books)
    (sent : ∀ call key, r.2 = .create call → call.key? = some key →
      key < t.books.sandboxes.length ∧ ∀ h, t.books.registry.get? h = some key →
        h = call.spec.handle ∧
          ∃ pod, t.Submitted i pod ∧ pod.spec = (t.books.sandbox key).pod.spec) :
    t.Sound after := by
  refine ⟨accounts, ?_⟩
  intro j call key found holds
  by_cases hj : j = i
  · subst hj
    exact sent call key (Option.some.inj (placed.here.symm.trans found)) holds
  · rw [placed.elsewhere j hj] at found
    obtain ⟨lt, before⟩ := h.sent j call key found holds
    refine ⟨Nat.lt_of_lt_of_le lt grows.length, ?_⟩
    intro k registered
    have old := grows.registered k key lt registered
    obtain ⟨handle, pod, submitted, same⟩ := before k old
    exact ⟨handle, pod, placed.submitted submitted, same.trans (grows.specs k key old).symm⟩

/-- The pod that a creation submits is that of the sandbox it has just registered. -/
theorem Sound.sent_now {r : Books × CreateCall} {handle : String} {key : Nat} (h : s.Sound spare)
    (placed : Placed client s t i (r.1, .create r.2))
    (now : CreateCall.Registered s.books handle r key) :
    key < t.books.sandboxes.length ∧ ∀ k, t.books.registry.get? k = some key →
      k = handle ∧ ∃ pod, t.Submitted i pod ∧ pod.spec = (t.books.sandbox key).pod.spec := by
  rw [placed.books]
  refine ⟨now.known, ?_⟩
  intro k registered
  refine ⟨?_, _, placed.submitted_now now.stage, rfl⟩
  by_contra other
  rw [now.registry, Table.get?_insert_ne _ _ other] at registered
  have := h.accounts.keys k key registered
  have := now.newest
  omega

/-- A destruction that leaves the books as they were. -/
theorem Sound.quiet {call : DestroyCall} (h : s.Sound spare) (vacant : s.claims i = none)
    (placed : Placed client s t i (s.books, .destroy call)) : t.Sound spare := by
  apply h.placed placed
  · rw [placed.claims_same vacant.symm, placed.books]
    exact h.accounts
  · rw [placed.books]
    exact .refl _
  · intro call key hcall
    cases hcall

/-- A destruction that gives back nobody else's ports. -/
theorem Sound.forgetting {call : DestroyCall} {pod : Pod} {after : DestroyCall} (h : s.Sound spare)
    (vacant : s.claims i = none) (forgets : s.Forgets client m call.handle pod)
    (level : ¬ s.Strays client m)
    (placed : Placed client s t i (s.books.forget call.handle pod, .destroy after)) :
    t.Sound (Accounts.leftover s.books spare call.handle pod) := by
  apply h.placed placed
  · rw [placed.claims_same vacant.symm, placed.books]
    apply h.accounts.forget
    intro owner other p listed declared
    exact level ⟨_, _, forgets, owner, other, p, listed, declared⟩
  · rw [placed.books]
    exact grows_forget ..
  · intro call key hcall
    cases hcall

/-- A move that does not stray keeps the accounts right. Ports become spare only when a
destruction forgets its handle with a pod that does not declare them. -/
theorem Sound.step (h : s.Sound spare) (admitted : s.Admits client m) (handsBack : s.HandsBack m)
    (level : ¬ s.Strays client m) : ∃ after, (s.step client m).Sound after ∧
      ∀ p ∈ after, p ∈ spare ∨ ∃ handle pod, s.Forgets client m handle pod ∧
        p ∈ s.books.declared handle ∧ p ∉ pod.hostPorts := by
  cases stepped admitted with
  | @starts spec deadline r hm moved placed =>
      refine ⟨spare, h.placed placed ?_ ?_ ?_, fun p hp => .inl hp⟩
      · rw [placed.claims_eq, placed.books]
        exact h.accounts.starting s.claims_vacant moved
      · rw [placed.books]
        exact grows_starting moved h.accounts.keys
      · intro call key made holds
        cases made
        rw [moved.spec_eq]
        exact h.sent_now placed (moved.registered holds)
  | looks hm placed => exact ⟨spare, h.quiet s.claims_vacant placed, fun p hp => .inl hp⟩
  | @claiming i now event call claim r hm found holds moved placed =>
      refine ⟨spare, h.placed placed ?_ ?_ ?_, fun p hp => .inl hp⟩
      · rw [placed.claims_eq, placed.books]
        exact h.accounts.claiming ((claims_of_create found).trans holds) moved
      · rw [placed.books]
        exact grows_claiming moved h.accounts.keys
      · intro call key made again
        cases made
        rw [moved.spec_eq]
        exact h.sent_now placed (moved.registered again)
  | @attending i now event call key r hm found holds moved placed =>
      subst hm
      have grows := grows_attending moved h found holds handsBack
      refine ⟨spare, h.placed placed ?_ ?_ ?_, fun p hp => .inl hp⟩
      · have vacant : s.claims i = none :=
          (claims_of_create found).trans (CreateCall.claim?_of_key? holds)
        rw [placed.claims_same (moved.claim?.trans vacant.symm), placed.books]
        exact h.accounts.congr moved.ports_eq moved.registry_eq grows.length grows.specs
      · rw [placed.books]
        exact grows
      · intro after k made again
        cases made
        rw [moved.key_eq again, moved.spec_eq, placed.books]
        obtain ⟨lt, sent⟩ := h.sent i call key found holds
        refine ⟨Nat.lt_of_lt_of_le lt grows.length, ?_⟩
        intro k registered
        rw [moved.registry_eq] at registered
        obtain ⟨handle, pod, submitted, same⟩ := sent k registered
        exact ⟨handle, pod, placed.submitted submitted,
          same.trans (grows.specs k key registered).symm⟩
  | @deleting i now event call pod r hm found holds moved result placed =>
      have vacant : s.claims i = none := claims_of_destroy found
      cases moved with
      | waits same later => exact ⟨spare, h.quiet vacant placed, fun p hp => .inl hp⟩
      | fails e first refused => exact ⟨spare, h.quiet vacant placed, fun p hp => .inl hp⟩
      | forgets outcome =>
          have forgets : s.Forgets client m call.handle pod :=
            ⟨i, now, event, call, outcome, hm, found, rfl, holds, result⟩
          refine ⟨_, h.forgetting vacant forgets level placed, ?_⟩
          intro p hp
          obtain ⟨kept, out⟩ := Accounts.mem_leftover.1 hp
          exact kept.imp id (fun declared => ⟨_, _, forgets, declared, out⟩)

/-- Calls that begin give nothing back. -/
theorem not_strays_of_begins (begins : m.telling = []) : ¬ s.Strays client m := by
  intro strays
  obtain ⟨handle, pod, forgets, -⟩ := strays
  obtain ⟨i, now, event, call, result, rfl, -⟩ := forgets
  cases begins

theorem not_strays_of_create {call : CreateCall} {now : Instant} {event : Event}
    (found : s.calls[i]? = some (.create call)) : ¬ s.Strays client (.event i now event) := by
  intro strays
  obtain ⟨handle, pod, forgets, -⟩ := strays
  obtain ⟨j, _, _, other, result, same, destroys, -⟩ := forgets
  cases same
  cases found.symm.trans destroys

/-- A destruction that gives back only ports of its own sandbox does not stray. -/
theorem Sound.not_strays (h : s.Sound spare)
    (own : ∀ handle pod, s.Forgets client m handle pod → ∀ p ∈ pod.hostPorts,
      s.books.ports.contains p = true → p ∈ s.books.declared handle) : ¬ s.Strays client m := by
  intro strays
  obtain ⟨handle, pod, forgets, owner, other, p, listed, declared⟩ := strays
  have held : p ∈ s.books.ports.held := (h.accounts.ledger.held p).2 ⟨some owner, listed⟩
  have mine := own handle pod forgets p declared (PortPool.contains_of_held held)
  have same := h.accounts.ledger.apart (some owner) (some (.sandbox handle)) p listed mine
  exact other (Option.some.inj same)

/-! ## Destructions that are alone on their handle -/

/-- A destruction has in hand the pod of the sandbox that is registered under its handle, and
every other destruction of that handle has returned. -/
def Alone (s : Interleaving) : Prop :=
  ∀ (i : Nat) (call : DestroyCall) (pod : Pod), s.calls[i]? = some (.destroy call) →
    call.pod? = some pod → (∃ key, s.books.registry.get? call.handle = some key ∧
      (s.books.sandbox key).pod.spec = pod.spec) ∧
    ∀ (j : Nat) (other : DestroyCall), j ≠ i → s.calls[j]? = some (.destroy other) →
      other.handle = call.handle → other.pod? = none

/-- A destruction that is alone gives back what its sandbox owns. -/
theorem Alone.declared_iff (h : s.Alone) {handle : String} {pod : Pod}
    (forgets : s.Forgets client m handle pod) (p : UInt16) :
    p ∈ s.books.declared handle ↔ p ∈ pod.hostPorts ∧ s.books.ports.contains p = true := by
  obtain ⟨i, now, event, call, result, -, found, rfl, holds, -⟩ := forgets
  obtain ⟨⟨key, registered, same⟩, -⟩ := h i call pod found holds
  rw [Books.mem_declared registered, Pod.hostPorts_congr same]

theorem Alone.not_strays (h : s.Alone) (sound : s.Sound spare) : ¬ s.Strays client m := by
  apply sound.not_strays
  intro handle pod forgets p declared inside
  exact (h.declared_iff forgets p).2 ⟨declared, inside⟩

/-- Handles that destructions are about stay registered. -/
theorem Alone.placed {r : Books × Call} (h : s.Alone) (placed : Placed client s t i r)
    (grows : Grows s.books t.books)
    (kept : ∀ (j : Nat) (other : DestroyCall) (pod : Pod) (key : Nat), j ≠ i →
      s.calls[j]? = some (.destroy other) → other.pod? = some pod →
      s.books.registry.get? other.handle = some key →
      t.books.registry.get? other.handle = some key)
    (others : ∀ (j : Nat) (other call : DestroyCall) (pod : Pod), j ≠ i →
      s.calls[j]? = some (.destroy other) → other.pod? = some pod → r.2 = .destroy call →
      call.handle = other.handle → call.pod? = none)
    (own : ∀ (call : DestroyCall) (pod : Pod), r.2 = .destroy call → call.pod? = some pod →
      (∃ key, t.books.registry.get? call.handle = some key ∧
        (t.books.sandbox key).pod.spec = pod.spec) ∧
      ∀ (j : Nat) (other : DestroyCall), j ≠ i → s.calls[j]? = some (.destroy other) →
        other.handle = call.handle → other.pod? = none) : t.Alone := by
  intro j call pod found holds
  by_cases hj : j = i
  · subst hj
    obtain ⟨mine, rest⟩ := own call pod (Option.some.inj (placed.here.symm.trans found)) holds
    refine ⟨mine, ?_⟩
    intro k other hk hother
    rw [placed.elsewhere k hk] at hother
    exact rest k other hk hother
  · rw [placed.elsewhere j hj] at found
    obtain ⟨⟨key, registered, same⟩, rest⟩ := h j call pod found holds
    refine ⟨⟨key, kept j call pod key hj found holds registered, ?_⟩, ?_⟩
    · rw [grows.specs _ key registered, same]
    · intro k other hk hother handle
      by_cases hki : k = i
      · subst hki
        have moved : r.2 = .destroy other := Option.some.inj (placed.here.symm.trans hother)
        exact others j call other pod hj found holds moved handle
      · rw [placed.elsewhere k hki] at hother
        exact rest k other hk hother handle

/-- A creation leaves destructions alone. -/
theorem Alone.create {b : Books} {call : CreateCall} (h : s.Alone)
    (placed : Placed client s t i (b, .create call)) (grows : Grows s.books b)
    (kept : ∀ k key, s.books.registry.get? k = some key → b.registry.get? k = some key) :
    t.Alone := by
  apply h.placed placed
  · rw [placed.books]
    exact grows
  · intro j other pod key _ _ _ registered
    rw [placed.books]
    exact kept _ key registered
  · intro j other after pod _ _ _ moved
    cases moved
  · intro after pod moved
    cases moved

theorem registry_claiming {b : Books} {call : CreateCall} {claim : PortClaim}
    {r : Books × CreateCall} (h : CreateCall.Claiming client b call claim r) {k : String}
    {key : Nat} (registered : b.registry.get? k = some key) :
    r.1.registry.get? k = some key := by
  cases h with
  | keeps same => exact registered
  | abandons e => exact registered
  | registers image env rootfsSize free =>
      rw [Books.get?_enrol, if_neg, registered]
      intro same
      subst same
      have absent : b.registry.get? call.spec.handle = none := Table.get?_eq_none free
      exact Option.some_ne_none key (registered.symm.trans absent)

theorem registry_starting {b : Books} {spec : SandboxSpec} {deadline : Instant}
    {r : Books × CreateCall} (h : CreateCall.Starting client b spec deadline r) {k : String}
    {key : Nat} (registered : b.registry.get? k = some key) :
    r.1.registry.get? k = some key := by
  cases h with
  | refused e => exact registered
  | claims free made moved => exact registry_claiming moved registered

/-- A destruction is begun when every other one of its handle has returned. -/
theorem Alone.looking {handle : String} {deadline : Instant} (h : s.Alone)
    (apart : s.SeparatesDestructions (.destroy handle deadline))
    (placed : Placed client s t s.calls.length
      (s.books, .destroy (DestroyCall.start s.books handle deadline))) : t.Alone := by
  have returned (j : Nat) (other : DestroyCall) (found : s.calls[j]? = some (.destroy other))
      (same : other.handle = handle) : other.pod? = none :=
    Call.pod?_of_returned (apart other (List.mem_of_getElem? found) same)
  apply h.placed placed
  · rw [placed.books]
    exact .refl _
  · intro j other pod key _ _ _ registered
    rw [placed.books]
    exact registered
  · intro j other call pod _ found holds moved same
    cases moved
    rw [DestroyCall.start_handle] at same
    rw [returned j other found same.symm] at holds
    cases holds
  · intro call pod moved holds
    cases moved
    obtain ⟨key, registered, rfl⟩ := DestroyCall.start_pod? holds
    rw [DestroyCall.start_handle, placed.books]
    exact ⟨⟨key, registered, rfl⟩, fun j other _ found same => returned j other found same⟩

theorem Alone.deleting {call : DestroyCall} {pod : Pod} {event : Event} {r : Books × DestroyCall}
    (h : s.Alone) (found : s.calls[i]? = some (.destroy call)) (holds : call.pod? = some pod)
    (moved : DestroyCall.Deleting s.books call pod event r)
    (placed : Placed client s t i (r.1, .destroy r.2)) : t.Alone := by
  -- No other destruction of the handle has a pod in hand.
  have away (j : Nat) (other : DestroyCall) (q : Pod) (hj : j ≠ i)
      (hother : s.calls[j]? = some (.destroy other)) (hq : other.pod? = some q) :
      call.handle ≠ other.handle := by
    intro same
    rw [(h j other q hother hq).2 i call hj.symm found same] at holds
    cases holds
  have grows : Grows s.books r.1 := by
    cases moved with
    | waits same later => exact .refl _
    | fails e first refused => exact .refl _
    | forgets outcome => exact grows_forget ..
  apply h.placed placed
  · rw [placed.books]
    exact grows
  · intro j other q key hj hother hq registered
    rw [placed.books]
    cases moved with
    | waits same later => exact registered
    | fails e first refused => exact registered
    | forgets outcome =>
        exact (Table.get?_erase_ne _ (away j other q hj hother hq).symm).trans registered
  · intro j other after q hj hother hq ended same
    cases ended
    exact (away j other q hj hother hq (moved.handle_eq.symm.trans same)).elim
  · intro after q ended hq
    cases ended
    cases moved with
    | waits same later =>
        cases Option.some.inj (same.symm.trans hq)
        rw [placed.books]
        exact h i call pod found holds
    | fails e first refused => cases hq
    | forgets outcome => cases hq

theorem Alone.step (h : s.Alone) (sound : s.Sound spare) (admitted : s.Admits client m)
    (apart : s.SeparatesDestructions m) (handsBack : s.HandsBack m) :
    (s.step client m).Alone := by
  cases stepped admitted with
  | starts hm moved placed =>
      exact h.create placed (grows_starting moved sound.accounts.keys)
        (fun k key registered => registry_starting moved registered)
  | claiming hm found holds moved placed =>
      exact h.create placed (grows_claiming moved sound.accounts.keys)
        (fun k key registered => registry_claiming moved registered)
  | attending hm found holds moved placed =>
      subst hm
      apply h.create placed (grows_attending moved sound found holds handsBack)
      intro k key registered
      rw [moved.registry_eq, registered]
  | looks hm placed =>
      subst hm
      exact h.looking apart placed
  | deleting hm found holds moved result placed => exact h.deleting found holds moved placed

/-! ## From the connection on -/

theorem accounts_start {pods : List Pod} {books : Books}
    (recovered : ConnectCall.Recovered pods books) (distinct : PortsDistinct pods) :
    Accounts books (fun _ => none) [] := by
  have entry : ∀ h p, p ∈ books.declared h → ∃ pod ∈ pods, pod.name = h ∧ p ∈ pod.hostPorts ∧
      PortPool.empty.contains p = true := by
    intro h p listed
    cases found : books.registry.get? h with
    | none =>
        rw [Books.declared_of_absent found] at listed
        cases listed
    | some key =>
        obtain ⟨-, member, name⟩ := recovered.entries h key found
        obtain ⟨declared, inside⟩ := (Books.mem_declared found).1 listed
        rw [recovered.range.contains_eq p] at inside
        exact ⟨_, member, name, declared, inside⟩
  refine ⟨⟨?_, ?_⟩, ?_, ?_, recovered.range⟩
  · intro p
    rw [recovered.held p]
    constructor
    · intro declares
      obtain ⟨inside, pod, member, declared⟩ := declares
      obtain ⟨key, found, same⟩ := recovered.registered pod member
      refine ⟨some (.sandbox pod.name), (Books.mem_declared found).2 ⟨same ▸ declared, ?_⟩⟩
      rw [recovered.range.contains_eq p]
      exact inside
    · intro owned
      obtain ⟨o, listed⟩ := owned
      match o with
      | none => cases listed
      | some (.creation j) => cases listed
      | some (.sandbox h) =>
          obtain ⟨pod, member, -, declared, inside⟩ := entry h p listed
          exact ⟨inside, pod, member, declared⟩
  · intro o o' p listed listed'
    match o, o' with
    | none, _ => cases listed
    | some (.creation j), _ => cases listed
    | _, none => cases listed'
    | _, some (.creation j) => cases listed'
    | some (.sandbox h), some (.sandbox h') =>
        obtain ⟨pod, member, rfl, declared, inside⟩ := entry h p listed
        obtain ⟨pod', member', rfl, declared', -⟩ := entry h' p listed'
        by_cases same : pod = pod'
        · rw [same]
        · exact (distinct.apart member member' same inside declared declared').elim
  · intro i claim found
    cases found
  · exact fun h key found => (recovered.entries h key found).1

variable {pods : List Pod} {books : Books}

theorem sound_start (connected : Connected pods client books) (distinct : PortsDistinct pods) :
    ({ books } : Interleaving).Sound [] := by
  refine ⟨accounts_start connected.recovered distinct, ?_⟩
  intro i call key found
  cases found

/-- As long as destructions of one handle share no time, nothing is spare and none strays. -/
theorem sound_of_apart (connected : Connected pods client books) (distinct : PortsDistinct pods)
    (run : Reaches client (fun s m => s.SeparatesDestructions m ∧ s.HandsBack m) { books } t) :
    t.Sound [] ∧ t.Alone := by
  apply run.invariant (P := fun s => s.Sound [] ∧ s.Alone)
  · refine ⟨sound_start connected distinct, ?_⟩
    intro i call pod found
    cases found
  · rintro s m ⟨sound, alone⟩ admitted ⟨apart, handsBack⟩
    refine ⟨?_, alone.step sound admitted apart handsBack⟩
    obtain ⟨after, sound', origin⟩ := sound.step admitted handsBack (alone.not_strays sound)
    -- A destruction that is alone leaves nothing over.
    have none_left : after = [] := by
      apply List.eq_nil_iff_forall_not_mem.2
      intro p hp
      rcases origin p hp with old | ⟨handle, pod, forgets, mine, out⟩
      · cases old
      · exact out ((alone.declared_iff forgets p).1 mine).1
    exact none_left ▸ sound'

/-- Destructions of one handle that share no time do not stray. -/
theorem level_of_apart (connected : Connected pods client books) (distinct : PortsDistinct pods)
    (run : Reaches client (fun s m => s.SeparatesDestructions m ∧ s.HandsBack m) { books } t) :
    Reaches client (fun s m => s.HandsBack m ∧ ¬ s.Strays client m) { books } t := by
  induction run with
  | start => exact .start
  | step before admitted expected ih =>
      obtain ⟨sound, alone⟩ := sound_of_apart connected distinct before
      exact ih.step admitted ⟨expected.2, alone.not_strays sound⟩

/-- Up to the first destruction that strays the accounts are right. -/
theorem sound_of_level (connected : Connected pods client books) (distinct : PortsDistinct pods)
    (run : Reaches client (fun s m => s.HandsBack m ∧ ¬ s.Strays client m) { books } t) :
    ∃ spare, t.Sound spare := by
  apply run.invariant (P := fun s => ∃ spare, s.Sound spare)
  · exact ⟨[], sound_start connected distinct⟩
  · rintro s m ⟨spare, sound⟩ admitted ⟨handsBack, level⟩
    obtain ⟨after, sound', -⟩ := sound.step admitted handsBack level
    exact ⟨after, sound'⟩

/-- The held ports are divided among the registered sandboxes, each of which owns the pool's own
ports that its pod declares, and the creations that have neither registered nor returned, each of
which owns the ports that it claimed. -/
theorem held_ports_divided (connected : Connected pods client books)
    (distinct : PortsDistinct pods)
    (run : Reaches client (fun s m => s.Separates m ∧ s.HandsBack m) { books } t) :
    (∀ p, p ∈ t.books.ports.held ↔ ∃ owner, p ∈ t.portsOf owner) ∧
      ∀ owner other p, p ∈ t.portsOf owner → p ∈ t.portsOf other → owner = other := by
  obtain ⟨sound, -⟩ := sound_of_apart connected distinct
    (run.mono fun s m expected => ⟨Separates.destructions expected.1, expected.2⟩)
  constructor
  · intro p
    rw [sound.accounts.ledger.held p]
    constructor
    · intro owned
      obtain ⟨o, listed⟩ := owned
      match o with
      | none => cases listed
      | some owner => exact ⟨owner, listed⟩
    · intro owned
      obtain ⟨owner, listed⟩ := owned
      exact ⟨some owner, listed⟩
  · intro owner other p listed listed'
    exact Option.some.inj (sound.accounts.ledger.apart (some owner) (some other) p listed listed')

theorem held_ports_divided_beside_creation : ∃ (client : Client) (books : Books),
    Connected [.publishing "web" 62000] client books ∧
      let t := ({ books } : Interleaving).step client
        (.create { handle := "job", image := .ofUri "docker:///busybox", ports := [⟨0, 80⟩] } 0)
      (∀ p, p ∈ t.books.ports.held ↔ ∃ owner, p ∈ t.portsOf owner) ∧
        ∀ owner other p, p ∈ t.portsOf owner → p ∈ t.portsOf other → owner = other := by
  have connected : ∃ client books, Connected [.publishing "web" 62000] client books :=
    ⟨_, _, {}, "node", {}, [], rfl⟩
  obtain ⟨client, books, connected⟩ := connected
  refine ⟨client, books, connected, ?_⟩
  apply held_ports_divided connected (List.pairwise_singleton _ _)
  refine .step .start trivial ⟨?_, trivial⟩
  intro call member
  cases member

end SandboxPods.Interleaving
