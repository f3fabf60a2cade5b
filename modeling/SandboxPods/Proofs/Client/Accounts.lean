import SandboxPods.Proofs.Client.Interleaving
import SandboxPods.Proofs.PortLedger

/-!
# Who holds which port

The ports of the pool belong to the registered sandboxes and to the creations that
are still on their way to registration. A sandbox owns the ports of the pool that
its pod declares, a creation those that it claimed. Ports that are held for no one
can only come from a sandbox that was registered again while an earlier destruction
still had its old pod in hand; they are kept apart as spare ports.

The accounts are right as long as a destruction gives back no port of anyone else.
Each operation on the books has one lemma here, and a move of an interleaving is
made up of such operations.
-/
namespace SandboxPods

namespace Books

/-- The ports of the pool that the pod of a registered sandbox declares. -/
def declared (b : Books) (handle : String) : List UInt16 :=
  match b.registry.get? handle with
  | some key => (b.sandbox key).pod.hostPorts.filter b.ports.contains
  | none => []

variable {b c : Books} {h : String} {key : Nat} {p : UInt16}

theorem declared_of_get? (registered : b.registry.get? h = some key) :
    b.declared h = (b.sandbox key).pod.hostPorts.filter b.ports.contains := by
  rw [declared, registered]

theorem declared_of_absent (free : b.registry.get? h = none) : b.declared h = [] := by
  rw [declared, free]

theorem mem_declared (registered : b.registry.get? h = some key) :
    p ∈ b.declared h ↔ p ∈ (b.sandbox key).pod.hostPorts ∧ b.ports.contains p = true := by
  rw [declared_of_get? registered, List.mem_filter]

theorem declared_congr (registry : c.registry.get? h = b.registry.get? h)
    (range : PortPool.SameRange c.ports b.ports)
    (specs : ∀ key, b.registry.get? h = some key →
      (c.sandbox key).pod.spec = (b.sandbox key).pod.spec) : c.declared h = b.declared h := by
  have contains : c.ports.contains = b.ports.contains := funext range.contains_eq
  cases found : b.registry.get? h with
  | none => rw [declared_of_absent found, declared_of_absent (registry.trans found)]
  | some key =>
      rw [declared_of_get? found, declared_of_get? (registry.trans found), contains,
        Pod.hostPorts_congr (specs key found)]

theorem declared_releasePorts (b : Books) (ports : List UInt16) (h : String) :
    (b.releasePorts ports).declared h = b.declared h :=
  declared_congr rfl (PortPool.sameRange_releaseAll b.ports ports) (fun _ _ => rfl)

end Books

/-! ## Owners and their shares -/

inductive Owner where
  | sandbox (handle : String)
  | creation (position : Nat)
  deriving DecidableEq

/-- The claims of the creations, by position. -/
abbrev Claims := Nat → Option PortClaim

/-- The ports claimed by the creation at a position. -/
def claimedAt (claims : Claims) (position : Nat) : List UInt16 :=
  ((claims position).map (·.claimed)).getD []

/-- The ports of an owner. -/
def portsOf (b : Books) (claims : Claims) : Owner → List UInt16
  | .sandbox handle => b.declared handle
  | .creation position => claimedAt claims position

/-- The ports of every owner, with the spare ports for no owner. -/
def shares (b : Books) (claims : Claims) (spare : List UInt16) : Option Owner → List UInt16
  | some owner => portsOf b claims owner
  | none => spare

structure Accounts (b : Books) (claims : Claims) (spare : List UInt16) : Prop where
  ledger : Ledger b.ports (shares b claims spare)
  covers : ∀ i claim, claims i = some claim → claim.Covers b.ports
  keys : b.Keyed
  range : PortPool.SameRange b.ports .empty

theorem claimedAt_some {claims : Claims} {i : Nat} {claim : PortClaim}
    (h : claims i = some claim) : claimedAt claims i = claim.claimed := by
  simp [claimedAt, h]

theorem claimedAt_none {claims : Claims} {i : Nat} (h : claims i = none) :
    claimedAt claims i = [] := by
  simp [claimedAt, h]

namespace Accounts
variable {client : Client} {b c : Books} {claims : Claims} {spare : List UInt16} {i : Nat}
variable {claim : PortClaim}

/-- A new entry for one creation leaves the shares of the others alone. -/
theorem shares_update {o : Option Owner} (ho : o ≠ some (.creation i)) (entry : Option PortClaim)
    (declared : ∀ h, o = some (.sandbox h) → c.declared h = b.declared h) :
    shares c (Function.update claims i entry) spare o = shares b claims spare o := by
  match o with
  | none => rfl
  | some (.sandbox h) => exact declared h rfl
  | some (.creation j) =>
      have ne : j ≠ i := fun e => ho (e ▸ rfl)
      simp only [shares, portsOf, claimedAt, Function.update_of_ne ne]

/-- Whatever becomes of the sandboxes and the properties, the accounts stay right as long as
the handles, the ports and the specifications of the pods do. -/
theorem congr (h : Accounts b claims spare) (ports : c.ports = b.ports)
    (registry : c.registry = b.registry) (length : b.sandboxes.length ≤ c.sandboxes.length)
    (specs : ∀ h key, b.registry.get? h = some key →
      (c.sandbox key).pod.spec = (b.sandbox key).pod.spec) : Accounts c claims spare := by
  have declared : ∀ k, c.declared k = b.declared k := by
    intro k
    apply Books.declared_congr (by rw [registry]) (by rw [ports]; exact .refl _)
    exact specs k
  refine ⟨?_, ?_, ?_, ?_⟩
  · rw [ports]
    apply h.ledger.congr
    intro o p
    match o with
    | none => rfl
    | some (.sandbox k) => exact iff_of_eq (congrArg _ (declared k))
    | some (.creation j) => rfl
  · rw [ports]
    exact h.covers
  · intro k key found
    rw [registry] at found
    exact Nat.lt_of_lt_of_le (h.keys k key found) length
  · rw [ports]
    exact h.range

/-- A creation claims ports. -/
theorem make {ports : PortPool} (h : Accounts b claims spare) (vacant : claims i = none)
    (made : PortClaim.Made b.ports ports claim) :
    Accounts { b with ports } (Function.update claims i (some claim)) spare := by
  have mine : shares { b with ports } (Function.update claims i (some claim)) spare
      (some (.creation i)) = claim.claimed := claimedAt_some (Function.update_self ..)
  refine ⟨?_, ?_, ?_, ?_⟩
  · apply h.ledger.take (a := some (.creation i))
    · intro o ho
      exact shares_update ho _
        (fun k _ => Books.declared_congr rfl made.range (fun _ _ => rfl))
    · exact claimedAt_none vacant
    · rw [mine]
      exact made.free
    · rw [mine]
      exact made.held
  · intro j other found
    by_cases hj : j = i
    · rw [hj, Function.update_self] at found
      cases found
      exact made.covers.congr made.range.symm
    · rw [Function.update_of_ne hj] at found
      exact (h.covers j other found).congr made.range.symm
  · exact h.keys
  · exact made.range.trans h.range

/-- A creation gives its claim back. -/
theorem abandon (h : Accounts b claims spare) (mine : claims i = some claim) :
    Accounts (b.releasePorts claim.claimed) (Function.update claims i none) spare := by
  have range := PortPool.sameRange_releaseAll b.ports claim.claimed
  refine ⟨?_, ?_, ?_, ?_⟩
  · apply h.ledger.give (a := some (.creation i))
    · intro o ho
      exact shares_update ho _ (fun k _ => Books.declared_releasePorts ..)
    · intro p
      have before : shares b claims spare (some (.creation i)) = claim.claimed :=
        claimedAt_some mine
      have after : shares (b.releasePorts claim.claimed) (Function.update claims i none) spare
          (some (.creation i)) = [] := claimedAt_none (Function.update_self ..)
      simp [before, after]
    · intro o ho p hp claimed
      apply ho
      apply h.ledger.apart o (some (.creation i)) p hp
      change p ∈ claimedAt claims i
      rw [claimedAt_some mine]
      exact claimed
  · intro j other found
    by_cases hj : j = i
    · rw [hj, Function.update_self] at found
      cases found
    · rw [Function.update_of_ne hj] at found
      exact (h.covers j other found).congr range.symm
  · exact h.keys
  · exact range.trans h.range

/-- A creation hands its claim over to the sandbox that it registers. -/
theorem enrol (h : Accounts b claims spare) (mine : claims i = some claim) {x : Sandbox}
    (free : b.registry.contains x.handle = false) (ports : x.pod.hostPorts = claim.hostPorts)
    (properties : Properties) :
    Accounts (b.enrol x properties) (Function.update claims i none) spare := by
  have elsewhere : ∀ k, k ≠ x.handle → (b.enrol x properties).declared k = b.declared k := by
    intro k hk
    apply Books.declared_congr ((Books.get?_enrol ..).trans (if_neg hk)) (.refl _)
    intro key found
    rw [Books.sandbox_enrol (h.keys k key found)]
  have here : ∀ p, p ∈ (b.enrol x properties).declared x.handle ↔ p ∈ claim.claimed := by
    intro p
    rw [Books.mem_declared ((Books.get?_enrol ..).trans (if_pos rfl)), Books.sandbox_enrol_self,
      ports, h.covers i claim mine p]
    exact and_comm
  refine ⟨?_, ?_, ?_, ?_⟩
  · apply h.ledger.hand (a := some (.creation i)) (b := some (.sandbox x.handle))
    · intro o ho hx
      exact shares_update ho _ (fun k e => elsewhere k (fun e' => hx (by rw [e, e'])))
    · exact claimedAt_none (Function.update_self ..)
    · intro p
      change p ∈ (b.enrol x properties).declared x.handle ↔
        p ∈ claimedAt claims i ∨ p ∈ b.declared x.handle
      rw [here p, claimedAt_some mine, Books.declared_of_absent (Table.get?_eq_none free)]
      simp
  · intro j other found
    by_cases hj : j = i
    · rw [hj, Function.update_self] at found
      cases found
    · rw [Function.update_of_ne hj] at found
      exact h.covers j other found
  · exact h.keys.enrol x properties
  · exact h.range

/-- What is left over when a sandbox is forgotten with a pod that need not be its own. -/
def leftover (b : Books) (spare : List UInt16) (handle : String) (pod : Pod) : List UInt16 :=
  (spare ++ b.declared handle).filter (fun p => !pod.hostPorts.contains p)

theorem mem_leftover {handle : String} {pod : Pod} {p : UInt16} :
    p ∈ leftover b spare handle pod ↔
      (p ∈ spare ∨ p ∈ b.declared handle) ∧ p ∉ pod.hostPorts := by
  simp only [leftover, List.mem_filter, List.mem_append, Bool.not_eq_true',
    List.contains_eq_mem, decide_eq_false_iff_not]

/-- A sandbox is forgotten with a pod that declares no port of another owner. -/
theorem forget (h : Accounts b claims spare) {handle : String} {pod : Pod}
    (spared : ∀ owner, owner ≠ .sandbox handle → ∀ p ∈ portsOf b claims owner,
      p ∉ pod.hostPorts) :
    Accounts (b.forget handle pod) claims (leftover b spare handle pod) := by
  have range := PortPool.sameRange_releaseAll b.ports pod.hostPorts
  have elsewhere : ∀ k, k ≠ handle → (b.forget handle pod).declared k = b.declared k := by
    intro k hk
    exact Books.declared_congr (Table.get?_erase_ne _ hk) range (fun _ _ => rfl)
  have gone : (b.forget handle pod).declared handle = [] :=
    Books.declared_of_absent (Table.get?_erase_self ..)
  -- First the sandbox's ports become spare ones, then the pod's are given back.
  let between : Option Owner → List UInt16
    | none => spare ++ b.declared handle
    | some owner => portsOf (b.forget handle pod) claims owner
  have idle : Ledger b.ports between := by
    apply h.ledger.hand (a := some (.sandbox handle)) (b := none)
    · intro o ho hn
      match o with
      | none => exact (hn rfl).elim
      | some (.sandbox k) => exact elsewhere k (fun e => ho (e ▸ rfl))
      | some (.creation j) => rfl
    · exact gone
    · intro p
      exact List.mem_append.trans or_comm
  refine ⟨?_, ?_, ?_, ?_⟩
  · apply idle.give (a := none)
    · intro o ho
      match o with
      | none => exact (ho rfl).elim
      | some owner => rfl
    · intro p
      exact mem_leftover.trans (and_congr_left' List.mem_append.symm)
    · intro o ho p hp
      match o with
      | none => exact (ho rfl).elim
      | some (.sandbox k) =>
          by_cases hk : k = handle
          · subst hk
            change p ∈ (b.forget k pod).declared k at hp
            rw [gone] at hp
            cases hp
          · change p ∈ (b.forget handle pod).declared k at hp
            rw [elsewhere k hk] at hp
            exact spared (.sandbox k) (fun e => hk (Owner.sandbox.inj e)) p hp
      | some (.creation j) => exact spared (.creation j) (fun e => nomatch e) p hp
  · exact fun i claim found => (h.covers i claim found).congr range.symm
  · exact h.keys.forget handle pod
  · exact range.trans h.range

/-- A registered sandbox is forgotten with its own pod, and nothing is left over. -/
theorem forget_own (h : Accounts b claims []) {handle : String} {key : Nat}
    (registered : b.registry.get? handle = some key) :
    Accounts (b.forget handle (b.sandbox key).pod) claims [] := by
  have none_left : leftover b [] handle (b.sandbox key).pod = [] := by
    apply List.eq_nil_iff_forall_not_mem.2
    intro p left
    obtain ⟨listed | declared, out⟩ := mem_leftover.1 left
    · cases listed
    · exact out ((Books.mem_declared registered).1 declared).1
  rw [← none_left]
  apply h.forget
  intro owner other p listed declared
  have held : p ∈ b.ports.held := (h.ledger.held p).2 ⟨some owner, listed⟩
  have mine : p ∈ b.declared handle :=
    (Books.mem_declared registered).2 ⟨declared, PortPool.contains_of_held held⟩
  exact other (Option.some.inj (h.ledger.apart (some owner) (some (.sandbox handle)) p listed mine))

/-! ## Creations up to registration -/

theorem claiming (h : Accounts b claims spare) {call : CreateCall} {r : Books × CreateCall}
    (mine : claims i = some claim) (moved : CreateCall.Claiming client b call claim r) :
    Accounts r.1 (Function.update claims i r.2.claim?) spare := by
  cases moved with
  | keeps same =>
      rw [same, ← mine, Function.update_eq_self]
      exact h
  | abandons e => exact h.abandon mine
  | registers image env rootfsSize free =>
      exact h.enrol mine free (CreateCall.hostPorts_draft ..) _

theorem starting (h : Accounts b claims spare) {spec : SandboxSpec} {deadline : Instant}
    {r : Books × CreateCall} (vacant : claims i = none)
    (moved : CreateCall.Starting client b spec deadline r) :
    Accounts r.1 (Function.update claims i r.2.claim?) spare := by
  cases moved with
  | refused e =>
      change Accounts b (Function.update claims i none) spare
      rw [← vacant, Function.update_eq_self]
      exact h
  | claims free made moved =>
      have := (h.make vacant (PortClaim.make_ok made)).claiming (Function.update_self ..) moved
      rwa [Function.update_idem] at this

end Accounts
/-! ## The claims of an interleaving -/

namespace Interleaving
variable {client : Client} {s t : Interleaving} {i : Nat}

/-- The claims of the creations that have neither registered nor returned. -/
def claims (s : Interleaving) : Claims := fun i => s.calls[i]?.bind Call.claim?

theorem claims_vacant (s : Interleaving) : s.claims s.calls.length = none := by
  simp [claims]

theorem claims_of_create {call : CreateCall} (h : s.calls[i]? = some (.create call)) :
    s.claims i = call.claim? := by
  simp [claims, h, Call.claim?]

theorem claims_of_destroy {call : DestroyCall} (h : s.calls[i]? = some (.destroy call)) :
    s.claims i = none := by
  simp [claims, h, Call.claim?]

theorem claims_of_returned {j : Nat}
    (returned : ∀ call, s.calls[j]? = some call → call.isReturned = true) : s.claims j = none := by
  cases found : s.calls[j]? with
  | none => simp [claims, found]
  | some call =>
      have ended := returned call found
      cases call with
      | destroy call => exact claims_of_destroy found
      | create call =>
          rw [claims_of_create found]
          obtain ⟨spec, deadline, stage⟩ := call
          cases stage with
          | finished result => rfl
          | _ => cases ended

theorem Placed.claims_eq {r : Books × Call} (h : Placed client s t i r) :
    t.claims = Function.update s.claims i r.2.claim? := by
  funext j
  by_cases hj : j = i
  · rw [hj, Function.update_self, claims, h.here]
    rfl
  · rw [Function.update_of_ne hj, claims, claims, h.elsewhere j hj]

/-- A move that changes nothing about the claim of its call changes nothing about the claims. -/
theorem Placed.claims_same {r : Books × Call} (h : Placed client s t i r)
    (same : r.2.claim? = s.claims i) : t.claims = s.claims := by
  rw [h.claims_eq, same, Function.update_eq_self]

end Interleaving
end SandboxPods
