import Mathlib.Data.List.Pairwise
import SandboxPods.Client.Connect
import SandboxPods.Proofs.Client.Books

/-!
# The books of a client that has just connected

A connection takes up the pods of the namespace one by one. Each pod that is taken
up is registered under its name, and its host ports are held as far as they lie in
the pool's range. A pod whose name is taken already fails the connection, so the
names of a connected client's pods are distinct. Whether the tasks of a running pod
could be loaded makes no difference to the ports and to the handles.
-/
namespace SandboxPods

/-! ## Holding the ports of a pod -/

namespace PortPool
variable {pool : PortPool} {p : UInt16}

theorem sameRange_reserveFree (pool : PortPool) (port : UInt16) :
    SameRange ((pool.reserve port).getD pool) pool := by
  cases h : pool.reserve port with
  | none => exact .refl pool
  | some after => exact sameRange_reserve h

/-- A port of the range is held afterwards, whether it was free or not. -/
theorem mem_held_reserveFree {port : UInt16} : p ∈ ((pool.reserve port).getD pool).held ↔
    p ∈ pool.held ∨ (pool.contains p = true ∧ p = port) := by
  cases h : pool.reserve port with
  | some after =>
      have inside := (free_of_reserve h).1
      rw [Option.getD_some, mem_held_of_reserve h]
      constructor
      · intro h
        rcases h with rfl | hp
        · exact .inr ⟨inside, rfl⟩
        · exact .inl hp
      · intro h
        rcases h with hp | ⟨_, rfl⟩
        · exact .inr hp
        · exact .inl rfl
  | none =>
      rw [Option.getD_none]
      constructor
      · exact .inl
      · intro declares
        rcases declares with hp | ⟨inside, rfl⟩
        · exact hp
        · by_contra free
          obtain ⟨after, hafter⟩ := reserve_of_free inside free
          rw [h] at hafter
          cases hafter

theorem foldl_reserve (ports : List UInt16) (pool : PortPool) :
    SameRange (ports.foldl (fun pool p => (pool.reserve p).getD pool) pool) pool ∧
      ∀ p, p ∈ (ports.foldl (fun pool p => (pool.reserve p).getD pool) pool).held ↔
        p ∈ pool.held ∨ (pool.contains p = true ∧ p ∈ ports) := by
  induction ports generalizing pool with
  | nil => exact ⟨.refl pool, by simp⟩
  | cons port ports ih =>
      obtain ⟨hrange, hheld⟩ := ih ((pool.reserve port).getD pool)
      have same := sameRange_reserveFree pool port
      refine ⟨hrange.trans same, ?_⟩
      intro p
      rw [List.foldl_cons, hheld p, mem_held_reserveFree, same.contains_eq p, List.mem_cons,
        or_assoc, ← and_or_left]

end PortPool

namespace ConnectCall

/-- The call after answers that come one after another. -/
def after (call : ConnectCall) (answers : List Answer) : ConnectCall := answers.foldl resume call

/-- The books agree with the pods that were taken up. -/
structure Recovered (taken : List Pod) (books : Books) : Prop where
  range : PortPool.SameRange books.ports .empty
  held : ∀ p, p ∈ books.ports.held ↔
    PortPool.empty.contains p = true ∧ ∃ pod ∈ taken, p ∈ pod.hostPorts
  entries : ∀ h key, books.registry.get? h = some key → key < books.sandboxes.length ∧
    (books.sandbox key).pod ∈ taken ∧ (books.sandbox key).pod.name = h
  registered : ∀ pod ∈ taken, ∃ key, books.registry.get? pod.name = some key ∧
    (books.sandbox key).pod = pod
  known : books.Known

theorem recovered_empty : Recovered [] {} := by
  refine ⟨.refl _, ?_, ?_, ?_, ?_⟩
  · intro p
    simp [PortPool.empty, PortPool.ofRange]
  · intro h key found
    cases found
  · intro pod member
    cases member
  · intro h space
    exact (space rfl).elim

variable {pods taken rest : List Pod} {books after : Books} {pod : Pod} {tasks : Tasks}

theorem ports_note (books : Books) (pod : Pod) : (note books pod).ports =
    pod.hostPorts.foldl (fun pool p => (pool.reserve p).getD pool) books.ports := rfl

theorem spaces_note (books : Books) {h : String} (ne : h ≠ pod.name) :
    (note books pod).properties.spaces.get? h = books.properties.spaces.get? h :=
  (PropertyStore.spaces_set _ _ _ ne).trans (PropertyStore.spaces_set _ _ _ ne)

/-- A pod is taken up under a name that was free. -/
theorem adopt_ok (h : adopt books pod tasks = .ok after) :
    books.registry.contains pod.name = false ∧ after = { books with
      registry := books.registry.insert pod.name books.sandboxes.length
      sandboxes := books.sandboxes ++ [{ Sandbox.ofPod pod with tasks }] } := by
  unfold adopt at h
  cases free : books.registry.contains pod.name with
  | true =>
      rw [Books.register_taken (by exact free)] at h
      cases h
  | false =>
      rw [Books.register_free (by exact free)] at h
      cases h
      exact ⟨rfl, rfl⟩

/-- A name that is still free is none of the pods that were taken up. -/
theorem Recovered.name_ne {p : Pod} (h : Recovered taken books)
    (free : books.registry.get? pod.name = none) (member : p ∈ taken) : p.name ≠ pod.name := by
  intro same
  obtain ⟨key, found, -⟩ := h.registered p member
  rw [same, free] at found
  cases found

/-- A handle of the books after a pod was taken up is the name of that pod or was registered
before. -/
theorem Recovered.entry_adopted (h : Recovered taken books)
    (ok : adopt (note books pod) pod tasks = .ok after) (k : String) (key : Nat)
    (found : after.registry.get? k = some key) :
    (k = pod.name ∧ key = books.sandboxes.length ∧
        after.sandbox key = { Sandbox.ofPod pod with tasks }) ∨
      (k ≠ pod.name ∧ books.registry.get? k = some key ∧
        after.sandbox key = books.sandbox key) := by
  obtain ⟨-, rfl⟩ := adopt_ok ok
  change (books.registry.insert pod.name books.sandboxes.length).get? k = some key at found
  rw [Table.get?_insert] at found
  by_cases hk : k = pod.name
  · rw [if_pos hk] at found
    cases found
    exact .inl ⟨hk, rfl, Books.sandbox_append_self (b := books) rfl⟩
  · rw [if_neg hk] at found
    exact .inr ⟨hk, found, Books.sandbox_append (b := books) rfl (h.entries k key found).1⟩

/-- Where sandboxes go by their handles, the one that is taken up does so, too. -/
theorem Recovered.handle_adopted (h : Recovered taken books)
    (ok : adopt (note books pod) pod tasks = .ok after)
    (named : ∀ k key, books.registry.get? k = some key → (books.sandbox key).handle = k)
    (k : String) (key : Nat) (found : after.registry.get? k = some key) :
    (after.sandbox key).handle = k := by
  rcases h.entry_adopted ok k key found with ⟨rfl, -, new⟩ | ⟨-, before, same⟩
  · rw [new]
    rfl
  · rw [same]
    exact named k key before

theorem Recovered.adopt (h : Recovered taken books)
    (ok : adopt (note books pod) pod tasks = .ok after) : Recovered (taken ++ [pod]) after := by
  have entry := h.entry_adopted ok
  obtain ⟨free, rfl⟩ := adopt_ok ok
  obtain ⟨hrange, hheld⟩ := PortPool.foldl_reserve pod.hostPorts books.ports
  have registry (k : String) : (books.registry.insert pod.name books.sandboxes.length).get? k =
      if k = pod.name then some books.sandboxes.length else books.registry.get? k :=
    Table.get?_insert ..
  refine ⟨hrange.trans h.range, ?_, ?_, ?_, ?_⟩
  · intro p
    have now_held := hheld p
    rw [h.held p, h.range.contains_eq p, ← and_or_left] at now_held
    rw [ports_note, now_held]
    simp [or_and_right, exists_or]
  · intro k key found
    change key < (books.sandboxes ++ [_]).length ∧ _
    rcases entry k key found with ⟨rfl, rfl, new⟩ | ⟨-, before, same⟩
    · rw [new]
      exact ⟨by simp, by simp [Sandbox.ofPod], rfl⟩
    · obtain ⟨lt, member, name⟩ := h.entries k key before
      rw [same]
      exact ⟨by simp; omega, by simp [member], name⟩
  · intro p member
    rcases List.mem_append.1 member with member | member
    · obtain ⟨key, found, same⟩ := h.registered p member
      have other := h.name_ne (Table.get?_eq_none free) member
      refine ⟨key, (registry p.name).trans ((if_neg other).trans found), ?_⟩
      rw [Books.sandbox_append (b := books) rfl (h.entries _ key found).1, same]
    · rw [List.mem_singleton.1 member]
      refine ⟨_, (registry pod.name).trans (if_pos rfl), ?_⟩
      rw [Books.sandbox_append_self (b := books) rfl]
      rfl
  · intro k space
    change (books.registry.insert pod.name books.sandboxes.length).get? k ≠ none
    rw [registry k]
    by_cases hk : k = pod.name
    · rw [if_pos hk]
      exact Option.some_ne_none _
    · rw [if_neg hk]
      apply h.known k
      rw [← spaces_note books hk]
      exact space

/-- What every pod that is taken up keeps of the pods taken up so far and of the books. -/
def Keeping (P : List Pod → Books → Prop) : Prop := ∀ taken before pod tasks after,
  P taken before → adopt (note before pod) pod tasks = .ok after → P (taken ++ [pod]) after

variable {P : List Pod → Books → Prop}

/-- How far a connection has come with the pods it was given. -/
def Building (P : List Pod → Books → Prop) (pods : List Pod) : ConnectStage → Prop
  | .loading _ books pod rest => ∃ taken before, taken ++ pod :: rest = pods ∧
      P taken before ∧ books = note before pod
  | .finished (.ok (_, books)) => P pods books
  | .finished (.error _) => True
  | .askingNode | .listing _ => False

theorem recover_building (keeps : Keeping P) (client : Client) (h : P taken books)
    (split : taken ++ rest = pods) : Building P pods (recover client books rest) := by
  induction rest generalizing taken books with
  | nil =>
      rw [List.append_nil] at split
      subst split
      exact h
  | cons pod rest ih =>
      unfold recover
      by_cases running : pod.isRunning = true
      · rw [if_pos running]
        exact ⟨taken, books, split, h, rfl⟩
      · rw [if_neg running]
        cases adopted : ConnectCall.adopt (note books pod) pod {} with
        | error e => trivial
        | ok after => exact ih (keeps taken books pod {} after h adopted) (by simpa using split)

theorem building_tasks (keeps : Keeping P) {call : ConnectCall} (h : Building P pods call.stage)
    (result : Except EngineError Tasks) :
    Building P pods (call.resume (.tasks result)).stage := by
  obtain ⟨settings, nodeName, stage⟩ := call
  cases stage with
  | askingNode => cases h
  | listing client => cases h
  | finished outcome => exact h
  | loading client books pod rest =>
      obtain ⟨taken, before, split, held, rfl⟩ := h
      simp only [resume, next]
      split
      · trivial
      · rename_i after adopted
        exact recover_building keeps client (keeps taken before pod _ after held adopted)
          (by simpa using split)

theorem building_loads (keeps : Keeping P) {call : ConnectCall}
    (loads : List (Except EngineError Tasks)) (h : Building P pods call.stage) :
    Building P pods (call.after (loads.map .tasks)).stage := by
  induction loads generalizing call with
  | nil => exact h
  | cons result loads ih => exact ih (building_tasks keeps h result)

end ConnectCall

/-- The client and its books come from a connection to a namespace that held the pods. -/
def Connected (pods : List Pod) (client : Client) (books : Books) : Prop :=
  ∃ (settings : Settings) (nodeName : String) (node : ClusterNode)
    (loads : List (Except EngineError Tasks)),
    ((ConnectCall.start settings nodeName).after
      (.node (.ok node) :: .pods (.ok pods) :: loads.map .tasks)).stage =
        .finished (.ok (client, books))

/-- A pod that publishes one port. -/
def Pod.publishing (name : String) (hostPort : UInt16) : Pod where
  metadata := { name }
  spec := { containers := [{
    name := Role.app, ports := [{ containerPort := 8080, hostPort := some hostPort }] }] }

/-- No host port of the pool is declared by two of the pods. -/
def PortsDistinct (pods : List Pod) : Prop :=
  pods.Pairwise fun a b =>
    ∀ p, PortPool.empty.contains p = true → p ∈ a.hostPorts → p ∉ b.hostPorts

theorem PortsDistinct.apart {pods : List Pod} {a b : Pod} {p : UInt16} (h : PortsDistinct pods)
    (ha : a ∈ pods) (hb : b ∈ pods) (ne : a ≠ b) (inside : PortPool.empty.contains p = true)
    (pa : p ∈ a.hostPorts) : p ∉ b.hostPorts := by
  have symmetric : Std.Symm fun a b : Pod =>
      ∀ p, PortPool.empty.contains p = true → p ∈ a.hostPorts → p ∉ b.hostPorts :=
    ⟨fun a b apart p inside pb pa => apart p inside pa pb⟩
  exact List.Pairwise.forall h ha hb ne p inside pa

/-- What holds of no pods and is kept by every pod that is taken up holds of a connected client's
pods and books. -/
theorem Connected.invariant {pods : List Pod} {client : Client} {books : Books}
    {P : List Pod → Books → Prop} (h : Connected pods client books) (start : P [] {})
    (keeps : ConnectCall.Keeping P) : P pods books := by
  obtain ⟨settings, nodeName, node, loads, ended⟩ := h
  -- What the list of pods leads to, with the answers after it still to come.
  have listed : ConnectCall.Building P pods
      (((ConnectCall.start settings nodeName).resume (.node (.ok node))).resume
        (.pods (.ok pods))).stage :=
    ConnectCall.recover_building keeps { settings, nodeName, node } start rfl
  have built : ConnectCall.Building P pods ((ConnectCall.start settings nodeName).after
      (.node (.ok node) :: .pods (.ok pods) :: loads.map .tasks)).stage :=
    ConnectCall.building_loads keeps loads listed
  rw [ended] at built
  exact built

theorem Connected.recovered {pods : List Pod} {client : Client} {books : Books}
    (h : Connected pods client books) : ConnectCall.Recovered pods books :=
  h.invariant ConnectCall.recovered_empty fun _ _ _ _ _ recovered adopted =>
    recovered.adopt adopted

end SandboxPods
