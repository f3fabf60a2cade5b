import SandboxPods.Client.PortClaim
import SandboxPods.Proofs.PortPool

/-!
# What a claim takes from the pool

A claim that is made holds exactly the pool's own ports among the host ports that
its pod is going to declare, all of them free before. Giving them back therefore
restores the pool as it was, and handing them over to the sandbox loses none.
-/
namespace SandboxPods.PortClaim
open PortPool
variable {pool after : PortPool} {requests : List PortRequest} {claim : PortClaim}

/-- The host ports that the pod is going to declare. -/
def hostPorts (claim : PortClaim) : List UInt16 := claim.ports.filterMap (·.hostPort)

/-- The claim holds just those declared host ports that the pool is responsible for. -/
def Covers (claim : PortClaim) (pool : PortPool) : Prop :=
  ∀ p, p ∈ claim.claimed ↔ pool.contains p = true ∧ p ∈ claim.hostPorts

/-- What a claim that was made has done to the pool. -/
structure Made (pool after : PortPool) (claim : PortClaim) : Prop where
  range : SameRange after pool
  free : ∀ p ∈ claim.claimed, p ∉ pool.held
  held : ∀ p, p ∈ after.held ↔ p ∈ claim.claimed ∨ p ∈ pool.held
  covers : claim.Covers pool

theorem Covers.congr {a b : PortPool} (h : claim.Covers a) (range : SameRange a b) :
    claim.Covers b := by
  intro p
  rw [← range.contains_eq p]
  exact h p

/-! ## The explicit ports -/

theorem reserveEach_cons (pool : PortPool) (port : UInt16) (rest : List UInt16) :
    reserveEach pool (port :: rest) = match pool.reserve port with
      | some pool => reserveEach pool rest
      | none => .error (.invalidSpec (.portInUse port)) := rfl

theorem reserveEach_ok {given : List UInt16} (h : reserveEach pool given = .ok after) :
    SameRange after pool ∧ (∀ p ∈ given, p ∉ pool.held) ∧
      ∀ p, p ∈ after.held ↔ p ∈ given ∨ p ∈ pool.held := by
  induction given generalizing pool with
  | nil =>
      cases h
      exact ⟨.refl after, by simp, by simp⟩
  | cons port rest ih =>
      rw [reserveEach_cons] at h
      split at h
      · rename_i next hnext
        obtain ⟨hrange, hfree, hheld⟩ := ih h
        have hmem := mem_held_of_reserve hnext
        refine ⟨hrange.trans (sameRange_reserve hnext), ?_, ?_⟩
        · intro p hp held
          rcases List.mem_cons.1 hp with rfl | hp
          · exact (free_of_reserve hnext).2 held
          · exact hfree p hp ((hmem p).2 (.inr held))
        · intro p
          rw [hheld p, hmem p, List.mem_cons]
          exact or_left_comm.trans or_assoc.symm
      · cases h

theorem mem_explicitPorts {p : UInt16} : p ∈ explicitPorts pool requests ↔
    p ∈ requests.map (·.hostPort) ∧ p ≠ 0 ∧ pool.contains p = true := by
  simp [explicitPorts, List.mem_filter]

/-! ## The declared ports -/

theorem hostPorts_assign_missing {r : PortRequest} (hr : r.hostPort = 0)
    (rest : List PortRequest) (q : UInt16) (others : List UInt16) :
    (assign (r :: rest) (q :: others)).filterMap (·.hostPort) =
      q :: (assign rest others).filterMap (·.hostPort) := by
  simp [assign, hr]

theorem hostPorts_assign_given {r : PortRequest} (hr : r.hostPort ≠ 0)
    (rest : List PortRequest) (fresh : List UInt16) :
    (assign (r :: rest) fresh).filterMap (·.hostPort) =
      r.hostPort :: (assign rest fresh).filterMap (·.hostPort) := by
  simp [assign, hr]

/-- With as many fresh ports as there are requests without a host port, the declared ports are
the explicit ones and all of the fresh ones. -/
theorem perm_assign {fresh : List UInt16} (count : fresh.length = missing requests) :
    ((assign requests fresh).filterMap (·.hostPort)).Perm
      ((requests.map (·.hostPort)).filter (· ≠ 0) ++ fresh) := by
  induction requests generalizing fresh with
  | nil =>
      rw [List.eq_nil_of_length_eq_zero count]
      exact .nil
  | cons r rest ih =>
      by_cases hr : r.hostPort = 0
      · have more : fresh.length = missing rest + 1 := by
          rw [count]
          simp [missing, hr]
        cases fresh with
        | nil => cases more
        | cons q others =>
            rw [hostPorts_assign_missing hr, List.map_cons, List.filter_cons_of_neg (by simp [hr])]
            exact ((ih (Nat.succ.inj more)).cons q).trans List.perm_middle.symm
      · have same : fresh.length = missing rest := by
          rw [count]
          simp [missing, hr]
        rw [hostPorts_assign_given hr, List.map_cons, List.filter_cons_of_pos (by simp [hr])]
        exact (ih same).cons _

theorem mem_assign {fresh : List UInt16} (count : fresh.length = missing requests) {p : UInt16} :
    p ∈ (assign requests fresh).filterMap (·.hostPort) ↔
      (p ∈ requests.map (·.hostPort) ∧ p ≠ 0) ∨ p ∈ fresh := by
  rw [(perm_assign count).mem_iff, List.mem_append, List.mem_filter, decide_eq_true_eq]

/-! ## The whole claim -/

theorem make_ok (h : make pool requests = .ok (after, claim)) : Made pool after claim := by
  unfold make at h
  cases hr : reserveEach pool (explicitPorts pool requests) with
  | error e => simp [hr, bind, Except.bind] at h
  | ok reserved =>
      simp only [hr, bind, Except.bind] at h
      split at h
      · cases h
      · rename_i fresh rest hfresh
        cases h
        obtain ⟨hrange, hfree, hheld⟩ := reserveEach_ok hr
        have out := handout_of_allocate hfresh
        refine ⟨out.range.trans hrange, ?_, ?_, ?_⟩
        · intro p hp
          rcases List.mem_append.1 hp with hp | hp
          · exact hfree p hp
          · exact fun held => out.free p hp ((hheld p).2 (.inr held))
        · intro p
          rw [out.held p, hheld p, List.mem_append]
          exact or_left_comm.trans or_assoc.symm
        · intro p
          have inside : p ∈ fresh → pool.contains p = true := fun hp =>
            (hrange.contains_eq p).symm.trans (out.contained p hp)
          rw [hostPorts, mem_assign out.count, List.mem_append, mem_explicitPorts]
          constructor
          · intro h
            rcases h with ⟨hp, hne, hin⟩ | hp
            · exact ⟨hin, .inl ⟨hp, hne⟩⟩
            · exact ⟨inside hp, .inr hp⟩
          · intro h
            obtain ⟨hin, ⟨hp, hne⟩ | hp⟩ := h
            · exact .inl ⟨hp, hne, hin⟩
            · exact .inr hp

/-- Giving up the claimed ports, with any others that the pool is not responsible for,
restores the pool. -/
theorem Made.releaseAll {ports : List UInt16} (h : Made pool after claim)
    (same : ∀ p, pool.contains p = true → (p ∈ ports ↔ p ∈ claim.claimed)) :
    after.releaseAll ports = pool := by
  apply eq_of_mem_held ((sameRange_releaseAll after ports).trans h.range)
  intro p
  rw [mem_held_releaseAll, h.held p]
  constructor
  · intro h
    obtain ⟨hp | hp, out⟩ := h
    · exact (out ((same p ((h.covers p).1 hp).1).2 hp)).elim
    · exact hp
  · intro hp
    exact ⟨.inr hp, fun hin => h.free p ((same p (contains_of_held hp)).1 hin) hp⟩

/-- A single explicit port that is free is claimed as it stands. -/
theorem make_single {port containerPort : UInt16} (nonzero : port ≠ 0)
    (range : pool.contains port = true) (free : port ∉ pool.held) :
    ∃ after, make pool [⟨port, containerPort⟩] =
      .ok (after, ⟨[port], [{ containerPort, hostPort := some port }]⟩) := by
  obtain ⟨after, hafter⟩ := reserve_of_free range free
  have given : explicitPorts pool [⟨port, containerPort⟩] = [port] := by
    simp [explicitPorts, nonzero, range]
  have reserved : reserveEach pool [port] = .ok after := by
    rw [reserveEach_cons, hafter]
    rfl
  have complete : missing [⟨port, containerPort⟩] = 0 := by simp [missing, nonzero]
  refine ⟨after, ?_⟩
  unfold make
  rw [given, complete]
  simp only [reserved, bind, Except.bind, allocate_zero, assign, nonzero, if_false,
    List.append_nil]

/-- Nothing is claimed for a description without ports. -/
theorem make_nil (pool : PortPool) : make pool [] = .ok (pool, ⟨[], []⟩) := by
  unfold make
  simp only [explicitPorts, List.map_nil, List.filter_nil, reserveEach, missing, List.length_nil,
    bind, Except.bind, allocate_zero, assign, List.append_nil]

/-- The explicit ports are claimed. -/
theorem make_explicit (h : make pool requests = .ok (after, claim)) :
    ∀ p ∈ explicitPorts pool requests, p ∈ claim.claimed := by
  intro p member
  unfold make at h
  cases hr : reserveEach pool (explicitPorts pool requests) with
  | error e => simp [hr, bind, Except.bind] at h
  | ok reserved =>
      simp only [hr, bind, Except.bind] at h
      split at h
      · cases h
      · cases h
        exact List.mem_append_left _ member

/-! ## Claims that fail -/

theorem explicitPorts_congr {a b : PortPool} (range : SameRange a b)
    (requests : List PortRequest) : explicitPorts a requests = explicitPorts b requests := by
  unfold explicitPorts
  have same : a.contains = b.contains := funext range.contains_eq
  rw [same]

theorem reserveEach_error {given : List UInt16} {e : LifecycleError}
    (h : reserveEach pool given = .error e) : ∃ p ∈ given, e = .invalidSpec (.portInUse p) := by
  induction given generalizing pool with
  | nil => cases h
  | cons port rest ih =>
      rw [reserveEach_cons] at h
      split at h
      · obtain ⟨p, member, refused⟩ := ih h
        exact ⟨p, List.mem_cons_of_mem _ member, refused⟩
      · cases h
        exact ⟨port, List.mem_cons_self, rfl⟩

/-- A claim fails for one of its explicit ports, or because there are too few free ones. -/
theorem make_error {e : LifecycleError} (h : make pool requests = .error e) :
    (∃ p ∈ explicitPorts pool requests, e = .invalidSpec (.portInUse p)) ∨
      ∃ available, available < missing requests ∧
        e = .resourceExhausted (missing requests) available := by
  unfold make at h
  cases hr : reserveEach pool (explicitPorts pool requests) with
  | error refused =>
      simp only [hr, bind, Except.bind] at h
      cases h
      exact .inl (reserveEach_error hr)
  | ok reserved =>
      simp only [hr, bind, Except.bind] at h
      by_cases enough : missing requests ≤ reserved.free.length
      · obtain ⟨fresh, after, allocated, -⟩ := allocate_enough enough
        rw [allocated] at h
        cases h
      · rw [allocate_short (Nat.lt_of_not_le enough)] at h
        cases h
        exact .inr ⟨reserved.free.length, Nat.lt_of_not_le enough, rfl⟩

/-- Without explicit ports of the pool a claim takes as many ports as were left to the pool. -/
theorem make_implicit_ok (implicit : explicitPorts pool requests = [])
    (h : make pool requests = .ok (after, claim)) :
    after.held.length = pool.held.length + missing requests := by
  unfold make at h
  simp only [implicit, reserveEach, bind, Except.bind] at h
  by_cases enough : missing requests ≤ pool.free.length
  · obtain ⟨fresh, rest, allocated, count⟩ := allocate_enough enough
    rw [allocated] at h
    cases h
    exact count
  · rw [allocate_short (Nat.lt_of_not_le enough)] at h
    cases h

theorem make_implicit_error {e : LifecycleError} (implicit : explicitPorts pool requests = [])
    (h : make pool requests = .error e) : pool.free.length < missing requests := by
  unfold make at h
  simp only [implicit, reserveEach, bind, Except.bind] at h
  by_contra enough
  obtain ⟨fresh, rest, allocated, -⟩ := allocate_enough (Nat.le_of_not_lt enough)
  rw [allocated] at h
  cases h

end SandboxPods.PortClaim
