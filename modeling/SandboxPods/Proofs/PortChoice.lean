import SandboxPods.Proofs.PortClaim
import SandboxPods.Sandbox.Basic

/-!
# Which ports a claim comes to

A claim looks at the requests three times: it holds the explicit ports of the pool one
after another, it takes as many free ports as there are requests without a host port,
and it puts those into their places. The first explicit port that is held by then, be
it through an earlier request, is the one that a refusal names. A claim that is made
answers each request in its place, and the ports that it chose are the lowest ones
that were free and are not asked for explicitly.
-/
namespace SandboxPods

namespace PortPool
variable {P : UInt16 → Prop} {all : List UInt16}

/-- The lowest ports with a property, lowest first. -/
structure Lowest (P : UInt16 → Prop) (ports : List UInt16) : Prop where
  ascending : ports.Pairwise (· < ·)
  apt : ∀ p ∈ ports, P p
  below : ∀ q, P q → q ∉ ports → ∀ p ∈ ports, p < q

theorem lowest_take (ascending : all.Pairwise (· < ·)) (mem : ∀ p, p ∈ all ↔ P p) (n : Nat) :
    Lowest P (all.take n) := by
  refine ⟨ascending.sublist (List.take_sublist n all), ?_, ?_⟩
  · exact fun p taken => (mem p).1 (List.mem_of_mem_take taken)
  · intro q apt left p taken
    have both : q ∈ all.take n ++ all.drop n := by
      rw [List.take_append_drop]
      exact (mem q).2 apt
    have dropped : q ∈ all.drop n := (List.mem_append.1 both).resolve_left left
    rw [← List.take_append_drop n all] at ascending
    exact (List.pairwise_append.1 ascending).2.2 p taken q dropped

end PortPool

namespace PortClaim
open PortPool
variable {pool after : PortPool} {requests : List PortRequest} {given : List UInt16}
variable {p : UInt16}

/-! ## Refusals -/

/-- An explicit port of the pool is held already or asked for twice. -/
structure Clashes (pool : PortPool) (requests : List PortRequest) (p : UInt16) : Prop where
  explicit : p ≠ 0 ∧ p ∈ requests.map (·.hostPort)
  inside : pool.contains p = true
  unavailable : p ∈ pool.held ∨ 1 < (requests.map (·.hostPort)).count p

theorem count_explicitPorts (nonzero : p ≠ 0) (inside : pool.contains p = true) :
    (explicitPorts pool requests).count p = (requests.map (·.hostPort)).count p := by
  unfold explicitPorts
  exact List.count_filter (by simp [nonzero, inside])

/-- The port is the first of the list that is held when those before it have been held. -/
def FirstHeld (pool : PortPool) (given : List UInt16) (p : UInt16) : Prop :=
  ∃ before rest, given = before ++ p :: rest ∧ before.Nodup ∧ (∀ q ∈ before, q ∉ pool.held) ∧
    (p ∈ pool.held ∨ p ∈ before)

theorem FirstHeld.not_free (h : FirstHeld pool given p) (distinct : given.Nodup) :
    ∃ q ∈ given, q ∈ pool.held := by
  obtain ⟨before, rest, rfl, -, -, held | earlier⟩ := h
  · exact ⟨p, List.mem_append_right _ List.mem_cons_self, held⟩
  · have apart := (List.nodup_append.1 distinct).2.2 p earlier p List.mem_cons_self
    exact (apart rfl).elim

/-- The port of which that holds clashes itself. -/
theorem FirstHeld.clashes (first : FirstHeld pool (explicitPorts pool requests) p) :
    Clashes pool requests p := by
  obtain ⟨before, rest, split, -, -, unavailable⟩ := first
  have explicit : p ∈ explicitPorts pool requests := by
    rw [split]
    exact List.mem_append_right _ List.mem_cons_self
  obtain ⟨asked, nonzero, inside⟩ := mem_explicitPorts.1 explicit
  refine ⟨⟨nonzero, asked⟩, inside, unavailable.imp_right fun earlier => ?_⟩
  rw [← count_explicitPorts nonzero inside, split, List.count_append, List.count_cons_self]
  have once := List.count_pos_iff.2 earlier
  omega

/-- The explicit ports are all held in turn, or the first one that cannot be is named. -/
theorem reserveEach_cases (inside : ∀ p ∈ given, pool.contains p = true) :
    (given.Nodup ∧ (∀ p ∈ given, p ∉ pool.held) ∧ ∃ after, reserveEach pool given = .ok after) ∨
      ∃ p, FirstHeld pool given p ∧
        reserveEach pool given = .error (.invalidSpec (.portInUse p)) := by
  induction given generalizing pool with
  | nil => exact .inl ⟨.nil, by simp, pool, rfl⟩
  | cons port rest ih =>
      rw [reserveEach_cons]
      cases reserved : pool.reserve port with
      | none =>
          have held : port ∈ pool.held := by
            by_contra free
            obtain ⟨after, made⟩ := reserve_of_free (inside port List.mem_cons_self) free
            rw [reserved] at made
            cases made
          exact .inr ⟨port, ⟨[], rest, rfl, .nil, by simp, .inl held⟩, rfl⟩
      | some next =>
          have range := sameRange_reserve reserved
          have free := (free_of_reserve reserved).2
          have mem := mem_held_of_reserve reserved
          have later : ∀ p ∈ rest, next.contains p = true := fun p hp =>
            (range.contains_eq p).trans (inside p (List.mem_cons_of_mem _ hp))
          rcases ih later with ⟨distinct, unheld, made⟩ | ⟨p, first, refused⟩
          · refine .inl ⟨List.nodup_cons.2 ⟨?_, distinct⟩, ?_, made⟩
            · exact fun again => unheld port again ((mem port).2 (.inl rfl))
            · intro p hp held
              rcases List.mem_cons.1 hp with rfl | hp
              · exact free held
              · exact unheld p hp ((mem p).2 (.inr held))
          · obtain ⟨before, others, rfl, distinct, unheld, last⟩ := first
            refine .inr ⟨p, ⟨port :: before, others, rfl, List.nodup_cons.2 ⟨?_, distinct⟩, ?_, ?_⟩,
              refused⟩
            · exact fun again => unheld port again ((mem port).2 (.inl rfl))
            · intro q hq held
              rcases List.mem_cons.1 hq with rfl | hq
              · exact free held
              · exact unheld q hq ((mem q).2 (.inr held))
            · rw [mem p] at last
              rw [List.mem_cons]
              tauto

/-- Without a clash the explicit ports are distinct and free. -/
theorem explicit_of_not_clashes (clear : ¬ ∃ p, Clashes pool requests p) :
    (explicitPorts pool requests).Nodup ∧ ∀ p ∈ explicitPorts pool requests, p ∉ pool.held := by
  have available (p : UInt16) (hp : p ∈ explicitPorts pool requests) :
      ¬ (p ∈ pool.held ∨ 1 < (explicitPorts pool requests).count p) := by
    intro unavailable
    obtain ⟨asked, nonzero, inside⟩ := mem_explicitPorts.1 hp
    rw [count_explicitPorts nonzero inside] at unavailable
    exact clear ⟨p, ⟨nonzero, asked⟩, inside, unavailable⟩
  constructor
  · rw [List.nodup_iff_count_le_one]
    intro p
    by_contra twice
    have hp : p ∈ explicitPorts pool requests := by
      by_contra absent
      rw [List.count_eq_zero.2 absent] at twice
      exact twice (Nat.zero_le 1)
    exact available p hp (.inr (Nat.lt_of_not_le twice))
  · exact fun p hp held => available p hp (.inl held)

theorem Clashes.not_clear (clash : Clashes pool requests p) :
    ¬ ((explicitPorts pool requests).Nodup ∧ ∀ p ∈ explicitPorts pool requests, p ∉ pool.held) := by
  rintro ⟨distinct, free⟩
  obtain ⟨⟨nonzero, asked⟩, inside, held | twice⟩ := clash
  · exact free p (mem_explicitPorts.2 ⟨asked, nonzero, inside⟩) held
  · rw [← count_explicitPorts nonzero inside] at twice
    exact Nat.not_lt.2 (List.nodup_iff_count_le_one.1 distinct p) twice

/-- A clash refuses the claim, and the first port that is held by then is named. -/
theorem make_clash (clash : ∃ p, Clashes pool requests p) :
    ∃ p, FirstHeld pool (explicitPorts pool requests) p ∧
      make pool requests = .error (.invalidSpec (.portInUse p)) := by
  obtain ⟨q, clash⟩ := clash
  rcases reserveEach_cases fun p hp => (mem_explicitPorts.1 hp).2.2 with
    ⟨distinct, free, -⟩ | ⟨p, first, refused⟩
  · exact (clash.not_clear ⟨distinct, free⟩).elim
  · refine ⟨p, first, ?_⟩
    unfold make
    simp only [refused, bind, Except.bind]

/-! ## Choices -/

/-- The port is free and not asked for explicitly. -/
structure Spare (pool : PortPool) (requests : List PortRequest) (p : UInt16) : Prop where
  inside : pool.contains p = true
  free : p ∉ pool.held
  unasked : p ∉ explicitPorts pool requests

/-- The ports that are left free by the explicit ones, lowest first. -/
def spare (pool : PortPool) (requests : List PortRequest) : List UInt16 :=
  pool.free.filter (fun p => p ∉ explicitPorts pool requests)

theorem mem_spare : p ∈ spare pool requests ↔ Spare pool requests p := by
  have inside : pool.contains p = true ↔ pool.first ≤ p ∧ p ≤ pool.last := by
    simp only [contains, Bool.and_eq_true, decide_eq_true_eq]
  rw [spare, List.mem_filter, mem_free, decide_eq_true_eq, ← inside]
  constructor
  · rintro ⟨⟨inside, free⟩, unasked⟩
    exact ⟨inside, free, unasked⟩
  · rintro ⟨inside, free, unasked⟩
    exact ⟨⟨inside, free⟩, unasked⟩

theorem ascending_spare (pool : PortPool) (requests : List PortRequest) :
    (spare pool requests).Pairwise (· < ·) := pool.ascending_free.filter _

/-- When the explicit ports are held, the spare ones are those that are free. -/
theorem free_of_reserveEach (made : reserveEach pool (explicitPorts pool requests) = .ok after) :
    after.free = spare pool requests := by
  obtain ⟨range, -, held⟩ := reserveEach_ok made
  have irrefl : Std.Irrefl (α := UInt16) (· < ·) := ⟨UInt16.lt_irrefl⟩
  apply after.ascending_free.eq_of_mem_iff (ascending_spare pool requests)
  intro p
  rw [mem_spare, mem_free, range.1, range.2, held p, not_or]
  constructor
  · rintro ⟨inside, unasked, free⟩
    exact ⟨by simpa only [contains, Bool.and_eq_true, decide_eq_true_eq], free, unasked⟩
  · rintro ⟨inside, free, unasked⟩
    refine ⟨?_, unasked, free⟩
    simpa only [contains, Bool.and_eq_true, decide_eq_true_eq] using inside

/-- Without a clash the explicit ports are all held, and the spare ones are left. -/
theorem reserveEach_clear (clear : ¬ ∃ p, Clashes pool requests p) :
    ∃ reserved, reserveEach pool (explicitPorts pool requests) = .ok reserved ∧
      reserved.free = spare pool requests := by
  obtain ⟨distinct, free⟩ := explicit_of_not_clashes clear
  rcases reserveEach_cases fun p hp => (mem_explicitPorts.1 hp).2.2 with
    ⟨-, -, reserved, made⟩ | ⟨p, first, -⟩
  · exact ⟨reserved, made, free_of_reserveEach made⟩
  · obtain ⟨q, hq, held⟩ := first.not_free distinct
    exact (free q hq held).elim

/-- Too few spare ports refuse the claim. -/
theorem make_short (clear : ¬ ∃ p, Clashes pool requests p)
    (short : (spare pool requests).length < missing requests) :
    make pool requests =
      .error (.resourceExhausted (missing requests) (spare pool requests).length) := by
  obtain ⟨reserved, made, left⟩ := reserveEach_clear clear
  unfold make
  simp only [made, bind, Except.bind]
  rw [allocate_short (left ▸ short), left]

/-- With enough spare ports the claim is made of the explicit ports and the lowest spare ones. -/
theorem make_enough (clear : ¬ ∃ p, Clashes pool requests p)
    (enough : missing requests ≤ (spare pool requests).length) :
    ∃ after, make pool requests = .ok (after,
      ⟨explicitPorts pool requests ++ (spare pool requests).take (missing requests),
        assign requests ((spare pool requests).take (missing requests))⟩) := by
  obtain ⟨reserved, made, left⟩ := reserveEach_clear clear
  have found : (reserved.free.take (missing requests)).length = missing requests :=
    List.length_take_of_le (left ▸ enough)
  unfold make allocate
  simp only [made, bind, Except.bind]
  rw [if_neg (by omega)]
  simp only [left]
  exact ⟨_, rfl⟩

/-- The three ways in which a claim comes out. -/
theorem make_cases (pool : PortPool) (requests : List PortRequest) :
    (∃ p, FirstHeld pool (explicitPorts pool requests) p ∧
      make pool requests = .error (.invalidSpec (.portInUse p))) ∨
    (spare pool requests).length < missing requests ∧ make pool requests =
      .error (.resourceExhausted (missing requests) (spare pool requests).length) ∨
    (¬ ∃ p, Clashes pool requests p) ∧ missing requests ≤ (spare pool requests).length ∧
      ∃ after, make pool requests = .ok (after,
        ⟨explicitPorts pool requests ++ (spare pool requests).take (missing requests),
          assign requests ((spare pool requests).take (missing requests))⟩) := by
  by_cases clash : ∃ p, Clashes pool requests p
  · exact .inl (make_clash clash)
  · rcases Nat.lt_or_ge (spare pool requests).length (missing requests) with short | enough
    · exact .inr (.inl ⟨short, make_short clash short⟩)
    · exact .inr (.inr ⟨clash, enough, make_enough clash enough⟩)

theorem firstHeld_of_make
    (refused : make pool requests = .error (.invalidSpec (.portInUse p))) :
    FirstHeld pool (explicitPorts pool requests) p := by
  rcases make_cases pool requests with ⟨q, first, made⟩ | ⟨-, made⟩ | ⟨-, -, rest, made⟩
  · cases refused.symm.trans made
    exact first
  · cases refused.symm.trans made
  · cases refused.symm.trans made

theorem short_of_make {requested available : Nat}
    (refused : make pool requests = .error (.resourceExhausted requested available)) :
    (spare pool requests).length < missing requests ∧ requested = missing requests ∧
      available = (spare pool requests).length := by
  rcases make_cases pool requests with ⟨q, -, made⟩ | ⟨short, made⟩ | ⟨-, -, rest, made⟩
  · cases refused.symm.trans made
  · cases refused.symm.trans made
    exact ⟨short, rfl, rfl⟩
  · cases refused.symm.trans made

/-! ## Answers in their places -/

/-- A published port with its host port. -/
def published (m : PortMapping) : ContainerPort :=
  { containerPort := m.containerPort, hostPort := some m.hostPort }

/-- The container port is kept, and an explicit host port, too. -/
structure Serves (r : PortRequest) (m : PortMapping) : Prop where
  containerPort : m.containerPort = r.containerPort
  hostPort : r.hostPort ≠ 0 → m.hostPort = r.hostPort

/-- The host ports that stand in for those that were left open. -/
def chosen (requests : List PortRequest) (mapped : List PortMapping) : List UInt16 :=
  ((requests.zip mapped).filter (fun pair => pair.1.hostPort == 0)).map (·.2.hostPort)

/-- How a pool serves requests: one for one and in order, with the lowest spare ports where the
choice was left open. -/
structure Assigned (pool : PortPool) (requests : List PortRequest) (mapped : List PortMapping) :
    Prop where
  serves : List.Forall₂ Serves requests mapped
  lowest : Lowest (Spare pool requests) (chosen requests mapped)
  distinct : ((mapped.map (·.hostPort)).filter pool.contains).Nodup
  nonzero : ∀ m ∈ mapped, m.hostPort ≠ 0

variable {fresh : List UInt16}

theorem published_assign (requests : List PortRequest) (fresh : List UInt16) :
    ((assign requests fresh).map Sandbox.mapping).map published = assign requests fresh := by
  induction requests generalizing fresh with
  | nil => rfl
  | cons r rest ih =>
      by_cases hr : r.hostPort = 0
      · simp only [assign, hr, if_true, List.map_cons, ih]
        rfl
      · simp only [assign, hr, if_false, List.map_cons, ih]
        rfl

theorem serves_assign (requests : List PortRequest) (fresh : List UInt16) :
    List.Forall₂ Serves requests ((assign requests fresh).map Sandbox.mapping) := by
  induction requests generalizing fresh with
  | nil => exact .nil
  | cons r rest ih =>
      by_cases hr : r.hostPort = 0
      · simp only [assign, hr, if_true, List.map_cons]
        exact .cons ⟨rfl, fun explicit => (explicit hr).elim⟩ (ih _)
      · simp only [assign, hr, if_false, List.map_cons]
        exact .cons ⟨rfl, fun _ => rfl⟩ (ih _)

theorem chosen_assign (count : fresh.length = missing requests) :
    chosen requests ((assign requests fresh).map Sandbox.mapping) = fresh := by
  induction requests generalizing fresh with
  | nil => exact (List.eq_nil_of_length_eq_zero count).symm
  | cons r rest ih =>
      by_cases hr : r.hostPort = 0
      · have more : fresh.length = missing rest + 1 := by
          rw [count]
          simp [missing, hr]
        cases fresh with
        | nil => cases more
        | cons q others =>
            have next := ih (Nat.succ.inj more)
            simp only [chosen] at next
            simp [chosen, assign, hr, next, Sandbox.mapping]
      · have same : fresh.length = missing rest := by
          rw [count]
          simp [missing, hr]
        have next := ih same
        simp only [chosen] at next
        simp [chosen, assign, hr, next]

theorem hostPorts_mapped (requests : List PortRequest) (fresh : List UInt16) :
    ((assign requests fresh).map Sandbox.mapping).map (·.hostPort) =
      (assign requests fresh).filterMap (·.hostPort) := by
  induction requests generalizing fresh with
  | nil => rfl
  | cons r rest ih =>
      by_cases hr : r.hostPort = 0
      · simp only [assign, hr, if_true, List.map_cons, ih]
        rfl
      · simp only [assign, hr, if_false, List.map_cons, ih]
        rfl

theorem filter_contains (pool : PortPool) (requests : List PortRequest) :
    ((requests.map (·.hostPort)).filter (· ≠ 0)).filter pool.contains =
      explicitPorts pool requests := by
  rw [explicitPorts, List.filter_filter]
  exact List.filter_congr fun p _ => Bool.and_comm ..

/-- The ports of a claim that is made serve the requests. -/
theorem assigned (nonzero : pool.contains 0 = false) (clear : ¬ ∃ p, Clashes pool requests p)
    (enough : missing requests ≤ (spare pool requests).length) :
    Assigned pool requests
      ((assign requests ((spare pool requests).take (missing requests))).map Sandbox.mapping) := by
  have count := List.length_take_of_le enough
  have lowest := lowest_take (ascending_spare pool requests) (fun _ => mem_spare) (missing requests)
  have zero {p : UInt16} (inside : pool.contains p = true) : p ≠ 0 := by
    rintro rfl
    rw [nonzero] at inside
    cases inside
  refine ⟨serves_assign requests _, ?_, ?_, ?_⟩
  · rw [chosen_assign count]
    exact lowest
  · have taken : ((spare pool requests).take (missing requests)).Nodup :=
      lowest.ascending.imp (UInt16.ne_of_lt ·)
    rw [hostPorts_mapped, ((perm_assign count).filter pool.contains).nodup_iff, List.filter_append,
      filter_contains, List.nodup_append]
    refine ⟨(explicit_of_not_clashes clear).1, taken.filter _, ?_⟩
    rintro p explicit q fresh rfl
    exact (lowest.apt p (List.mem_filter.1 fresh).1).unasked explicit
  · intro m hm
    have declared := List.mem_map_of_mem (f := (·.hostPort)) hm
    rw [hostPorts_mapped, mem_assign count] at declared
    rcases declared with ⟨-, explicit⟩ | taken
    · exact explicit
    · exact zero (lowest.apt _ taken).inside

/-- A claim that is made serves the requests, and holds what it declares of the pool's ports. -/
theorem make_served {claim : PortClaim} (nonzero : pool.contains 0 = false)
    (made : make pool requests = .ok (after, claim)) :
    ∃ mapped, Assigned pool requests mapped ∧ claim.ports = mapped.map published ∧
      ∀ m ∈ mapped, pool.contains m.hostPort = true → m.hostPort ∈ after.held := by
  obtain ⟨clear, enough, again⟩ : (¬ ∃ p, Clashes pool requests p) ∧
      missing requests ≤ (spare pool requests).length ∧ claim =
        ⟨explicitPorts pool requests ++ (spare pool requests).take (missing requests),
          assign requests ((spare pool requests).take (missing requests))⟩ := by
    rcases make_cases pool requests with ⟨q, -, other⟩ | ⟨-, other⟩ | ⟨clear, enough, rest, same⟩
    · cases made.symm.trans other
    · cases made.symm.trans other
    · cases made.symm.trans same
      exact ⟨clear, enough, rfl⟩
  subst again
  have taken := make_ok made
  refine ⟨_, assigned nonzero clear enough, (published_assign requests _).symm, ?_⟩
  intro m hm inside
  have declared := List.mem_map_of_mem (f := (·.hostPort)) hm
  rw [hostPorts_mapped] at declared
  exact (taken.held _).2 (.inl ((taken.covers _).2 ⟨inside, declared⟩))

end PortClaim
end SandboxPods
