import Mathlib.Data.Finset.Card
import Mathlib.Data.Finset.Dedup
import SandboxPods.Proofs.PortChoice

/-!
# Runs of the pool's operations

What the pool answers can be told from its range and the set of ports that are held. The lowest
ports outside the set are handed out, as many as are asked for or none; a single port is taken
when it is in the range and outside the set; and what is given back leaves the set, if it was in
it. Every run of operations is a run of that set with the same answers, from the empty set on, so
what holds of the set along a run holds of the pool: a port that one operation obtained is not
obtained by a later one unless it has been given back in between.
-/
namespace SandboxPods.PortPool

/-! ## The set of held ports -/

inductive Operation where
  | next
  | allocate (n : Nat)
  | reserve (port : UInt16)
  | release (port : UInt16)
  deriving DecidableEq, Repr

inductive Answer where
  | port (port : UInt16)
  | ports (ports : List UInt16)
  | exhausted (e : PortsExhausted)
  | reserved (success : Bool)
  | released
  deriving DecidableEq, Repr

/-- A port of the range that is not held. -/
def Free (first last : UInt16) (held : Finset UInt16) (p : UInt16) : Prop :=
  (first ≤ p ∧ p ≤ last) ∧ p ∉ held

/-- How many ports the range has. -/
def size (first last : UInt16) : Nat := last.toNat - first.toNat + 1

/-- What an operation may answer when these ports of the range are held, and which ones are held
afterwards. -/
inductive SetStep (first last : UInt16) (held : Finset UInt16) :
    Operation × Answer → Finset UInt16 → Prop
  | next {p : UInt16} (lowest : Lowest (Free first last held) [p]) :
      SetStep first last held (.next, .port p) (insert p held)
  | none (full : ∀ p, ¬ Free first last held p) :
      SetStep first last held (.next, .exhausted ⟨1, 0⟩) held
  | allocate {ports : List UInt16} (lowest : Lowest (Free first last held) ports)
      (enough : ports.length ≤ size first last - held.card) :
      SetStep first last held (.allocate ports.length, .ports ports) (held ∪ ports.toFinset)
  | short {n : Nat} (short : size first last - held.card < n) :
      SetStep first last held (.allocate n, .exhausted ⟨n, size first last - held.card⟩) held
  | reserve {p : UInt16} (free : Free first last held p) :
      SetStep first last held (.reserve p, .reserved true) (insert p held)
  | refuse {p : UInt16} (unfit : ¬ Free first last held p) :
      SetStep first last held (.reserve p, .reserved false) held
  | release (p : UInt16) : SetStep first last held (.release p, .released) (held.erase p)

/-- A run of the set with the operations and their answers in order. -/
inductive SetRun (first last : UInt16) :
    Finset UInt16 → List (Operation × Answer) → Finset UInt16 → Prop
  | nil (held : Finset UInt16) : SetRun first last held [] held
  | cons {held next after : Finset UInt16} {event : Operation × Answer}
      {events : List (Operation × Answer)} (step : SetStep first last held event next)
      (rest : SetRun first last next events after) : SetRun first last held (event :: events) after

/-- The operation hands out the port. -/
inductive Obtains : Operation × Answer → UInt16 → Prop
  | next (p : UInt16) : Obtains (.next, .port p) p
  | allocate {n : Nat} {ports : List UInt16} {p : UInt16} (mem : p ∈ ports) :
      Obtains (.allocate n, .ports ports) p
  | reserve (p : UInt16) : Obtains (.reserve p, .reserved true) p

variable {first last p : UInt16} {held after : Finset UInt16} {event other : Operation × Answer}
variable {before between rest : List (Operation × Answer)}

theorem SetStep.obtained (step : SetStep first last held event after) (h : Obtains event p) :
    p ∉ held ∧ p ∈ after := by
  cases h with
  | next =>
      cases step with
      | next lowest =>
          exact ⟨(lowest.apt p List.mem_cons_self).2, Finset.mem_insert_self p held⟩
  | allocate mem =>
      cases step with
      | allocate lowest =>
          exact ⟨(lowest.apt p mem).2, Finset.mem_union_right held (List.mem_toFinset.2 mem)⟩
  | reserve =>
      cases step with
      | reserve free => exact ⟨free.2, Finset.mem_insert_self p held⟩

theorem SetStep.kept (step : SetStep first last held event after) (mem : p ∈ held)
    (other : event.1 ≠ .release p) : p ∈ after := by
  cases step with
  | next | reserve => exact Finset.mem_insert_of_mem mem
  | allocate => exact Finset.mem_union_left _ mem
  | none | short | refuse => exact mem
  | release q => exact Finset.mem_erase.2 ⟨fun same => other (congrArg _ same.symm), mem⟩

theorem SetRun.kept (run : SetRun first last held between after) (mem : p ∈ held)
    (others : ∀ event ∈ between, event.1 ≠ .release p) : p ∈ after := by
  induction run with
  | nil => exact mem
  | cons step _ ih =>
      obtain ⟨here, later⟩ := List.forall_mem_cons.1 others
      exact ih (step.kept mem here) later

theorem SetRun.split (run : SetRun first last held (before ++ rest) after) :
    ∃ next, SetRun first last held before next ∧ SetRun first last next rest after := by
  induction before generalizing held with
  | nil => exact ⟨held, .nil held, run⟩
  | cons event before ih =>
      cases run with
      | cons step run =>
          obtain ⟨next, first, second⟩ := ih run
          exact ⟨next, .cons step first, second⟩

/-- Between two operations that obtain a port it has been given back. -/
theorem SetRun.released_between
    (run : SetRun first last held (before ++ event :: (between ++ other :: rest)) after)
    (earlier : Obtains event p) (later : Obtains other p) :
    ∃ event ∈ between, event.1 = .release p := by
  obtain ⟨start, -, run⟩ := run.split
  cases run with
  | cons step run =>
      obtain ⟨middle, during, run⟩ := run.split
      cases run with
      | cons again _ =>
          by_contra kept
          have mem := during.kept (step.obtained earlier).2 fun event mem same =>
            kept ⟨event, mem, same⟩
          exact (again.obtained later).1 mem

/-! ## The pool as its set of held ports -/

variable {pool : PortPool}

def heldSet (pool : PortPool) : Finset UInt16 := pool.held.toFinset

/-- An operation of the pool: its answer and the pool afterwards, which is the same one when the
operation fails. -/
def perform (pool : PortPool) : Operation → Answer × PortPool
  | .next =>
    match pool.next with
    | .ok (port, after) => (.port port, after)
    | .error e => (.exhausted e, pool)
  | .allocate n =>
    match pool.allocate n with
    | .ok (ports, after) => (.ports ports, after)
    | .error e => (.exhausted e, pool)
  | .reserve port =>
    match pool.reserve port with
    | some after => (.reserved true, after)
    | none => (.reserved false, pool)
  | .release port => (.released, pool.release port)

/-- The operations with their answers. -/
def events (pool : PortPool) : List Operation → List (Operation × Answer)
  | [] => []
  | op :: ops => (op, (pool.perform op).1) :: (pool.perform op).2.events ops

/-- The pool after the operations. -/
def afterAll (pool : PortPool) (ops : List Operation) : PortPool :=
  ops.foldl (fun pool op => (pool.perform op).2) pool

theorem mem_heldSet : p ∈ pool.heldSet ↔ p ∈ pool.held := List.mem_toFinset

theorem heldSet_eq (same : ∀ p, p ∈ pool.held ↔ p ∈ held) : pool.heldSet = held := by
  ext p
  rw [mem_heldSet, same]

theorem card_heldSet (pool : PortPool) : pool.heldSet.card = pool.held.length :=
  List.toFinset_card_of_nodup (pool.ascending.imp UInt16.ne_of_lt)

theorem mem_free_iff : p ∈ pool.free ↔ Free pool.first pool.last pool.heldSet p := by
  rw [mem_free, Free, mem_heldSet]

theorem lowest_free (pool : PortPool) (n : Nat) :
    Lowest (Free pool.first pool.last pool.heldSet) (pool.free.take n) :=
  lowest_take pool.ascending_free (fun _ => mem_free_iff) n

/-- What is available is what the held ports leave of the range, of which they are no more than
there are. -/
theorem card_add_available (range : pool.first ≤ pool.last) :
    pool.heldSet.card + pool.available = size pool.first pool.last ∧
      pool.available = pool.free.length := by
  have bounds := UInt16.le_iff_toNat_le.1 range
  have counted := pool.length_free
  rw [ports, List.length_map, List.length_range'] at counted
  rw [available, card_heldSet, size]
  omega

theorem available_eq (range : pool.first ≤ pool.last) :
    pool.available = size pool.first pool.last - pool.heldSet.card := by
  have counted := (card_add_available range).1
  omega

/-! ## One operation -/

variable {n : Nat} {next : PortPool} {ports : List UInt16}

/-- An allocation takes the lowest free ports, and fails only when there are too few. -/
theorem allocate_cases (range : pool.first ≤ pool.last) (n : Nat) :
    (∃ next, n ≤ pool.available ∧ pool.allocate n = .ok (pool.free.take n, next)) ∨
      pool.available < n ∧ pool.allocate n = .error ⟨n, pool.available⟩ := by
  rw [(card_add_available range).2]
  rcases Nat.lt_or_ge pool.free.length n with short | enough
  · exact .inr ⟨short, allocate_short short⟩
  · have found : ¬ (pool.free.take n).length < n := by
      rw [List.length_take_of_le enough]
      exact Nat.lt_irrefl n
    exact .inl ⟨_, enough, if_neg found⟩

theorem heldSet_of_allocate (h : pool.allocate n = .ok (ports, next)) :
    next.heldSet = pool.heldSet ∪ ports.toFinset :=
  heldSet_eq fun p => by
    rw [(handout_of_allocate h).held, Finset.mem_union, mem_heldSet, List.mem_toFinset, or_comm]

/-- A single port is one that an allocation of one comes to, so there is always a first one. -/
theorem next_cases (range : pool.first ≤ pool.last) :
    (∃ p next, pool.allocate 1 = .ok ([p], next) ∧ pool.next = .ok (p, next) ∧
      Lowest (Free pool.first pool.last pool.heldSet) [p]) ∨
    pool.available = 0 ∧ pool.allocate 1 = .error ⟨1, 0⟩ ∧ pool.next = .error ⟨1, 0⟩ := by
  unfold PortPool.next
  rcases allocate_cases range 1 with ⟨next, -, made⟩ | ⟨short, made⟩
  · have count := (handout_of_allocate made).count
    have lowest := lowest_free pool 1
    obtain ⟨p, single⟩ := List.length_eq_one_iff.1 count
    rw [single] at made lowest
    exact .inl ⟨p, next, made, by rw [made], lowest⟩
  · have none : pool.available = 0 := Nat.lt_one_iff.1 short
    rw [none] at made
    exact .inr ⟨none, made, by rw [made]⟩

theorem heldSet_of_reserve (h : pool.reserve p = some next) :
    next.heldSet = insert p pool.heldSet :=
  heldSet_eq fun q => by rw [mem_held_of_reserve h, Finset.mem_insert, mem_heldSet]

theorem heldSet_release (pool : PortPool) (p : UInt16) :
    (pool.release p).heldSet = pool.heldSet.erase p :=
  heldSet_eq fun q => by rw [mem_held_release, Finset.mem_erase, mem_heldSet, and_comm]

theorem free_iff_contains :
    Free pool.first pool.last pool.heldSet p ↔ pool.contains p = true ∧ p ∉ pool.held := by
  rw [Free, mem_heldSet, contains, Bool.and_eq_true, decide_eq_true_eq, decide_eq_true_eq]

/-- An operation of the pool is a step of its held ports, and leaves the range alone. -/
theorem setStep_perform (range : pool.first ≤ pool.last) (op : Operation) :
    SetStep pool.first pool.last pool.heldSet (op, (pool.perform op).1)
        (pool.perform op).2.heldSet ∧
      SameRange (pool.perform op).2 pool := by
  cases op with
  | next =>
      rcases next_cases range with ⟨p, next, made, same, lowest⟩ | ⟨none, -, same⟩
      · have taken := heldSet_of_allocate made
        rw [List.toFinset_cons, List.toFinset_nil, insert_empty_eq, Finset.union_comm,
          ← Finset.insert_eq] at taken
        simp only [perform, same, taken]
        exact ⟨.next lowest, (handout_of_allocate made).range⟩
      · have full (p : UInt16) : ¬ Free pool.first pool.last pool.heldSet p := by
          intro free
          rw [(card_add_available range).2] at none
          exact List.ne_nil_of_mem (mem_free_iff.2 free) (List.eq_nil_of_length_eq_zero none)
        simp only [perform, same]
        exact ⟨.none full, .refl pool⟩
  | allocate n =>
      rcases allocate_cases range n with ⟨next, enough, made⟩ | ⟨short, made⟩
      · have handout := handout_of_allocate made
        rw [← handout.count, available_eq range] at enough
        have step := SetStep.allocate (lowest_free pool n) enough
        rw [handout.count, ← heldSet_of_allocate made] at step
        simp only [perform, made]
        exact ⟨step, handout.range⟩
      · rw [available_eq range] at short made
        simp only [perform, made]
        exact ⟨.short short, .refl pool⟩
  | reserve p =>
      cases made : pool.reserve p with
      | some next =>
          simp only [perform, made, heldSet_of_reserve made]
          exact ⟨.reserve (free_iff_contains.2 (free_of_reserve made)), sameRange_reserve made⟩
      | none =>
          have unfit : ¬ Free pool.first pool.last pool.heldSet p := by
            intro free
            obtain ⟨inside, unheld⟩ := free_iff_contains.1 free
            obtain ⟨next, other⟩ := reserve_of_free inside unheld
            cases made.symm.trans other
          simp only [perform, made]
          exact ⟨.refuse unfit, .refl pool⟩
  | release p =>
      simp only [perform, heldSet_release]
      exact ⟨.release p, sameRange_release pool p⟩

/-! ## Runs -/

/-- A run of operations is a run of the held ports, and leaves the range alone. -/
theorem setRun_afterAll (pool : PortPool) (range : pool.first ≤ pool.last) (ops : List Operation) :
    SetRun pool.first pool.last pool.heldSet (pool.events ops) (pool.afterAll ops).heldSet ∧
      SameRange (pool.afterAll ops) pool := by
  induction ops generalizing pool with
  | nil => exact ⟨.nil _, .refl pool⟩
  | cons op ops ih =>
      obtain ⟨step, first, last⟩ := setStep_perform range op
      obtain ⟨rest, same⟩ := ih (pool.perform op).2 (by rw [first, last]; exact range)
      rw [first, last] at rest
      exact ⟨.cons step rest, same.trans ⟨first, last⟩⟩

/-- How a pool goes by the set of its held ports: they are ports of the range, the others are
available, and what is asked for next is taken from the others, lowest first. -/
structure Refines (first last : UInt16) (pool : PortPool) : Prop where
  within : ∀ p ∈ pool.heldSet, first ≤ p ∧ p ≤ last
  counted : pool.heldSet.card + pool.available = size first last
  allocated : ∀ n ≤ pool.available, ∃ ports next, pool.allocate n = .ok (ports, next) ∧
    ports.length = n ∧ Lowest (Free first last pool.heldSet) ports ∧
    next.heldSet = pool.heldSet ∪ ports.toFinset
  short : ∀ n, pool.available < n → pool.allocate n = .error ⟨n, pool.available⟩
  single : ∀ ports next, pool.allocate 1 = .ok (ports, next) →
    ∃ p, ports = [p] ∧ pool.next = .ok (p, next)
  reserved : ∀ p, (pool.reserve p).isSome ↔ Free first last pool.heldSet p

theorem refines (pool : PortPool) (range : pool.first ≤ pool.last) :
    Refines pool.first pool.last pool where
  within p held := pool.within p (mem_heldSet.1 held)
  counted := (card_add_available range).1
  allocated n enough := by
    rcases allocate_cases range n with ⟨next, -, made⟩ | ⟨short, -⟩
    · exact ⟨_, next, made, (handout_of_allocate made).count, lowest_free pool n,
        heldSet_of_allocate made⟩
    · exact (Nat.not_lt.2 enough short).elim
  short n few := by
    rcases allocate_cases range n with ⟨-, enough, -⟩ | ⟨-, failed⟩
    · exact (Nat.not_lt.2 enough few).elim
    · exact failed
  single ports next made := by
    rcases next_cases range with ⟨p, other, same, one, -⟩ | ⟨-, failed, -⟩
    · cases made.symm.trans same
      exact ⟨p, rfl, one⟩
    · cases made.symm.trans failed
  reserved p := by
    rw [Option.isSome_iff_exists, free_iff_contains]
    constructor
    · rintro ⟨next, made⟩
      exact free_of_reserve made
    · exact fun free => reserve_of_free free.1 free.2

/-- A pool of a range is a set of ports of that range from which the lowest free ones are taken.
Every run of its operations is a run of that set with the same answers and leaves such a pool, and
no port is obtained twice without being given back in between. -/
theorem free_set_refined (first last : UInt16) (range : first ≤ last) (ops : List Operation) :
    SetRun first last ∅ ((ofRange first last).events ops)
      ((ofRange first last).afterAll ops).heldSet ∧
    Refines first last ((ofRange first last).afterAll ops) ∧
    ∀ before between rest earlier later p,
      (ofRange first last).events ops = before ++ earlier :: (between ++ later :: rest) →
      Obtains earlier p → Obtains later p → ∃ event ∈ between, event.1 = .release p := by
  obtain ⟨run, firsts, lasts⟩ := setRun_afterAll (ofRange first last) range ops
  refine ⟨run, ?_, ?_⟩
  · have kept := refines ((ofRange first last).afterAll ops) (by rw [firsts, lasts]; exact range)
    rw [firsts, lasts] at kept
    exact kept
  · intro before between rest earlier later p split obtained again
    rw [split] at run
    exact run.released_between obtained again

/-- At the top of the port numbers: the lowest port is obtained twice and given back in between,
while giving back a port outside the range changes nothing. -/
theorem last_ports_refined :
    (65533 : UInt16) ≤ 65535 ∧
    (ofRange 65533 65535).events
        [.next, .reserve 65535, .allocate 2, .release 1, .release 65533, .allocate 2, .next] =
      [(.next, .port 65533), (.reserve 65535, .reserved true), (.allocate 2, .exhausted ⟨2, 1⟩),
        (.release 1, .released), (.release 65533, .released),
        (.allocate 2, .ports [65533, 65534]), (.next, .exhausted ⟨1, 0⟩)] ∧
    ∃ event ∈ [(Operation.reserve 65535, Answer.reserved true),
        (.allocate 2, .exhausted ⟨2, 1⟩), (.release 1, .released), (.release 65533, .released)],
      event.1 = .release 65533 := by
  have told : (ofRange 65533 65535).events
        [.next, .reserve 65535, .allocate 2, .release 1, .release 65533, .allocate 2, .next] =
      [(.next, .port 65533), (.reserve 65535, .reserved true), (.allocate 2, .exhausted ⟨2, 1⟩),
        (.release 1, .released), (.release 65533, .released),
        (.allocate 2, .ports [65533, 65534]), (.next, .exhausted ⟨1, 0⟩)] := by
    decide
  obtain ⟨-, -, apart⟩ := free_set_refined 65533 65535 (by decide)
    [.next, .reserve 65535, .allocate 2, .release 1, .release 65533, .allocate 2, .next]
  refine ⟨by decide, told, ?_⟩
  exact apart [] _ [(.next, .exhausted ⟨1, 0⟩)] _ _ 65533 told (.next 65533)
    (.allocate (by decide))

end SandboxPods.PortPool
