import Mathlib.Data.List.Sort
import SandboxPods.PortPool

/-!
# What the pool's operations do to the held ports

Every operation leaves the range alone, so it is described by the ports that are
held afterwards. Because the held ports are kept in ascending order, two pools of
one range that hold the same ports are the same pool; with that, giving back what
was just taken restores the pool itself and not merely its contents.
-/
namespace SandboxPods.PortPool
variable {pool after : PortPool} {port p : UInt16}

/-- The range of one pool is the range of the other. -/
def SameRange (a b : PortPool) : Prop := a.first = b.first ∧ a.last = b.last

theorem SameRange.refl (a : PortPool) : SameRange a a := ⟨rfl, rfl⟩

theorem SameRange.symm {a b : PortPool} (h : SameRange a b) : SameRange b a :=
  ⟨h.1.symm, h.2.symm⟩

theorem SameRange.trans {a b c : PortPool} (h : SameRange a b) (k : SameRange b c) :
    SameRange a c := ⟨h.1.trans k.1, h.2.trans k.2⟩

theorem SameRange.contains_eq {a b : PortPool} (h : SameRange a b) (p : UInt16) :
    a.contains p = b.contains p := by
  unfold contains
  rw [h.1, h.2]

theorem contains_of_held (h : p ∈ pool.held) : pool.contains p = true := by
  have bounds := pool.within p h
  simp only [contains, Bool.and_eq_true, decide_eq_true_eq]
  exact bounds

/-- A pool is known by its range and the ports it holds. -/
theorem eq_of_mem_held {a b : PortPool} (range : SameRange a b)
    (same : ∀ p, p ∈ a.held ↔ p ∈ b.held) : a = b := by
  have irrefl : Std.Irrefl (α := UInt16) (· < ·) := ⟨UInt16.lt_irrefl⟩
  apply ext_held range.1 range.2
  exact a.ascending.eq_of_mem_iff b.ascending (fun {p} => same p)

/-! ## Giving back -/

theorem sameRange_release (pool : PortPool) (port : UInt16) :
    SameRange (pool.release port) pool := ⟨rfl, rfl⟩

theorem releaseAll_cons (pool : PortPool) (port : UInt16) (ports : List UInt16) :
    pool.releaseAll (port :: ports) = (pool.release port).releaseAll ports := rfl

theorem sameRange_releaseAll (pool : PortPool) (ports : List UInt16) :
    SameRange (pool.releaseAll ports) pool := by
  induction ports generalizing pool with
  | nil => exact .refl pool
  | cons port ports ih =>
      rw [releaseAll_cons]
      exact (ih _).trans (sameRange_release pool port)

theorem mem_held_releaseAll {ports : List UInt16} :
    p ∈ (pool.releaseAll ports).held ↔ p ∈ pool.held ∧ p ∉ ports := by
  induction ports generalizing pool with
  | nil => simp [releaseAll]
  | cons port ports ih =>
      rw [releaseAll_cons, ih, mem_held_release, List.mem_cons, not_or, and_assoc]

/-! ## Taking -/

theorem reserve_of_free (range : pool.contains port = true) (free : port ∉ pool.held) :
    ∃ after, pool.reserve port = some after := by
  simp only [contains, Bool.and_eq_true, decide_eq_true_eq] at range
  exact ⟨_, dif_pos ⟨range, free⟩⟩

theorem sameRange_reserve (h : pool.reserve port = some after) : SameRange after pool := by
  unfold reserve at h
  split at h
  · simp only [Option.some.injEq] at h
    subst h
    exact ⟨rfl, rfl⟩
  · simp at h

/-- Only a free port of the range is taken. -/
theorem free_of_reserve (h : pool.reserve port = some after) :
    pool.contains port = true ∧ port ∉ pool.held := by
  unfold reserve at h
  split at h
  · rename_i known
    simp only [contains, Bool.and_eq_true, decide_eq_true_eq]
    exact known
  · simp at h

/-- What an allocation hands out: as many ports as asked for, all of them free before and
held from now on. -/
structure Handout (pool : PortPool) (n : Nat) (fresh : List UInt16) (after : PortPool) : Prop where
  count : fresh.length = n
  range : SameRange after pool
  contained : ∀ p ∈ fresh, pool.contains p = true
  free : ∀ p ∈ fresh, p ∉ pool.held
  held : ∀ p, p ∈ after.held ↔ p ∈ fresh ∨ p ∈ pool.held

theorem handout_of_allocate {n : Nat} {fresh : List UInt16}
    (h : pool.allocate n = .ok (fresh, after)) : Handout pool n fresh after := by
  have known : ∀ p ∈ pool.free.take n, pool.contains p = true ∧ p ∉ pool.held := by
    intro p hp
    have hfree := mem_free.1 (List.mem_of_mem_take hp)
    refine ⟨?_, hfree.2⟩
    simp only [contains, Bool.and_eq_true, decide_eq_true_eq]
    exact hfree.1
  have short : (pool.free.take n).length ≤ n := List.length_take_le n pool.free
  unfold allocate at h
  dsimp only at h
  split at h
  · cases h
  · rename_i enough
    cases h
    refine ⟨by omega, ⟨rfl, rfl⟩, fun p hp => (known p hp).1, fun p hp => (known p hp).2, ?_⟩
    intro p
    exact mem_union

/-- An allocation of nothing succeeds and takes nothing. -/
theorem allocate_zero (pool : PortPool) : pool.allocate 0 = .ok ([], pool) := by
  cases pool
  rfl

/-! ## Counting -/

theorem SameRange.ports_eq {a b : PortPool} (h : SameRange a b) : a.ports = b.ports := by
  unfold ports
  rw [h.1, h.2]

theorem length_insertPort (port : UInt16) (held : List UInt16) :
    (insertPort port held).length = held.length + 1 := by
  induction held with
  | nil => rfl
  | cons q rest ih =>
      unfold insertPort
      split
      · rfl
      · rw [List.length_cons, ih, List.length_cons]

theorem length_union (a b : List UInt16) : (union a b).length = a.length + b.length := by
  induction a with
  | nil => simp [union]
  | cons q rest ih =>
      rw [union, List.foldr_cons, length_insertPort, List.length_cons]
      change (union rest b).length + 1 = _
      omega

theorem length_without {ports held : List UInt16} (ports_ascending : ports.Pairwise (· < ·))
    (held_ascending : held.Pairwise (· < ·)) (part : ∀ h ∈ held, h ∈ ports) :
    (without ports held).length + held.length = ports.length := by
  fun_induction without ports held with
  | case1 held =>
      cases held with
      | nil => rfl
      | cons h rest => cases part h List.mem_cons_self
  | case2 => rfl
  | case3 ports h held ih =>
      obtain ⟨above, ports_ascending⟩ := List.pairwise_cons.1 ports_ascending
      obtain ⟨held_above, held_ascending⟩ := List.pairwise_cons.1 held_ascending
      have rest : ∀ x ∈ held, x ∈ ports := fun x hx =>
        (List.mem_cons.1 (part x (List.mem_cons_of_mem _ hx))).resolve_left
          (fun e => UInt16.lt_irrefl h (e ▸ held_above x hx))
      have := ih ports_ascending held_ascending rest
      simp only [List.length_cons]
      omega
  | case4 q ports h held ne ih =>
      obtain ⟨above, ports_ascending⟩ := List.pairwise_cons.1 ports_ascending
      have first : h ∈ ports :=
        (List.mem_cons.1 (part h List.mem_cons_self)).resolve_left (fun e => ne e.symm)
      have rest : ∀ x ∈ h :: held, x ∈ ports := by
        intro x hx
        refine (List.mem_cons.1 (part x hx)).resolve_left ?_
        rintro rfl
        have below := above h first
        rcases List.mem_cons.1 hx with rfl | hx
        · exact UInt16.lt_irrefl _ below
        · have higher := (List.pairwise_cons.1 held_ascending).1 x hx
          exact UInt16.lt_irrefl _ (UInt16.lt_trans below higher)
      have := ih ports_ascending held_ascending rest
      simp only [List.length_cons] at this ⊢
      omega

/-- Every port of the range is free or held. -/
theorem length_free (pool : PortPool) : pool.free.length + pool.held.length = pool.ports.length :=
  length_without pool.ascending_ports pool.ascending fun h hh => mem_ports.2 (pool.within h hh)

theorem allocate_enough {n : Nat} (enough : n ≤ pool.free.length) : ∃ fresh after,
    pool.allocate n = .ok (fresh, after) ∧ after.held.length = pool.held.length + n := by
  have found : (pool.free.take n).length = n := List.length_take_of_le enough
  unfold allocate
  dsimp only
  rw [if_neg (by omega)]
  refine ⟨_, _, rfl, ?_⟩
  rw [length_union, found, Nat.add_comm]

theorem allocate_short {n : Nat} (short : pool.free.length < n) :
    pool.allocate n = .error ⟨n, pool.free.length⟩ := by
  have found : pool.free.take n = pool.free := List.take_of_length_le (Nat.le_of_lt short)
  unfold allocate
  simp only [found]
  rw [if_pos short]

end SandboxPods.PortPool
