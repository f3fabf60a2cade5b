import SandboxPods.Failure

/-!
# Host ports

Sandboxes publish ports on the node, and host ports come from one inclusive
range. The pool keeps the ports that are held, each once and in ascending order,
so that two pools of one range are equal exactly when they hold the same ports.
The lowest free ports are handed out first.
-/
namespace SandboxPods

structure PortPool where
  first : UInt16
  last : UInt16
  held : List UInt16
  ascending : held.Pairwise (· < ·)
  within : ∀ p ∈ held, first ≤ p ∧ p ≤ last

/-- Too few free ports for a request. -/
structure PortsExhausted where
  requested : Nat
  available : Nat
  deriving DecidableEq, Repr

def PortsExhausted.message (e : PortsExhausted) : String :=
  "insufficient host ports: requested " ++ toString e.requested ++ ", " ++
    toString e.available ++ " available"

instance : Failure PortsExhausted := ⟨fun _ => "PortsExhausted", PortsExhausted.message⟩

namespace PortPool

def ofRange (first last : UInt16) : PortPool := ⟨first, last, [], .nil, by simp⟩

/-- The range that sandboxes publish their ports in. -/
def empty : PortPool := ofRange 62000 65535

instance : EmptyCollection PortPool := ⟨empty⟩
instance : Inhabited PortPool := ⟨empty⟩

/-- The port lies in the pool's range. -/
def contains (pool : PortPool) (port : UInt16) : Bool := pool.first ≤ port && port ≤ pool.last

def isHeld (pool : PortPool) (port : UInt16) : Bool := pool.held.contains port

/-- Every port of the range, lowest first. -/
def ports (pool : PortPool) : List UInt16 :=
  (List.range' pool.first.toNat (pool.last.toNat + 1 - pool.first.toNat)).map UInt16.ofNat

/-- The ports of an ascending list that are not in another, which is a part of it. -/
def without : List UInt16 → List UInt16 → List UInt16
  | [], _ => []
  | ports, [] => ports
  | p :: ports, h :: held =>
    if p = h then without ports held else p :: without ports (h :: held)

/-- The ports of the range that nobody holds, lowest first. -/
def free (pool : PortPool) : List UInt16 := without pool.ports pool.held

/-- How many ports are free. -/
def available (pool : PortPool) : Nat :=
  pool.last.toNat + 1 - pool.first.toNat - pool.held.length

/-! ## Free ports -/

theorem toNat_ofNat {n : Nat} (h : n ≤ 65535) : (UInt16.ofNat n).toNat = n :=
  UInt16.toNat_ofNat_of_lt' (Nat.lt_succ_of_le h)

theorem mem_ports {pool : PortPool} {p : UInt16} :
    p ∈ pool.ports ↔ pool.first ≤ p ∧ p ≤ pool.last := by
  have := pool.last.toNat_lt
  simp only [ports, List.mem_map, List.mem_range'_1, UInt16.le_iff_toNat_le]
  constructor
  · rintro ⟨n, hn, rfl⟩
    rw [toNat_ofNat (by omega)]
    omega
  · intro h
    exact ⟨p.toNat, by omega, UInt16.ofNat_toNat⟩

theorem ascending_ports (pool : PortPool) : pool.ports.Pairwise (· < ·) := by
  have := pool.last.toNat_lt
  rw [ports, List.pairwise_map]
  refine List.Pairwise.imp_of_mem ?_ List.pairwise_lt_range'
  intro a b ha hb lt
  rw [List.mem_range'_1] at ha hb
  rw [UInt16.lt_iff_toNat_lt, toNat_ofNat (by omega), toNat_ofNat (by omega)]
  exact lt

theorem sublist_without (ports held : List UInt16) : (without ports held).Sublist ports := by
  fun_induction without ports held with
  | case1 => simp
  | case2 => simp
  | case3 p ports held ih => exact ih.cons _
  | case4 p ports h held _ ih => exact ih.cons_cons _

theorem mem_without {ports held : List UInt16} (ports_ascending : ports.Pairwise (· < ·))
    (held_ascending : held.Pairwise (· < ·)) (part : ∀ h ∈ held, h ∈ ports) (p : UInt16) :
    p ∈ without ports held ↔ p ∈ ports ∧ p ∉ held := by
  fun_induction without ports held with
  | case1 => simp
  | case2 => simp
  | case3 ports h held ih =>
    have ⟨above, ports_ascending⟩ := List.pairwise_cons.1 ports_ascending
    have ⟨held_above, held_ascending⟩ := List.pairwise_cons.1 held_ascending
    have rest : ∀ x ∈ held, x ∈ ports := fun x hx =>
      (List.mem_cons.1 (part x (List.mem_cons_of_mem _ hx))).resolve_left
        (fun e => UInt16.lt_irrefl h (e ▸ held_above x hx))
    have fresh : h ∉ ports := fun hm => UInt16.lt_irrefl h (above h hm)
    rw [ih ports_ascending held_ascending rest]
    grind
  | case4 q ports h held ne ih =>
    have ⟨above, ports_ascending⟩ := List.pairwise_cons.1 ports_ascending
    have ⟨held_above, _⟩ := List.pairwise_cons.1 held_ascending
    have first : h ∈ ports :=
      (List.mem_cons.1 (part h List.mem_cons_self)).resolve_left (fun e => ne e.symm)
    have higher : ∀ x ∈ h :: held, q < x := fun x hx => by
      rcases List.mem_cons.1 hx with rfl | hx
      · exact above _ first
      · exact UInt16.lt_trans (above h first) (held_above x hx)
    have rest : ∀ x ∈ h :: held, x ∈ ports := fun x hx =>
      (List.mem_cons.1 (part x hx)).resolve_left
        (fun e => UInt16.lt_irrefl q (e ▸ higher x hx))
    have fresh : q ∉ h :: held := fun hm => UInt16.lt_irrefl q (higher q hm)
    rw [List.mem_cons, ih ports_ascending held_ascending rest]
    grind

/-- A port is free exactly when it is in the range and not held. -/
theorem mem_free {pool : PortPool} {p : UInt16} :
    p ∈ pool.free ↔ (pool.first ≤ p ∧ p ≤ pool.last) ∧ p ∉ pool.held := by
  rw [free, mem_without pool.ascending_ports pool.ascending
    (fun h hh => mem_ports.2 (pool.within h hh)) p, mem_ports]

theorem ascending_free (pool : PortPool) : pool.free.Pairwise (· < ·) :=
  pool.ascending_ports.sublist (sublist_without _ _)

/-! ## Taking and giving back -/

def insertPort (port : UInt16) : List UInt16 → List UInt16
  | [] => [port]
  | p :: rest => if port < p then port :: p :: rest else p :: insertPort port rest

theorem mem_insertPort {port p : UInt16} {held : List UInt16} :
    p ∈ insertPort port held ↔ p = port ∨ p ∈ held := by
  induction held with
  | nil => simp [insertPort]
  | cons q rest ih =>
    by_cases h : port < q
    · simp [insertPort, h]
    · simp [insertPort, h, ih, or_left_comm]

theorem ascending_insertPort {port : UInt16} {held : List UInt16}
    (ascending : held.Pairwise (· < ·)) (fresh : port ∉ held) :
    (insertPort port held).Pairwise (· < ·) := by
  induction held with
  | nil => simp [insertPort]
  | cons q rest ih =>
    have ⟨below, rest_ascending⟩ := List.pairwise_cons.1 ascending
    by_cases h : port < q
    · simp only [insertPort, h, if_true]
      refine List.pairwise_cons.2 ⟨fun p hp => ?_, ascending⟩
      rcases List.mem_cons.1 hp with rfl | hp
      · exact h
      · exact UInt16.lt_trans h (below p hp)
    · simp only [insertPort, h, if_false]
      refine List.pairwise_cons.2 ⟨fun p hp => ?_, ih rest_ascending (fun hp =>
        fresh (List.mem_cons_of_mem _ hp))⟩
      rcases mem_insertPort.1 hp with rfl | hp
      · have : q ≠ p := fun e => fresh (e ▸ List.mem_cons_self)
        exact UInt16.lt_of_le_of_ne (UInt16.not_lt.1 h) this
      · exact below p hp

/-- Holds a free port of the range; any other port is refused. -/
def reserve (pool : PortPool) (port : UInt16) : Option PortPool :=
  if h : (pool.first ≤ port ∧ port ≤ pool.last) ∧ port ∉ pool.held then
    some { pool with
      held := insertPort port pool.held
      ascending := ascending_insertPort pool.ascending h.2
      within := fun p hp => (mem_insertPort.1 hp).elim (fun e => e ▸ h.1) (pool.within p) }
  else none

/-- Gives a port back; a port that is not held stays so. -/
def release (pool : PortPool) (port : UInt16) : PortPool :=
  { pool with
    held := pool.held.filter (· ≠ port)
    ascending := pool.ascending.filter _
    within := fun p hp => pool.within p (List.mem_filter.1 hp).1 }

def releaseAll (pool : PortPool) (ports : List UInt16) : PortPool := ports.foldl release pool

/-- Two ascending lists without a common port, as one. -/
def union (a b : List UInt16) : List UInt16 := a.foldr insertPort b

theorem mem_union {a b : List UInt16} {p : UInt16} : p ∈ union a b ↔ p ∈ a ∨ p ∈ b := by
  induction a with
  | nil => simp [union]
  | cons q rest ih =>
    rw [union, List.foldr_cons, mem_insertPort, List.mem_cons, or_assoc, ← ih]
    rfl

theorem ascending_union {a b : List UInt16} (ha : a.Pairwise (· < ·)) (hb : b.Pairwise (· < ·))
    (apart : ∀ p ∈ a, p ∉ b) : (union a b).Pairwise (· < ·) := by
  induction a with
  | nil => exact hb
  | cons q rest ih =>
    have ⟨above, rest_ascending⟩ := List.pairwise_cons.1 ha
    have merged : (union rest b).Pairwise (· < ·) :=
      ih rest_ascending (fun p hp => apart p (List.mem_cons_of_mem _ hp))
    have fresh : q ∉ union rest b := fun hq => (mem_union.1 hq).elim
      (fun h => UInt16.lt_irrefl q (above q h)) (apart q List.mem_cons_self)
    exact ascending_insertPort merged fresh

/-- Holds the lowest free ports, as many as asked for, or none of them. -/
def allocate (pool : PortPool) (n : Nat) : Except PortsExhausted (List UInt16 × PortPool) :=
  let found := pool.free.take n
  have known : ∀ p ∈ found, (pool.first ≤ p ∧ p ≤ pool.last) ∧ p ∉ pool.held :=
    fun _ hp => mem_free.1 (List.mem_of_mem_take hp)
  if found.length < n then .error ⟨n, found.length⟩
  else .ok (found, { pool with
    held := union found pool.held
    ascending := ascending_union (pool.ascending_free.sublist (List.take_sublist _ _))
      pool.ascending (fun p hp => (known p hp).2)
    within := fun p hp => (mem_union.1 hp).elim (fun h => (known p h).1) (pool.within p) })

/-- Holds the lowest free port. -/
def next (pool : PortPool) : Except PortsExhausted (UInt16 × PortPool) :=
  match pool.allocate 1 with
  | .ok (port :: _, pool) => .ok (port, pool)
  | .ok ([], _) => .error ⟨1, 0⟩
  | .error e => .error e

/-! ## Laws -/

theorem ext_held {a b : PortPool} (first : a.first = b.first) (last : a.last = b.last)
    (held : a.held = b.held) : a = b := by
  cases a; cases b; simp_all

theorem mem_held_of_reserve {pool after : PortPool} {port : UInt16}
    (h : pool.reserve port = some after) (p : UInt16) :
    p ∈ after.held ↔ p = port ∨ p ∈ pool.held := by
  unfold reserve at h
  split at h
  · simp only [Option.some.injEq] at h
    subst h
    exact mem_insertPort
  · simp at h

theorem mem_held_release {pool : PortPool} {port p : UInt16} :
    p ∈ (pool.release port).held ↔ p ∈ pool.held ∧ p ≠ port := by
  simp [release]

end PortPool
end SandboxPods
