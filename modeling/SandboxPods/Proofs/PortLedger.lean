import SandboxPods.Proofs.PortPool

/-!
# Ledgers of held ports

A ledger divides the held ports of a pool among owners: every held port is listed by
one owner, and nothing else is listed. Ports change hands in three ways. An owner
takes ports that were free, ports that an owner lists are given back, or one owner
hands all of its ports over to another.
-/
namespace SandboxPods

structure Ledger {ι : Type} (pool : PortPool) (shares : ι → List UInt16) : Prop where
  held : ∀ p, p ∈ pool.held ↔ ∃ o, p ∈ shares o
  apart : ∀ o o' p, p ∈ shares o → p ∈ shares o' → o = o'

namespace Ledger
variable {ι : Type} {pool after : PortPool} {shares next : ι → List UInt16} {a b : ι}

theorem congr (h : Ledger pool shares) (same : ∀ o p, p ∈ next o ↔ p ∈ shares o) :
    Ledger pool next := by
  constructor
  · intro p
    rw [h.held p]
    exact exists_congr fun o => (same o p).symm
  · intro o o' p hp hp'
    exact h.apart o o' p ((same o p).1 hp) ((same o' p).1 hp')

/-- An owner that listed nothing takes ports that nobody held. -/
theorem take (h : Ledger pool shares) (others : ∀ o, o ≠ a → next o = shares o)
    (vacant : shares a = []) (fresh : ∀ p ∈ next a, p ∉ pool.held)
    (held : ∀ p, p ∈ after.held ↔ p ∈ next a ∨ p ∈ pool.held) : Ledger after next := by
  have listed : ∀ o, o ≠ a → ∀ p ∈ next o, p ∈ pool.held := by
    intro o ho p hp
    rw [others o ho] at hp
    exact (h.held p).2 ⟨o, hp⟩
  constructor
  · intro p
    rw [held p]
    constructor
    · intro h
      rcases h with hp | hp
      · exact ⟨a, hp⟩
      · obtain ⟨o, ho⟩ := (h.held p).1 hp
        have other : o ≠ a := by
          intro same
          subst same
          rw [vacant] at ho
          cases ho
        exact ⟨o, (others o other).symm ▸ ho⟩
    · intro owned
      obtain ⟨o, ho⟩ := owned
      by_cases hoa : o = a
      · exact .inl (hoa ▸ ho)
      · exact .inr (listed o hoa p ho)
  · intro o o' p ho ho'
    by_cases hoa : o = a
    · by_cases hoa' : o' = a
      · rw [hoa, hoa']
      · exact (fresh p (hoa ▸ ho) (listed o' hoa' p ho')).elim
    · by_cases hoa' : o' = a
      · exact (fresh p (hoa' ▸ ho') (listed o hoa p ho)).elim
      · rw [others o hoa] at ho
        rw [others o' hoa'] at ho'
        exact h.apart o o' p ho ho'

/-- Ports that no other owner lists are given back. -/
theorem give (h : Ledger pool shares) {ports : List UInt16}
    (others : ∀ o, o ≠ a → next o = shares o)
    (rest : ∀ p, p ∈ next a ↔ p ∈ shares a ∧ p ∉ ports)
    (spared : ∀ o, o ≠ a → ∀ p ∈ shares o, p ∉ ports) :
    Ledger (pool.releaseAll ports) next := by
  have listed : ∀ o p, p ∈ next o ↔ p ∈ shares o ∧ p ∉ ports := by
    intro o p
    by_cases hoa : o = a
    · rw [hoa, rest p]
    · rw [others o hoa]
      exact ⟨fun hp => ⟨hp, spared o hoa p hp⟩, And.left⟩
  constructor
  · intro p
    rw [PortPool.mem_held_releaseAll, h.held p, ← exists_and_right]
    exact exists_congr fun o => (listed o p).symm
  · intro o o' p hp hp'
    exact h.apart o o' p ((listed o p).1 hp).1 ((listed o' p).1 hp').1

/-- An owner hands everything over to another. -/
theorem hand (h : Ledger pool shares) (others : ∀ o, o ≠ a → o ≠ b → next o = shares o)
    (gone : next a = []) (all : ∀ p, p ∈ next b ↔ p ∈ shares a ∨ p ∈ shares b) :
    Ledger pool next := by
  -- Every listed port has an owner of before, which is the same one unless it is handed over.
  have before : ∀ o p, p ∈ next o → ∃ o', p ∈ shares o' ∧ (o' = o ∨ (o' = a ∧ o = b)) := by
    intro o p hp
    by_cases hob : o = b
    · subst hob
      rcases (all p).1 hp with hp | hp
      · exact ⟨a, hp, .inr ⟨rfl, rfl⟩⟩
      · exact ⟨o, hp, .inl rfl⟩
    · by_cases hoa : o = a
      · rw [hoa, gone] at hp
        cases hp
      · exact ⟨o, others o hoa hob ▸ hp, .inl rfl⟩
  have after : ∀ o p, p ∈ shares o → ∃ o', p ∈ next o' := by
    intro o p hp
    by_cases hob : o = b
    · exact ⟨b, (all p).2 (.inr (hob ▸ hp))⟩
    · by_cases hoa : o = a
      · exact ⟨b, (all p).2 (.inl (hoa ▸ hp))⟩
      · exact ⟨o, (others o hoa hob).symm ▸ hp⟩
  constructor
  · intro p
    rw [h.held p]
    constructor
    · intro owned
      obtain ⟨o, hp⟩ := owned
      exact after o p hp
    · intro owned
      obtain ⟨o, hp⟩ := owned
      obtain ⟨o', hp', _⟩ := before o p hp
      exact ⟨o', hp'⟩
  · intro o o' p hp hp'
    obtain ⟨q, hq, eq⟩ := before o p hp
    obtain ⟨q', hq', eq'⟩ := before o' p hp'
    have same := h.apart q q' p hq hq'
    subst same
    have lost : ∀ r, p ∈ next r → r ≠ a := by
      intro r hr e
      rw [e, gone] at hr
      cases hr
    rcases eq with rfl | ⟨rfl, rfl⟩
    · rcases eq' with rfl | ⟨rfl, rfl⟩
      · rfl
      · exact (lost _ hp rfl).elim
    · rcases eq' with rfl | ⟨_, rfl⟩
      · exact (lost _ hp' rfl).elim
      · rfl

end Ledger
end SandboxPods
