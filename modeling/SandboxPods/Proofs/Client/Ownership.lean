import SandboxPods.Proofs.Client.Interleaving

/-!
# Whose sandbox is whose

A creation makes one sandbox at most, and from then on it is about that sandbox, also
after it has returned it. Sandboxes are told apart by their positions, which are never
used twice, so no two creations are ever about one sandbox, whichever calls run side by
side and whatever they are told.
-/
namespace SandboxPods

namespace CreateCall
variable {books : Books} {call : CreateCall} {event : Event} {key k : Nat}

/-- The position of the sandbox that a creation has registered, also once it has returned it. -/
def sandbox? (call : CreateCall) : Option Nat :=
  match call.stage with
  | .finished (.ok key) => some key
  | _ => call.key?

theorem sandbox?_of_key? (h : call.key? = some key) : call.sandbox? = some key := by
  obtain ⟨spec, deadline, stage⟩ := call
  cases stage with
  | finished result => cases h
  | _ => exact h

theorem sandbox?_of_finished (h : call.stage = .finished (.ok key)) :
    call.sandbox? = some key := by
  rw [sandbox?, h]

/-- A creation that holds a claim has no sandbox yet. -/
theorem sandbox?_of_claim? {claim : PortClaim} (h : call.claim? = some claim) :
    call.sandbox? = none := by
  obtain ⟨spec, deadline, stage⟩ := call
  cases stage with
  | pulling claim reference => rfl
  | discarding claim image => rfl
  | _ => cases h

theorem Attending.sandbox?_eq {r : Books × CreateCall} (h : Attending books call key event r)
    (made : r.2.sandbox? = some k) : k = key := by
  cases h with
  | waits same later => exact Option.some.inj (made.symm.trans (sandbox?_of_key? same))
  | sees told same later => exact Option.some.inj (made.symm.trans (sandbox?_of_key? same))
  | completes tasks => exact (Option.some.inj made).symm
  | fails e => cases made

end CreateCall

namespace Interleaving
variable {client : Client} {s t : Interleaving} {m : Move} {i n key : Nat} {call : CreateCall}

/-- Each creation that has made a sandbox has one of its own. -/
structure Owned (s : Interleaving) : Prop where
  known : ∀ (i : Nat) (call : CreateCall) (key : Nat), s.calls[i]? = some (.create call) →
    call.sandbox? = some key → key < s.books.sandboxes.length
  apart : ∀ (i j : Nat) (call other : CreateCall) (key : Nat), s.calls[i]? = some (.create call) →
    s.calls[j]? = some (.create other) → call.sandbox? = some key → other.sandbox? = some key →
    i = j

/-- The call at the position of a move has a sandbox of its own afterwards, either the one that it
had before or a new one, and no other sandbox that was made before has changed. -/
structure Keeps (s : Interleaving) (n : Nat) (r : Books × Call) : Prop where
  longer : s.books.sandboxes.length ≤ r.1.sandboxes.length
  own : ∀ call key, r.2 = .create call → call.sandbox? = some key →
    key < r.1.sandboxes.length ∧ (s.books.sandboxes.length ≤ key ∨
      ∃ before, s.calls[n]? = some (.create before) ∧ before.sandbox? = some key)
  others : ∀ key, key < s.books.sandboxes.length →
    (∀ before, s.calls[n]? = some (.create before) → before.sandbox? ≠ some key) →
    r.1.sandbox key = s.books.sandbox key

/-- The sandbox of a call at another position is neither the one that the move is about nor
new. -/
theorem Owned.elsewhere {r : Books × Call} (h : s.Owned) (placed : Placed client s t n r)
    (hi : i ≠ n) (found : t.calls[i]? = some (.create call)) (made : call.sandbox? = some key) :
    s.calls[i]? = some (.create call) ∧ key < s.books.sandboxes.length ∧
      ∀ before, s.calls[n]? = some (.create before) → before.sandbox? ≠ some key := by
  rw [placed.elsewhere i hi] at found
  refine ⟨found, h.known i call key found made, ?_⟩
  intro before here same
  exact hi (h.apart i n call before key found here made same)

theorem Owned.placed {r : Books × Call} (h : s.Owned) (placed : Placed client s t n r)
    (keeps : s.Keeps n r) : t.Owned := by
  have mine (call : CreateCall) (found : t.calls[n]? = some (.create call)) :
      r.2 = .create call := Option.some.inj (placed.here.symm.trans found)
  have distinct (j : Nat) (call other : CreateCall) (key : Nat) (hj : j ≠ n)
      (found : t.calls[n]? = some (.create call)) (hother : t.calls[j]? = some (.create other))
      (made : call.sandbox? = some key) (same : other.sandbox? = some key) : False := by
    obtain ⟨-, lt, apart⟩ := h.elsewhere placed hj hother same
    rcases (keeps.own call key (mine call found) made).2 with beyond | ⟨before, here, old⟩
    · omega
    · exact apart before here old
  constructor
  · intro i call key found made
    rw [placed.books]
    by_cases hi : i = n
    · subst hi
      exact (keeps.own call key (mine call found) made).1
    · exact Nat.lt_of_lt_of_le (h.elsewhere placed hi found made).2.1 keeps.longer
  · intro i j call other key hi hj made same
    by_cases first : i = n
    · subst first
      by_contra ne
      exact distinct j call other key (Ne.symm ne) hi hj made same
    · by_cases second : j = n
      · subst second
        exact (distinct i other call key first hj hi same made).elim
      · exact h.apart i j call other key (h.elsewhere placed first hi made).1
          (h.elsewhere placed second hj same).1 made same

/-! ## One move -/

/-- Up to its registration a creation has no sandbox, and then a new one. -/
theorem keeps_claiming {b : Books} {claim : PortClaim} {r : Books × CreateCall}
    (moved : CreateCall.Claiming client b call claim r) (same : b.sandboxes = s.books.sandboxes) :
    s.Keeps n (r.1, .create r.2) := by
  have old (key : Nat) : b.sandbox key = s.books.sandbox key := by
    simp only [Books.sandbox, same]
  have length : b.sandboxes.length = s.books.sandboxes.length := congrArg List.length same
  cases moved with
  | keeps holds =>
      refine ⟨length.ge, ?_, fun key _ _ => old key⟩
      rintro call key ⟨⟩ made
      rw [CreateCall.sandbox?_of_claim? holds] at made
      cases made
  | abandons e =>
      refine ⟨length.ge, ?_, fun key _ _ => old key⟩
      rintro call key ⟨⟩ made
      cases made
  | registers image env rootfsSize free =>
      refine ⟨?_, ?_, ?_⟩
      · simp only [Books.enrol, List.length_append, length]
        omega
      · rintro call key ⟨⟩ made
        cases made
        exact ⟨by simp [Books.enrol], .inl length.ge⟩
      · intro key lt _
        rw [Books.sandbox_enrol (length ▸ lt), old]

theorem keeps_starting {spec : SandboxSpec} {deadline : Instant} {r : Books × CreateCall}
    (moved : CreateCall.Starting client s.books spec deadline r) :
    s.Keeps n (r.1, .create r.2) := by
  cases moved with
  | refused e =>
      refine ⟨Nat.le_refl _, ?_, fun _ _ _ => rfl⟩
      rintro call key ⟨⟩ made
      cases made
  | claims free made moved => exact keeps_claiming moved rfl

/-- A creation that has its sandbox changes no other. -/
theorem Owned.keeps_attending {event : Event} {r : Books × CreateCall} (h : s.Owned)
    (found : s.calls[n]? = some (.create call)) (held : call.key? = some key)
    (moved : CreateCall.Attending s.books call key event r) : s.Keeps n (r.1, .create r.2) := by
  have own := CreateCall.sandbox?_of_key? held
  have known := h.known n call key found own
  refine ⟨moved.length_eq.ge, ?_, ?_⟩
  · rintro call' k ⟨⟩ made
    cases moved.sandbox?_eq made
    exact ⟨moved.length_eq.symm ▸ known, .inr ⟨call, found, own⟩⟩
  · intro k _ apart
    have ne : key ≠ k := fun e => apart call found (e ▸ own)
    cases moved with
    | waits same later => rfl
    | sees told same later => exact Books.sandbox_modify_ne ne _
    | completes tasks => exact Books.sandbox_modify_ne ne _
    | fails e => rfl

theorem keeps_looking (call : DestroyCall) : s.Keeps n (s.books, .destroy call) :=
  ⟨Nat.le_refl _, fun _ _ e => (nomatch e), fun _ _ _ => rfl⟩

theorem keeps_deleting {call : DestroyCall} {pod : Pod} {event : Event} {r : Books × DestroyCall}
    (moved : DestroyCall.Deleting s.books call pod event r) : s.Keeps n (r.1, .destroy r.2) := by
  have same : r.1.sandboxes = s.books.sandboxes := by
    cases moved with
    | waits same later => rfl
    | fails e first refused => rfl
    | forgets outcome => rfl
  refine ⟨(congrArg List.length same).ge, fun _ _ e => (nomatch e), ?_⟩
  intro key _ _
  simp only [Books.sandbox, same]

theorem Owned.step (h : s.Owned) (admitted : s.Admits client m) : (s.step client m).Owned := by
  cases stepped admitted with
  | starts hm moved placed => exact h.placed placed (keeps_starting moved)
  | looks hm placed => exact h.placed placed (keeps_looking _)
  | claiming hm found holds moved placed => exact h.placed placed (keeps_claiming moved rfl)
  | attending hm found holds moved placed =>
      exact h.placed placed (h.keeps_attending found holds moved)
  | deleting hm found holds moved result placed => exact h.placed placed (keeps_deleting moved)

theorem owned_start (books : Books) : Owned { books } := by
  constructor
  · intro i call key found
    cases found
  · intro i j call other key found
    cases found

theorem Reaches.owned {allowed : Interleaving → Move → Prop} {books : Books}
    (run : Reaches client allowed { books } t) : t.Owned :=
  run.invariant (owned_start books) fun _ _ before admitted _ => before.step admitted

/-- A sandbox that was returned comes from one creation. -/
theorem Owned.eq_of_finished {other : CreateCall} (h : s.Owned) (mine : .create call ∈ s.calls)
    (theirs : .create other ∈ s.calls) (made : call.stage = .finished (.ok key))
    (same : other.stage = .finished (.ok key)) : call = other := by
  obtain ⟨i, hi⟩ := List.mem_iff_getElem?.1 mine
  obtain ⟨j, hj⟩ := List.mem_iff_getElem?.1 theirs
  obtain rfl := h.apart i j call other key hi hj (CreateCall.sandbox?_of_finished made)
    (CreateCall.sandbox?_of_finished same)
  exact Call.create.inj (Option.some.inj (hi.symm.trans hj))

end Interleaving
end SandboxPods
