import SandboxPods.Proofs.Client.Accounts

/-!
# Who holds which port while sandboxes are only created

Without destructions the ports can be followed from any books at all, whatever the
collaborators answer. A creation has a stake in the ports that it claimed until it
registers its sandbox or gives them back, and from its registration on in the ports
of the pool that the pod it submitted declares. What was held at the start stays
held, and no stake overlaps it or another stake.
-/
namespace SandboxPods.Interleaving
variable {client : Client} {s t : Interleaving} {m : Move} {n i : Nat} {held : List UInt16}
variable {p : UInt16}

/-- No destruction is begun. -/
def CreatesOnly (_ : Interleaving) : Move → Prop
  | .destroy .. => False
  | _ => True

/-- The pod that a question submits, if the call at the position asks it. -/
def sentBy (i : Nat) : Nat × Ask → Option Pod
  | (j, .cluster (.createPod pod)) => if j = i then some pod else none
  | _ => none

/-- The pods that the call at a position has submitted. -/
def podsOf (s : Interleaving) (i : Nat) : List Pod := s.asked.filterMap (sentBy i)

theorem mem_podsOf {pod : Pod} : pod ∈ s.podsOf i ↔ s.Submitted i pod := by
  unfold podsOf Submitted
  rw [List.mem_filterMap]
  constructor
  · intro sent
    obtain ⟨⟨j, ask⟩, asked, found⟩ := sent
    unfold sentBy at found
    split at found
    · rename_i k other e
      cases e
      split at found
      · rename_i hj
        cases found
        exact hj ▸ asked
      · cases found
    · cases found
  · intro asked
    exact ⟨_, asked, if_pos rfl⟩

/-- The ports that a creation has in hand: those of its claim, or once its sandbox is registered
the pool's own ports of the pod that it submitted. -/
def stake (s : Interleaving) (i : Nat) : List UInt16 :=
  claimedAt s.claims i ++
    (s.podsOf i).flatMap fun pod => pod.hostPorts.filter s.books.ports.contains

theorem mem_stake : p ∈ s.stake i ↔ p ∈ claimedAt s.claims i ∨
    (s.books.ports.contains p = true ∧ ∃ pod, s.Submitted i pod ∧ p ∈ pod.hostPorts) := by
  unfold stake
  rw [List.mem_append, List.mem_flatMap]
  apply or_congr Iff.rfl
  constructor
  · intro declares
    obtain ⟨pod, member, declared⟩ := declares
    obtain ⟨declared, inside⟩ := List.mem_filter.1 declared
    exact ⟨inside, pod, mem_podsOf.1 member, declared⟩
  · intro sent
    obtain ⟨inside, pod, asked, declared⟩ := sent
    exact ⟨pod, mem_podsOf.2 asked, List.mem_filter.2 ⟨declared, inside⟩⟩

/-- The stakes of the creations, and what was held at the start. -/
def holdings (s : Interleaving) (held : List UInt16) : Option Nat → List UInt16
  | some i => s.stake i
  | none => held

structure Staked (s : Interleaving) (held : List UInt16) : Prop where
  ledger : Ledger s.books.ports (s.holdings held)
  covers : ∀ i claim, s.claims i = some claim → claim.Covers s.books.ports
  quiet : ∀ i claim, s.claims i = some claim → s.Quiet i
  logged : s.Logged
  creations : ∀ (i : Nat) (call : DestroyCall), s.calls[i]? ≠ some (.destroy call)

/-! ## One move -/

theorem Placed.podsOf_eq {r : Books × Call} (placed : Placed client s t n r) (i : Nat) :
    t.podsOf i = s.podsOf i ++ (question client n r).filterMap (sentBy i) := by
  unfold podsOf
  rw [placed.asked, List.filterMap_append]

/-- A move of another call submits nothing. -/
theorem Placed.podsOf_elsewhere {r : Books × Call} (placed : Placed client s t n r) (hi : i ≠ n) :
    t.podsOf i = s.podsOf i := by
  have silent : (question client n r).filterMap (sentBy i) = [] := by
    apply List.filterMap_eq_nil_iff.2
    intro e new
    obtain ⟨j, ask⟩ := e
    have hj : j = n := (mem_question new).1
    unfold sentBy
    split
    · rename_i k pod e
      cases e
      exact if_neg (fun e => hi (e.symm.trans hj))
    · rfl
  rw [placed.podsOf_eq, silent, List.append_nil]

/-- A creation that attends to its sandbox submits nothing more. -/
theorem Placed.podsOf_attending {call : CreateCall} {key : Nat} {event : Event}
    {r : Books × CreateCall} (placed : Placed client s t n (r.1, .create r.2))
    (moved : CreateCall.Attending s.books call key event r) : t.podsOf n = s.podsOf n := by
  have silent : (question client n (r.1, .create r.2)).filterMap (sentBy n) = [] := by
    apply List.filterMap_eq_nil_iff.2
    intro e new
    obtain ⟨j, ask⟩ := e
    have asks := (mem_question new).2
    unfold sentBy
    split
    · rename_i k pod e
      cases e
      exact (moved.no_submission client r.1 pod asks).elim
    · rfl
  rw [placed.podsOf_eq, silent, List.append_nil]

/-- A creation that has just registered its sandbox submits the pod, and once. -/
theorem Placed.podsOf_submitting {r : Books × CreateCall} {key : Nat}
    (placed : Placed client s t n (r.1, .create r.2)) (quiet : s.Quiet n)
    (now : r.2.stage = .submitting key) : t.podsOf n = [(r.1.sandbox key).pod] := by
  have before : s.podsOf n = [] := by
    apply List.eq_nil_iff_forall_not_mem.2
    intro pod sent
    cases quiet _ (mem_podsOf.1 sent)
  rw [placed.podsOf_eq, before, question, Call.awaiting, CreateCall.ask?_submitting now]
  simp [sentBy]

/-- A move of another call leaves a stake alone. -/
theorem Placed.stake_eq {r : Books × Call} (placed : Placed client s t n r)
    (range : PortPool.SameRange t.books.ports s.books.ports) (hi : i ≠ n) :
    t.stake i = s.stake i := by
  have contains : t.books.ports.contains = s.books.ports.contains := funext range.contains_eq
  unfold stake claimedAt
  rw [placed.claims_eq, Function.update_of_ne hi, placed.podsOf_elsewhere hi, contains]

/-- What a call that has been quiet so far has submitted by its next wait. -/
theorem Placed.submitted_iff {r : Books × Call} (placed : Placed client s t n r)
    (quiet : s.Quiet n) {pod : Pod} : t.Submitted n pod ↔
      (r.2.awaiting client r.1).ask? = some (.cluster (.createPod pod)) := by
  unfold Submitted
  rw [placed.asked]
  constructor
  · intro asked
    rcases List.mem_append.1 asked with old | new
    · cases quiet _ old
    · exact (mem_question new).2
  · intro asks
    apply List.mem_append_right
    simp [question, asks]

/-- The stake of a creation that has its claim. -/
theorem Placed.stake_of_claim {r : Books × CreateCall} {claim : PortClaim}
    (placed : Placed client s t n (r.1, .create r.2)) (quiet : s.Quiet n)
    (holds : r.2.claim? = some claim) : p ∈ t.stake n ↔ p ∈ claim.claimed := by
  rw [mem_stake, claimedAt_some ((claims_of_create placed.here).trans holds)]
  constructor
  · intro sent
    rcases sent with claimed | ⟨-, pod, asked, -⟩
    · exact claimed
    · cases CreateCall.silent_of_claim holds ((placed.submitted_iff quiet).1 asked)
  · exact .inl

/-- A creation that returned without having submitted anything has no stake. -/
theorem Placed.stake_of_finished {r : Books × CreateCall}
    {result : Except LifecycleError Nat} (placed : Placed client s t n (r.1, .create r.2))
    (quiet : s.Quiet n) (ended : r.2.stage = .finished result) : t.stake n = [] := by
  apply List.eq_nil_iff_forall_not_mem.2
  intro p listed
  have none_held : t.claims n = none := by
    rw [claims_of_create placed.here, CreateCall.claim?, ended]
  rcases mem_stake.1 listed with claimed | ⟨-, pod, asked, -⟩
  · rw [claimedAt_none none_held] at claimed
    cases claimed
  · have asks := (placed.submitted_iff quiet).1 asked
    rw [Call.awaiting, CreateCall.awaiting, ended] at asks
    cases asks

/-- The stake of a creation that has just registered its sandbox. -/
theorem Placed.stake_of_submitting {r : Books × CreateCall} {key : Nat}
    (placed : Placed client s t n (r.1, .create r.2)) (quiet : s.Quiet n)
    (now : r.2.stage = .submitting key) :
    t.stake n = (r.1.sandbox key).pod.hostPorts.filter r.1.ports.contains := by
  have none_held : t.claims n = none := by
    rw [claims_of_create placed.here, CreateCall.claim?, now]
  unfold stake
  rw [claimedAt_none none_held, placed.podsOf_submitting quiet now, placed.books]
  simp

/-- The ledger after a step of a creation that had its claim, wherever the claim came from. -/
theorem ledger_claiming {b : Books} {call : CreateCall} {claim : PortClaim}
    {r : Books × CreateCall} {before : Option Nat → List UInt16} (ledger : Ledger b.ports before)
    (others : ∀ o, o ≠ some n → before o = s.holdings held o)
    (mine : ∀ p, p ∈ before (some n) ↔ p ∈ claim.claimed)
    (covers : claim.Covers b.ports) (range : PortPool.SameRange b.ports s.books.ports)
    (moved : CreateCall.Claiming client b call claim r)
    (placed : Placed client s t n (r.1, .create r.2)) (quiet : s.Quiet n) :
    Ledger t.books.ports (t.holdings held) ∧
      PortPool.SameRange t.books.ports s.books.ports := by
  have same : PortPool.SameRange t.books.ports s.books.ports := by
    rw [placed.books]
    cases moved with
    | keeps again => exact range
    | abandons e => exact (PortPool.sameRange_releaseAll b.ports claim.claimed).trans range
    | registers image env rootfsSize free => exact range
  have elsewhere : ∀ o, o ≠ some n → t.holdings held o = before o := by
    intro o ho
    rw [others o ho]
    match o with
    | none => rfl
    | some i => exact placed.stake_eq same (fun e => ho (e ▸ rfl))
  refine ⟨?_, same⟩
  cases moved with
  | keeps again =>
      rw [placed.books]
      apply ledger.congr
      intro o p
      by_cases ho : o = some n
      · rw [ho, mine p]
        exact placed.stake_of_claim quiet again
      · rw [elsewhere o ho]
  | abandons e =>
      rw [placed.books]
      apply ledger.give (a := some n) elsewhere
      · intro p
        have gone : t.stake n = [] := placed.stake_of_finished quiet rfl
        rw [mine p]
        change p ∈ t.stake n ↔ _
        rw [gone]
        simp
      · intro o ho p listed claimed
        exact ho (ledger.apart o (some n) p listed ((mine p).2 claimed))
  | registers image env rootfsSize free =>
      rw [placed.books]
      apply ledger.congr
      intro o p
      by_cases ho : o = some n
      · rw [ho, mine p, covers p]
        change p ∈ t.stake n ↔ _
        rw [placed.stake_of_submitting quiet rfl, Books.sandbox_enrol_self,
          CreateCall.hostPorts_draft, List.mem_filter]
        exact and_comm
      · rw [elsewhere o ho]

theorem Quiet.elsewhere {r : Books × Call} (h : s.Quiet i) (placed : Placed client s t n r)
    (hi : i ≠ n) : t.Quiet i := by
  intro ask asked
  rw [placed.asked] at asked
  rcases List.mem_append.1 asked with old | new
  · exact h ask old
  · exact (hi (mem_question new).1).elim

/-- Only the call at the position of the move needs to be looked at again. -/
theorem Staked.placed {r : Books × CreateCall} (h : s.Staked held)
    (placed : Placed client s t n (r.1, .create r.2))
    (ledger : Ledger t.books.ports (t.holdings held))
    (range : PortPool.SameRange t.books.ports s.books.ports) (logged : t.Logged)
    (mine : ∀ claim, r.2.claim? = some claim → claim.Covers t.books.ports ∧ t.Quiet n) :
    t.Staked held := by
  have split {j : Nat} {claim : PortClaim} (found : t.claims j = some claim) :
      (j = n ∧ r.2.claim? = some claim) ∨ (j ≠ n ∧ s.claims j = some claim) := by
    rw [placed.claims_eq] at found
    by_cases hj : j = n
    · rw [hj, Function.update_self] at found
      exact .inl ⟨hj, found⟩
    · rw [Function.update_of_ne hj] at found
      exact .inr ⟨hj, found⟩
  refine ⟨ledger, ?_, ?_, logged, ?_⟩
  · intro j claim found
    rcases split found with ⟨-, here⟩ | ⟨-, there⟩
    · exact (mine claim here).1
    · exact (h.covers j claim there).congr range.symm
  · intro j claim found
    rcases split found with ⟨rfl, here⟩ | ⟨hj, there⟩
    · exact (mine claim here).2
    · exact (h.quiet j claim there).elsewhere placed hj
  · intro j call found
    by_cases hj : j = n
    · subst hj
      cases placed.here.symm.trans found
    · rw [placed.elsewhere j hj] at found
      exact h.creations j call found

theorem Staked.claiming {b : Books} {call : CreateCall} {claim : PortClaim}
    {r : Books × CreateCall} {before : Option Nat → List UInt16} (h : s.Staked held)
    (ledger : Ledger b.ports before) (others : ∀ o, o ≠ some n → before o = s.holdings held o)
    (mine : ∀ p, p ∈ before (some n) ↔ p ∈ claim.claimed)
    (covers : claim.Covers b.ports) (range : PortPool.SameRange b.ports s.books.ports)
    (moved : CreateCall.Claiming client b call claim r)
    (placed : Placed client s t n (r.1, .create r.2)) (quiet : s.Quiet n) (logged : t.Logged) :
    t.Staked held := by
  obtain ⟨after, same⟩ :=
    ledger_claiming ledger others mine covers range moved placed quiet
  apply h.placed placed after same logged
  intro other again
  refine ⟨?_, quiet.placed placed fun ask asks => CreateCall.silent_of_claim again asks⟩
  cases moved with
  | keeps held =>
      cases held.symm.trans again
      exact covers.congr (range.trans same.symm)
  | abandons e => cases again
  | registers image env rootfsSize free => cases again

theorem stake_of_quiet (vacant : s.claims n = none) (quiet : s.Quiet n) : s.stake n = [] := by
  apply List.eq_nil_iff_forall_not_mem.2
  intro p listed
  rcases mem_stake.1 listed with claimed | ⟨-, pod, asked, -⟩
  · rw [claimedAt_none vacant] at claimed
    cases claimed
  · cases quiet _ asked

/-- A creation is begun: it takes nothing, or it takes the ports of its claim. -/
theorem Staked.starting {spec : SandboxSpec} {deadline : Instant} {r : Books × CreateCall}
    (h : s.Staked held) (moved : CreateCall.Starting client s.books spec deadline r)
    (placed : Placed client s t s.calls.length (r.1, .create r.2)) (logged : t.Logged) :
    t.Staked held := by
  have quiet := h.logged.fresh
  have nothing := stake_of_quiet s.claims_vacant quiet
  cases moved with
  | refused e =>
      have ended := placed.stake_of_finished quiet rfl
      have same : PortPool.SameRange t.books.ports s.books.ports := by
        rw [placed.books]
        exact .refl _
      refine h.placed placed ?_ same logged (fun claim holds => nomatch holds)
      rw [placed.books]
      apply h.ledger.congr
      intro o p
      match o with
      | none => rfl
      | some j =>
          by_cases hj : j = s.calls.length
          · change p ∈ t.stake j ↔ p ∈ s.stake j
            rw [hj, ended, nothing]
          · exact iff_of_eq (congrArg (p ∈ ·) (placed.stake_eq same hj))
  | @claims ports claim _ free made moved =>
      have made := PortClaim.make_ok made
      have taken : Ledger ports
          (Function.update (s.holdings held) (some s.calls.length) claim.claimed) := by
        apply h.ledger.take (a := some s.calls.length)
        · exact fun o ho => Function.update_of_ne ho ..
        · exact nothing
        · rw [Function.update_self]
          exact made.free
        · rw [Function.update_self]
          exact made.held
      apply h.claiming taken (fun o ho => Function.update_of_ne ho ..) ?_
        (made.covers.congr made.range.symm) made.range moved placed quiet logged
      intro p
      rw [Function.update_self]

/-- A creation that attends to its sandbox keeps its stake. -/
theorem Staked.attending {call : CreateCall} {key : Nat} {event : Event} {r : Books × CreateCall}
    (h : s.Staked held) (found : s.calls[n]? = some (.create call)) (holds : call.key? = some key)
    (moved : CreateCall.Attending s.books call key event r)
    (placed : Placed client s t n (r.1, .create r.2)) (logged : t.Logged) : t.Staked held := by
  have ports : t.books.ports = s.books.ports := by
    rw [placed.books]
    exact moved.ports_eq
  have vacant : s.claims n = none :=
    (claims_of_create found).trans (CreateCall.claim?_of_key? holds)
  have kept : t.claims = s.claims := placed.claims_same (moved.claim?.trans vacant.symm)
  have pods (j : Nat) : t.podsOf j = s.podsOf j := by
    by_cases hj : j = n
    · rw [hj, placed.podsOf_attending moved]
    · exact placed.podsOf_elsewhere hj
  refine h.placed placed ?_ (ports ▸ .refl s.books.ports) logged ?_
  · rw [ports]
    apply h.ledger.congr
    intro o p
    match o with
    | none => rfl
    | some j =>
        change p ∈ t.stake j ↔ p ∈ s.stake j
        unfold stake
        rw [kept, pods j, ports]
  · intro claim again
    rw [moved.claim?] at again
    cases again

theorem Staked.step (h : s.Staked held) (admitted : s.Admits client m) (creates : s.CreatesOnly m) :
    (s.step client m).Staked held := by
  have logged := h.logged.step admitted
  cases stepped admitted with
  | looks hm =>
      subst hm
      exact creates.elim
  | deleting hm found => exact (h.creations _ _ found).elim
  | starts hm moved placed => exact h.starting moved placed logged
  | attending hm found holds moved placed => exact h.attending found holds moved placed logged
  | @claiming i now event call claim r hm found holds moved placed =>
      have mine := (claims_of_create found).trans holds
      have quiet := h.quiet i claim mine
      apply h.claiming h.ledger (fun _ _ => rfl) ?_ (h.covers i claim mine) (.refl _) moved placed
        quiet logged
      intro p
      change p ∈ s.stake i ↔ p ∈ claim.claimed
      rw [mem_stake, claimedAt_some mine]
      apply or_iff_left
      intro submitted
      obtain ⟨-, pod, asked, -⟩ := submitted
      cases quiet _ asked

/-! ## From the start on -/

theorem staked_start (books : Books) : Staked { books } books.ports.held := by
  have nothing (i : Nat) : stake { books } i = [] := by
    apply stake_of_quiet
    · rfl
    · intro ask asked
      cases asked
  have held_only {o : Option Nat} {q : UInt16}
      (listed : q ∈ holdings { books } books.ports.held o) : o = none := by
    match o with
    | none => rfl
    | some i =>
        change q ∈ stake { books } i at listed
        rw [nothing i] at listed
        cases listed
  refine ⟨⟨?_, ?_⟩, ?_, ?_, logged_start books, ?_⟩
  · intro p
    constructor
    · exact fun held => ⟨none, held⟩
    · intro owned
      obtain ⟨o, listed⟩ := owned
      rw [held_only listed] at listed
      exact listed
  · intro o o' p listed listed'
    rw [held_only listed, held_only listed']
  · intro i claim found
    cases found
  · intro i claim found
    cases found
  · intro i call found
    cases found

theorem Reaches.staked {books : Books} (run : Reaches client CreatesOnly { books } t) :
    t.Staked books.ports.held := by
  apply run.invariant (P := fun s => s.Staked books.ports.held) (staked_start books)
  exact fun s m staked admitted creates => staked.step admitted creates

theorem Staked.held_iff (h : s.Staked held) :
    p ∈ s.books.ports.held ↔ p ∈ held ∨ ∃ i, p ∈ s.stake i := by
  rw [h.ledger.held p]
  exact Option.exists

theorem Staked.stake_apart (h : s.Staked held) (listed : p ∈ s.stake i) :
    p ∉ held ∧ ∀ j, p ∈ s.stake j → i = j := by
  constructor
  · intro before
    cases h.ledger.apart (some i) none p listed before
  · intro j also
    exact Option.some.inj (h.ledger.apart (some i) (some j) p listed also)

/-- A port that was free at some time and is no longer in a creation's hands is free again or has
come to another creation. -/
theorem Staked.restored (earlier : s.Staked held) (later : t.Staked held)
    (free : p ∉ s.books.ports.held) (nothing : t.stake n = []) :
    p ∉ t.books.ports.held ∨ ∃ j, j ≠ n ∧ p ∈ t.stake j := by
  by_cases still : p ∈ t.books.ports.held
  · rcases later.held_iff.1 still with before | hands
    · exact (free (earlier.held_iff.2 (.inl before))).elim
    · obtain ⟨j, listed⟩ := hands
      refine .inr ⟨j, ?_, listed⟩
      intro same
      rw [same, nothing] at listed
      cases listed
  · exact .inl still

end SandboxPods.Interleaving
