import SandboxPods.Proofs.Client.PortAccounting

/-!
# When sandboxes can come to share a port

A destruction decides which ports to give back when it begins, and gives them back
when it ends. Two destructions of one sandbox give its ports back twice; in between
a port may have gone to a creation or to another sandbox, and then the second of
them strays. Up to the first destruction that strays no two registered sandboxes
declare one port of the pool. After it, two of them can be brought to do so by new
creations alone, whoever owned the port.
-/
namespace SandboxPods

/-- A sandbox that asks for one host port and whose image is in place. -/
def SandboxSpec.onPort (handle : String) (port : UInt16) : SandboxSpec where
  handle := handle
  image := .ofUri "rootfs"
  ports := [⟨port, 8080⟩]

namespace Interleaving

/-- No two registered sandboxes declare one port of the pool. -/
def Exclusive (s : Interleaving) : Prop :=
  ∀ h k p, p ∈ s.books.declared h → p ∈ s.books.declared k → h = k

variable {client : Client} {s t : Interleaving} {m : Move} {i : Nat} {spare : List UInt16}
variable {k : String} {p : UInt16}

theorem Sound.exclusive (h : s.Sound spare) : s.Exclusive := by
  intro a b p ha hb
  have same := h.accounts.ledger.apart (some (.sandbox a)) (some (.sandbox b)) p ha hb
  exact Owner.sandbox.inj (Option.some.inj same)

/-! ## Bringing two sandboxes onto one port -/

/-- What is left of the accounts once they have been broken. -/
structure Plain (s : Interleaving) : Prop where
  keys : s.books.Keyed
  range : PortPool.SameRange s.books.ports .empty

theorem Plain.release (h : s.Plain) {ports : List UInt16}
    (released : t.books = s.books.releasePorts ports) : t.Plain := by
  constructor
  · rw [released]
    exact h.keys
  · rw [released]
    exact (PortPool.sameRange_releaseAll s.books.ports ports).trans h.range

/-- One more sandbox has been registered, on the port. -/
structure Published (s t : Interleaving) (k : String) (p : UInt16) : Prop where
  plain : t.Plain
  declares : p ∈ t.books.declared k
  registry : ∀ h, h ≠ k → t.books.registry.get? h = s.books.registry.get? h
  declared : ∀ h, h ≠ k → t.books.declared h = s.books.declared h
  calls : ∀ (j : Nat) (call : Call), s.calls[j]? = some call → t.calls[j]? = some call

/-- A creation on a free port of the pool succeeds at once. -/
theorem start_onPort (client : Client) {b : Books} (range : PortPool.SameRange b.ports .empty)
    (valid : Handle.fault? k = none) (fresh : b.registry.get? k = none)
    (inside : b.ports.contains p = true) (free : p ∉ b.ports.held) :
    ∃ (ports : PortPool) (x : Sandbox) (call : CreateCall),
      CreateCall.start client b (.onPort k p) 0 = (Books.enrol { b with ports } x {}, call) ∧
      PortPool.SameRange ports b.ports ∧ x.handle = k ∧ x.pod.hostPorts = [p] := by
  have nonzero : p ≠ 0 := by
    intro same
    subst same
    rw [range.contains_eq 0] at inside
    cases inside
  obtain ⟨ports, made⟩ := PortClaim.make_single nonzero inside free
  have unregistered : b.registry.contains k = false :=
    Option.isSome_eq_false_iff.2 (Option.isNone_iff_eq_none.2 fresh)
  have preloaded : ImageSource.parse "rootfs" = .ok (.preloaded "rootfs") := by decide
  refine ⟨ports, _, _, CreateCall.start_preloaded valid unregistered made preloaded,
    (PortClaim.make_ok made).range, rfl, ?_⟩
  rw [CreateCall.hostPorts_draft]
  rfl

theorem Plain.publish (client : Client) (h : s.Plain) (valid : Handle.fault? k = none)
    (fresh : s.books.registry.get? k = none) (inside : s.books.ports.contains p = true)
    (free : p ∉ s.books.ports.held) :
    Published s (s.step client (.create (.onPort k p) 0)) k p := by
  obtain ⟨ports, x, call, started, range, rfl, declares⟩ :=
    start_onPort client h.range valid fresh inside free
  have books : (s.step client (.create (.onPort x.handle p) 0)).books =
      Books.enrol { s.books with ports } x {} := congrArg Prod.fst started
  have registry (k : String) : (Books.enrol { s.books with ports } x {}).registry.get? k =
      if k = x.handle then some s.books.sandboxes.length else s.books.registry.get? k :=
    Books.get?_enrol ..
  refine ⟨⟨?_, ?_⟩, ?_, ?_, ?_, ?_⟩
  · rw [books]
    have keys : Books.Keyed { s.books with ports } := h.keys
    exact keys.enrol x {}
  · rw [books]
    exact range.trans h.range
  · rw [books, Books.mem_declared ((registry x.handle).trans (if_pos rfl)),
      Books.sandbox_append_self (b := s.books) rfl, declares]
    exact ⟨List.mem_singleton_self p, (range.contains_eq p).trans inside⟩
  · intro k hk
    rw [books, registry k, if_neg hk]
  · intro k hk
    rw [books]
    apply Books.declared_congr ((registry k).trans (if_neg hk)) range
    intro key found
    rw [Books.sandbox_append rfl (h.keys k key found)]
  · intro j call found
    exact (List.getElem?_append_left (List.getElem?_eq_some_iff.1 found).1).trans found

/-- A creation on its way to registration can always be made to give its claim back. -/
theorem exists_release {j : Nat} {call : CreateCall} {claim : PortClaim} (client : Client)
    (found : s.calls[j]? = some (.create call)) (holds : call.claim? = some claim) :
    ∃ m, s.Admits client m ∧ s.HandsBack m ∧
      (s.step client m).books = s.books.releasePorts claim.claimed := by
  obtain ⟨event, e, admitted, ended, other⟩ := CreateCall.exists_abandon client 0 s.books holds
  refine ⟨.event j 0 event, ⟨_, found, admitted⟩, ?_, ?_⟩
  · unfold HandsBack
    split
    · rename_i pod m
      cases m
      exact (other _ rfl).elim
    · trivial
  · simp only [Interleaving.step, found]
    exact congrArg Prod.fst ended

/-- What a destruction does that forgets its handle. -/
theorem Forgets.step {handle : String} {pod : Pod} (h : s.Forgets client m handle pod) :
    (s.step client m).books = s.books.forget handle pod ∧ (s.step client m).claims = s.claims := by
  obtain ⟨i, now, event, call, result, rfl, found, rfl, -, ended⟩ := h
  have stepped : s.step client (.event i now event) =
      s.advanced client i event ((call.resume client now s.books event).map id .destroy) := by
    simp only [Interleaving.step, found]
    rfl
  rw [stepped]
  refine ⟨congrArg Prod.fst ended, ?_⟩
  have placed : Placed client s (s.advanced client i event _) i _ :=
    placed_advanced found event ((call.resume client now s.books event).map id .destroy)
  exact placed.claims_same (claims_of_destroy found).symm

/-- A destruction that strays frees a port behind the back of its owner. -/
theorem straying_frees (sound : s.Sound spare) (strays : s.Strays client m) :
    (s.step client m).Plain ∧
      (∀ h, s.books.registry.get? h = none → (s.step client m).books.registry.get? h = none) ∧
      ∃ p owner, (s.step client m).books.ports.contains p = true ∧
        p ∉ (s.step client m).books.ports.held ∧ p ∈ (s.step client m).portsOf owner := by
  obtain ⟨handle, pod, forgets, owner, other, p, listed, declares⟩ := strays
  obtain ⟨books, claims⟩ := forgets.step
  have range := PortPool.sameRange_releaseAll s.books.ports pod.hostPorts
  have held : p ∈ s.books.ports.held := (sound.accounts.ledger.held p).2 ⟨some owner, listed⟩
  simp only [portsOf, books, claims]
  refine ⟨⟨?_, ?_⟩, ?_, p, owner, ?_, ?_, ?_⟩
  · rw [books]
    exact sound.accounts.keys.forget handle pod
  · rw [books]
    exact range.trans sound.accounts.range
  · intro h absent
    by_contra present
    obtain ⟨key, found⟩ := Option.ne_none_iff_exists'.1 present
    rw [(Books.get?_forget_of_some found).2] at absent
    cases absent
  · exact (range.contains_eq p).trans (PortPool.contains_of_held held)
  · intro after
    exact (PortPool.mem_held_releaseAll.1 after).2 declares
  · cases owner with
    | creation j => exact listed
    | sandbox h =>
        have away : h ≠ handle := fun e => other (e ▸ rfl)
        have same : (s.books.forget handle pod).declared h = s.books.declared h :=
          Books.declared_congr (Table.get?_erase_ne _ away) range (fun _ _ => rfl)
        change p ∈ (s.books.forget handle pod).declared h
        rw [same]
        exact listed

theorem reaches_create (client : Client) (s : Interleaving) (spec : SandboxSpec)
    (deadline : Instant) : Reaches client HandsBack s (s.step client (.create spec deadline)) :=
  .step .start trivial trivial

/-- A free port that a registered sandbox declares can be given to another one. -/
theorem Plain.shared_with (h : s.Plain) {g : String} (declares : p ∈ s.books.declared g)
    (inside : s.books.ports.contains p = true) (free : p ∉ s.books.ports.held)
    (valid : Handle.fault? k = none) (fresh : s.books.registry.get? k = none) :
    ∃ u, Reaches client HandsBack s u ∧ ¬ u.Exclusive := by
  have published := h.publish client valid fresh inside free
  have away : g ≠ k := by
    intro same
    subst same
    rw [Books.declared_of_absent fresh] at declares
    cases declares
  refine ⟨_, reaches_create client s (.onPort k p) 0, ?_⟩
  intro exclusive
  apply away
  apply exclusive g k p ?_ published.declares
  rw [published.declared g away]
  exact declares

/-- Once a port is free that somebody owns, two new sandboxes are enough to break exclusivity. -/
theorem Plain.shared (h : s.Plain) {owner : Owner} (inside : s.books.ports.contains p = true)
    (free : p ∉ s.books.ports.held) (owned : p ∈ s.portsOf owner) {k' : String} (ne : k ≠ k')
    (valid : Handle.fault? k = none) (valid' : Handle.fault? k' = none)
    (fresh : s.books.registry.get? k = none) (fresh' : s.books.registry.get? k' = none) :
    ∃ u, Reaches client HandsBack s u ∧ ¬ u.Exclusive := by
  cases owner with
  | sandbox g => exact h.shared_with owned inside free valid fresh
  | creation j =>
      change p ∈ claimedAt s.claims j at owned
      cases holds : s.claims j with
      | none =>
          rw [claimedAt_none holds] at owned
          cases owned
      | some claim =>
          rw [claimedAt_some holds] at owned
          obtain ⟨call, found, hclaim⟩ := Option.bind_eq_some_iff.1 holds
          cases call with
          | destroy call => cases hclaim
          | create call =>
              -- The creation fails and gives back the port, which the first new sandbox has.
              have first := h.publish client valid fresh inside free
              obtain ⟨m, admitted, handsBack, released⟩ :=
                exists_release client (first.calls j _ found) hclaim
              have plain := first.plain.release released
              have route := (reaches_create client s (.onPort k p) 0).step admitted handsBack
              suffices broken : ∃ u, Reaches client HandsBack
                  ((s.step client (.create (.onPort k p) 0)).step client m) u ∧ ¬ u.Exclusive by
                obtain ⟨u, run, shared⟩ := broken
                exact ⟨u, route.trans run, shared⟩
              apply plain.shared_with (p := p) (g := k) ?_ ?_ ?_ valid' ?_
              · rw [released, Books.declared_releasePorts]
                exact first.declares
              · rw [plain.range.contains_eq p, ← h.range.contains_eq p, inside]
              · rw [released]
                exact fun held => (PortPool.mem_held_releaseAll.1 held).2 owned
              · rw [released]
                exact (first.registry k' ne.symm).trans fresh'

/-! ## Up to the first straying destruction, and from it on -/

/-- As long as no destruction strays, no two sandboxes share a port; and a destruction that
strays opens the way to two that do. -/
theorem exclusive_until_straying {pods : List Pod} {books : Books}
    (connected : Connected pods client books) (distinct : PortsDistinct pods)
    (run : Reaches client (fun s m => s.HandsBack m ∧ ¬ s.Strays client m) { books } t) :
    t.Exclusive ∧ ∀ m k k', t.Strays client m → k ≠ k' →
      Handle.fault? k = none → Handle.fault? k' = none →
      t.books.registry.get? k = none → t.books.registry.get? k' = none →
      ∃ u, Reaches client HandsBack (t.step client m) u ∧ ¬ u.Exclusive := by
  obtain ⟨spare, sound⟩ := sound_of_level connected distinct run
  refine ⟨sound.exclusive, ?_⟩
  intro m k k' strays ne valid valid' fresh fresh'
  obtain ⟨plain, absent, p, owner, inside, free, owned⟩ := straying_frees sound strays
  exact plain.shared inside free owned ne valid valid' (absent k fresh) (absent k' fresh')

/-- A sandbox is destroyed twice at a time, and the first of the two destructions ends. -/
def firstRelease : List Move := [
  .destroy "web" 10,
  .event 0 0 (.answered (.deleted (.ok ()))),
  .destroy "web" 10,
  .event 0 0 (.answered (.pod (.error (.notFound .pod "web"))))]

/-- The second of the two destructions ends. -/
def lateRelease : Move := .event 1 0 (.answered (.deleted (.error (.notFound .pod "web"))))

/-- The port of a sandbox goes to the next one, which alone has it until the late release. -/
theorem exclusive_until_late_release : ∃ (client : Client) (books : Books),
    Connected [.publishing "web" 62000, .publishing "worker" 62001] client books ∧
      let r : Interleaving := { books }
      let s := firstRelease.foldl (step client) r
      let t := s.step client (.create (.onPort "first" 62000) 10)
      let u := t.step client (.event 2 0 (.answered (.pod (.ok (t.books.sandbox 2).pod))))
      u.books.declared "worker" = [62001] ∧ u.books.declared "first" = [62000] ∧ u.Exclusive ∧
        u.Admits client lateRelease ∧ u.Strays client lateRelease ∧
        ∃ v, Reaches client HandsBack (u.step client lateRelease) v ∧ ¬ v.Exclusive := by
  have distinct : PortsDistinct [.publishing "web" 62000, .publishing "worker" 62001] := by
    refine List.pairwise_pair.2 ?_
    intro p _ first second
    cases List.mem_singleton.1 first
    exact absurd second (by decide)
  let client : Client := ⟨{}, "node", {}⟩
  have connected : Connected [.publishing "web" 62000, .publishing "worker" 62001] client _ :=
    ⟨{}, "node", {}, [], rfl⟩
  refine ⟨client, _, connected, ?_⟩
  intro r s t u
  -- Up to the second destruction there has been only one of the handle.
  have alone : Reaches client (fun s m => s.SeparatesDestructions m ∧ s.HandsBack m) r
      ((firstRelease.take 2).foldl (step client) r) := by
    apply Follows.reaches ?_ .start
    refine ⟨trivial, ⟨?_, trivial⟩, ⟨_, rfl, rfl⟩, ⟨trivial, trivial⟩, trivial⟩
    intro call member
    cases member
  have both := (level_of_apart connected distinct alone).step (m := .destroy "web" 10) trivial
    ⟨trivial, not_strays_of_begins rfl⟩
  obtain ⟨spare, sound⟩ := sound_of_level connected distinct both
  have released : Reaches client (fun s m => s.HandsBack m ∧ ¬ s.Strays client m) r s := by
    refine both.step (m := .event 0 0 (.answered (.pod (.error (.notFound .pod "web")))))
      ⟨_, rfl, rfl⟩ ⟨trivial, sound.not_strays ?_⟩
    intro handle pod forgets p declared inside
    obtain ⟨i, now, event, call, result, same, found, rfl, holds, -⟩ := forgets
    cases same
    cases found
    cases holds
    cases List.mem_singleton.1 declared
    decide
  have passed := released.step (m := .create (.onPort "first" 62000) 10) trivial
    ⟨trivial, not_strays_of_begins rfl⟩
  have begun : t.calls[2]? =
      some (.create (CreateCall.start client s.books (.onPort "first" 62000) 10).2) := rfl
  have handed : Reaches client (fun s m => s.HandsBack m ∧ ¬ s.Strays client m) r u :=
    passed.step ⟨_, begun, by decide⟩
      ⟨(released.logged (logged_start _)).handsBack rfl, not_strays_of_create begun⟩
  have strays : u.Strays client lateRelease :=
    ⟨"web", .publishing "web" 62000, ⟨1, 0, _, _, _, rfl, rfl, rfl, rfl, rfl⟩,
      .sandbox "first", by decide, 62000, by decide, by decide⟩
  obtain ⟨exclusive, shared⟩ := exclusive_until_straying connected distinct handed
  refine ⟨by decide, by decide, exclusive, ⟨_, rfl, rfl⟩, strays, ?_⟩
  exact shared lateRelease "second" "third" strays (by decide) (by decide) (by decide) (by decide)
    (by decide)

/-- No destruction strays when destructions of one handle share no time, so then no two sandboxes
ever share a port, however creations and destructions overlap otherwise. -/
theorem exclusive_of_apart {pods : List Pod} {books : Books}
    (connected : Connected pods client books) (distinct : PortsDistinct pods)
    (run : Reaches client (fun s m => s.SeparatesDestructions m ∧ s.HandsBack m) { books } t) :
    t.Exclusive :=
  (sound_of_apart connected distinct run).1.exclusive

/-- Two destructions of one sandbox begin together. The first ends, a new sandbox gets the port,
the second ends, and the next sandbox gets the port again. -/
def secondRelease : List Move := [
  .destroy "web" 10,
  .destroy "web" 10,
  .event 0 0 (.answered (.deleted (.ok ()))),
  .event 0 0 (.answered (.pod (.error (.notFound .pod "web")))),
  .create (.onPort "first" 0) 10,
  .event 1 0 (.answered (.deleted (.error (.notFound .pod "web")))),
  .create (.onPort "second" 0) 10]

/-- Overlapping destructions make two sandboxes share a port. -/
theorem overlapping_destructions_share_port : ∃ (client : Client) (books : Books),
    Connected [.publishing "web" 62000] client books ∧
      PortsDistinct [.publishing "web" 62000] ∧
      let t := secondRelease.foldl (step client) { books }
      Reaches client HandsBack { books } t ∧ t.books.declared "first" = [62000] ∧
        t.books.declared "second" = [62000] := by
  refine ⟨_, _, ⟨{}, "node", {}, [], rfl⟩, List.pairwise_singleton _ _, ?_, ?_, ?_⟩
  · apply Follows.reaches ?_ .start
    exact ⟨trivial, trivial, trivial, trivial, ⟨_, rfl, rfl⟩, trivial, ⟨_, rfl, rfl⟩, trivial,
      trivial, trivial, ⟨_, rfl, rfl⟩, trivial, trivial, trivial, trivial⟩
  · decide
  · decide

end Interleaving
end SandboxPods
