import SandboxPods.Proofs.Client.HandleRace
import SandboxPods.Proofs.Client.PortExclusivity
import SandboxPods.Proofs.Client.Undoing

/-!
# How long declared ports stay held

A connection takes up every pod of the namespace, and pods that run on different
nodes may declare one port of the pool. The pool holds such a port once and does not
know how often it is declared. One call after another, every declared port stays
held until a move uncovers one: a destruction gives back a port that another
registered sandbox declares as well, or a creation is shown a pod that declares a
port which is not held. From then on the next sandbox can have the port, too.
-/
namespace SandboxPods

/-- Every declared port is held, and the ports of the one claim that there may be are held for it
and declared by no sandbox. -/
structure Backing (b : Books) (claim? : Option PortClaim) : Prop where
  keys : b.Keyed
  range : PortPool.SameRange b.ports .empty
  held : ∀ h p, p ∈ b.declared h → p ∈ b.ports.held
  covers : ∀ claim ∈ claim?, claim.Covers b.ports
  claimed : ∀ claim ∈ claim?, ∀ p ∈ claim.claimed, p ∈ b.ports.held ∧ ∀ h, p ∉ b.declared h

namespace Backing
variable {client : Client} {b c : Books} {claim : PortClaim} {claim? : Option PortClaim}

/-- Without a claim there is nothing to say about one. -/
theorem of_none (keys : b.Keyed) (range : PortPool.SameRange b.ports .empty)
    (held : ∀ h p, p ∈ b.declared h → p ∈ b.ports.held) : Backing b none := by
  refine ⟨keys, range, held, ?_, ?_⟩
  · rintro claim ⟨⟩
  · rintro claim ⟨⟩

theorem unclaimed (h : Backing b claim?) : Backing b none := of_none h.keys h.range h.held

/-- Only free ports are claimed, and no declared port is free. -/
theorem make {ports : PortPool} (h : Backing b none) (made : PortClaim.Made b.ports ports claim) :
    Backing { b with ports } (some claim) := by
  have declared (k : String) : Books.declared { b with ports } k = b.declared k :=
    Books.declared_congr rfl made.range fun _ _ => rfl
  refine ⟨h.keys, made.range.trans h.range, ?_, ?_, ?_⟩
  · intro k p declares
    rw [declared k] at declares
    exact (made.held p).2 (.inr (h.held k p declares))
  · rintro claim ⟨⟩
    exact made.covers.congr made.range.symm
  · rintro claim ⟨⟩ p claimed
    refine ⟨(made.held p).2 (.inl claimed), fun k declares => ?_⟩
    rw [declared k] at declares
    exact made.free p claimed (h.held k p declares)

theorem abandon (h : Backing b (some claim)) : Backing (b.releasePorts claim.claimed) none := by
  refine of_none h.keys ?_ ?_
  · exact (PortPool.sameRange_releaseAll b.ports claim.claimed).trans h.range
  · intro k p declares
    rw [Books.declared_releasePorts] at declares
    refine PortPool.mem_held_releaseAll.2 ⟨h.held k p declares, fun claimed => ?_⟩
    exact (h.claimed claim rfl p claimed).2 k declares

theorem enrol (h : Backing b (some claim)) {x : Sandbox}
    (ports : x.pod.hostPorts = claim.hostPorts) (properties : Properties) :
    Backing (b.enrol x properties) none := by
  apply of_none (h.keys.enrol x properties) h.range
  intro k p declares
  change p ∈ b.ports.held
  by_cases hk : k = x.handle
  · have registered : (b.enrol x properties).registry.get? k = some b.sandboxes.length := by
      rw [Books.get?_enrol, if_pos hk]
    rw [Books.mem_declared registered, Books.sandbox_enrol_self, ports] at declares
    have claimed := (h.covers claim rfl p).2 declares.symm
    exact (h.claimed claim rfl p claimed).1
  · apply h.held k p
    rw [← Books.declared_congr ((Books.get?_enrol ..).trans (if_neg hk)) (.refl _)]
    · exact declares
    · intro key found
      rw [Books.sandbox_enrol (h.keys k key found)]

theorem claiming {call : CreateCall} {r : Books × CreateCall} (h : Backing b (some claim))
    (moved : CreateCall.Claiming client b call claim r) : Backing r.1 r.2.claim? := by
  cases moved with
  | keeps same =>
      rw [same]
      exact h
  | abandons e => exact h.abandon
  | registers image env rootfsSize free => exact h.enrol (CreateCall.hostPorts_draft ..) _

theorem starting {spec : SandboxSpec} {deadline : Instant} {r : Books × CreateCall}
    (h : Backing b none) (moved : CreateCall.Starting client b spec deadline r) :
    Backing r.1 r.2.claim? := by
  cases moved with
  | refused e => exact h
  | claims free made moved => exact (h.make (PortClaim.make_ok made)).claiming moved

/-- A sandbox is forgotten with a pod that declares no port of another one. -/
theorem forget (h : Backing b none) {handle : String} {pod : Pod}
    (spared : ∀ k, k ≠ handle → ∀ p ∈ b.declared k, p ∉ pod.hostPorts) :
    Backing (b.forget handle pod) none := by
  have range := PortPool.sameRange_releaseAll b.ports pod.hostPorts
  apply of_none (h.keys.forget handle pod) (range.trans h.range)
  intro k p declares
  by_cases hk : k = handle
  · rw [hk, Books.declared_of_absent (Table.get?_erase_self ..)] at declares
    cases declares
  · have same : (b.forget handle pod).declared k = b.declared k :=
      Books.declared_congr (Table.get?_erase_ne _ hk) range fun _ _ => rfl
    rw [same] at declares
    exact PortPool.mem_held_releaseAll.2 ⟨h.held k p declares, spared k hk p declares⟩

/-- The pod of a sandbox changes, and what it declares now is held if the sandbox is registered. -/
theorem modify (h : Backing b none) {key : Nat} {f : Sandbox → Sandbox}
    (known : key < b.sandboxes.length)
    (held : ∀ k, b.registry.get? k = some key → ∀ p ∈ (f (b.sandbox key)).pod.hostPorts,
      b.ports.contains p = true → p ∈ b.ports.held) : Backing (b.modify key f) none := by
  refine of_none ?_ h.range ?_
  · intro k j found
    rw [Books.length_modify]
    exact h.keys k j found
  · intro k p declares
    cases found : b.registry.get? k with
    | none =>
        rw [Books.declared_of_absent (b := b.modify key f) found] at declares
        cases declares
    | some j =>
        have mem := (Books.mem_declared (b := b.modify key f) found).1 declares
        by_cases hj : key = j
        · subst hj
          rw [Books.sandbox_modify_self known] at mem
          exact held k found p mem.1 mem.2
        · rw [Books.sandbox_modify_ne hj] at mem
          exact h.held k p ((Books.mem_declared found).2 mem)

theorem setProperty (h : Backing b none) (handle name value : String) :
    Backing (b.setProperty handle name value) none :=
  ⟨h.keys, h.range, h.held, h.covers, h.claimed⟩

end Backing

/-- A pod that a creation is shown is kept when it was asked for; the answer to a submission is
not. -/
theorem CreateCall.reading_or_kept {client : Client} {books : Books} {call : CreateCall}
    {now : Instant} {key : Nat} {pod : Pod} (held : call.key? = some key)
    (admitted : (call.awaiting client books).admits now (.answered (.pod (.ok pod))) = true) :
    call.stage = .reading key ∨
      (call.resume client now books (.answered (.pod (.ok pod)))).1 = books := by
  obtain ⟨spec, deadline, stage⟩ := call
  cases stage with
  | reading k =>
      cases held
      exact .inl rfl
  | submitting k => exact .inr rfl
  | pausing k wake => cases admitted
  | withdrawing k => cases admitted
  | loading k statuses => cases admitted
  | _ => cases held

namespace Interleaving
variable {client : Client} {s t : Interleaving} {m : Move} {n : Nat}

/-- Every port of the pool that a registered sandbox declares is held, so no claim gets it. -/
def Covered (s : Interleaving) : Prop := ∀ h p, p ∈ s.books.declared h →
  p ∈ s.books.ports.held ∧ ∀ requests after claim,
    PortClaim.make s.books.ports requests = .ok (after, claim) → p ∉ claim.claimed

/-- The move leaves a sandbox registered whose pod declares a port of the pool that nobody holds. -/
inductive Uncovers (client : Client) (s : Interleaving) (m : Move) : Prop
  /-- A destruction gives back a port that another registered sandbox declares as well. -/
  | shares {handle h : String} {pod : Pod} {p : UInt16} : s.Forgets client m handle pod →
      h ≠ handle → p ∈ s.books.declared h → p ∈ pod.hostPorts → Uncovers client s m
  /-- A creation reads a pod with a port of the pool that is not held. -/
  | exceeds {i key : Nat} {now : Instant} {call : CreateCall} {h : String} {pod : Pod}
      {p : UInt16} : m = .event i now (.answered (.pod (.ok pod))) →
      s.calls[i]? = some (.create call) → call.stage = .reading key →
      s.books.registry.get? h = some key → p ∈ pod.hostPorts →
      s.books.ports.contains p = true → p ∉ s.books.ports.held → Uncovers client s m

/-- Calls come one after another, every declared port is held, and so are the ports of the
creation that is on its way. -/
structure Backed (s : Interleaving) : Prop where
  tidy : s.Tidy
  keyed : s.Keyed
  books : Backing s.books none
  claim : ∀ i claim, s.claims i = some claim → Backing s.books (some claim)

theorem Backed.placed {r : Books × Call} (placed : Placed client s t n r)
    (others : ∀ j, j ≠ n → s.claims j = none) (tidy : t.Tidy) (keyed : t.Keyed)
    (backing : Backing r.1 r.2.claim?) : t.Backed := by
  refine ⟨tidy, keyed, placed.books ▸ backing.unclaimed, ?_⟩
  intro i claim found
  rw [placed.claims_eq] at found
  by_cases hi : i = n
  · rw [hi, Function.update_self] at found
    rw [placed.books, ← found]
    exact backing
  · rw [Function.update_of_ne hi, others i hi] at found
    cases found

/-- Tending a sandbox keeps the declared ports held, unless a pod is read that declares others. -/
theorem Backed.attending {i key : Nat} {now : Instant} {event : Event} {call : CreateCall}
    {r : Books × CreateCall} (h : s.Backed) (admitted : s.Admits client (.event i now event))
    (found : s.calls[i]? = some (.create call)) (held : call.key? = some key)
    (moved : CreateCall.Attending s.books call key event r)
    (result : call.resume client now s.books event = r)
    (level : ¬ s.Uncovers client (.event i now event)) : Backing r.1 none := by
  have known := h.keyed i call key found held
  cases moved with
  | waits same later => exact h.books
  | fails e => exact h.books
  | completes tasks =>
      apply Backing.setProperty
      apply h.books.modify known
      intro k registered p declares inside
      exact h.books.held k p ((Books.mem_declared registered).2 ⟨declares, inside⟩)
  | @sees stage pod told same later =>
      subst told
      have admits := admitted.of_event found
      rcases CreateCall.reading_or_kept held admits with reading | kept
      · apply h.books.modify known
        intro k registered p declares inside
        by_contra free
        exact level (.exceeds rfl found reading registered declares inside free)
      · rw [result] at kept
        rw [kept]
        exact h.books

theorem Backed.step (h : s.Backed) (admitted : s.Admits client m) (sequential : s.Sequential m)
    (level : ¬ s.Uncovers client m) : (s.step client m).Backed := by
  have tidy := h.tidy.step admitted sequential
  have keyed := h.keyed.step admitted
  -- Whatever the move is about, no other call holds a claim.
  have others {n : Nat} {handle : String} (turn : s.Turn n handle) (j : Nat) (hj : j ≠ n) :
      s.claims j = none := claims_of_returned fun call found => turn.others j call hj found
  cases stepped admitted with
  | @starts spec deadline r hm moved placed =>
      subst hm
      exact .placed placed (others (turn_begins sequential spec.handle)) tidy keyed
        (h.books.starting moved)
  | @looks handle deadline hm placed =>
      subst hm
      exact .placed placed (others (turn_begins sequential handle)) tidy keyed h.books
  | claiming hm found holds moved placed =>
      subst hm
      have mine := h.claim _ _ ((claims_of_create found).trans holds)
      exact .placed placed (others (h.tidy.turn admitted found)) tidy keyed (mine.claiming moved)
  | attending hm found holds moved placed =>
      subst hm
      apply Backed.placed placed (others (h.tidy.turn admitted found)) tidy keyed
      change Backing _ (CreateCall.claim? _)
      rw [moved.claim?]
      exact h.attending admitted found holds moved (placed.resumed found) level
  | @deleting i now event call pod r hm found holds moved result placed =>
      subst hm
      apply Backed.placed placed (others (h.tidy.turn admitted found)) tidy keyed
      cases moved with
      | waits same later => exact h.books
      | fails e first refused => exact h.books
      | forgets outcome =>
          apply h.books.forget
          intro k hk p declares declared
          exact level (.shares ⟨i, now, event, call, outcome, rfl, found, rfl, holds, result⟩ hk
            declares declared)

theorem backed_start {pods : List Pod} {books : Books} (connected : Connected pods client books) :
    Backed { books } := by
  have recovered := connected.recovered
  have none_claimed (i : Nat) : ({ books } : Interleaving).claims i = none := by simp [claims]
  refine ⟨⟨?_, recovered.known, ?_⟩, ?_, ?_, ?_⟩
  · intro i j a c found
    cases found
  · intro i call key found
    cases found
  · intro i call key found
    cases found
  · apply Backing.of_none (fun k key found => (recovered.entries k key found).1) recovered.range
    intro k p declares
    cases found : books.registry.get? k with
    | none =>
        rw [Books.declared_of_absent found] at declares
        cases declares
    | some key =>
        obtain ⟨declared, inside⟩ := (Books.mem_declared found).1 declares
        rw [recovered.range.contains_eq] at inside
        exact (recovered.held p).2 ⟨inside, _, (recovered.entries k key found).2.1, declared⟩
  · intro i claim found
    rw [none_claimed i] at found
    cases found

theorem Backed.covered (h : s.Backed) : s.Covered := by
  intro k p declares
  have held := h.books.held k p declares
  refine ⟨held, ?_⟩
  intro requests after claim made claimed
  exact (PortClaim.make_ok made).free p claimed held

/-! ## From a move that uncovers a port -/

/-- A registered sandbox declares the port of the pool, and nobody holds it. -/
structure Bare (s : Interleaving) (h : String) (p : UInt16) : Prop where
  plain : s.Plain
  declared : p ∈ s.books.declared h
  inside : s.books.ports.contains p = true
  free : p ∉ s.books.ports.held

theorem Uncovers.bare (h : s.Backed) (admitted : s.Admits client m)
    (uncovers : s.Uncovers client m) : ∃ k p, (s.step client m).Bare k p := by
  cases uncovers with
  | @shares handle k pod p forgets away declares given =>
      obtain ⟨books, -⟩ := forgets.step
      have range := PortPool.sameRange_releaseAll s.books.ports pod.hostPorts
      have same : (s.books.forget handle pod).declared k = s.books.declared k :=
        Books.declared_congr (Table.get?_erase_ne _ away) range fun _ _ => rfl
      refine ⟨k, p, ⟨?_, ?_⟩, ?_, ?_, ?_⟩
      · rw [books]
        exact h.books.keys.forget handle pod
      · rw [books]
        exact range.trans h.books.range
      · rw [books, same]
        exact declares
      · rw [books]
        exact (range.contains_eq p).trans (PortPool.contains_of_held (h.books.held k p declares))
      · rw [books]
        exact fun held => (PortPool.mem_held_releaseAll.1 held).2 given
  | @exceeds i key now call k pod p hm found reading registered declares inside free =>
      subst hm
      have known := h.books.keys k key registered
      have books : ((s.step client (.event i now (.answered (.pod (.ok pod))))).books) =
          s.books.modify key (fun x => { x with pod }) := by
        simp only [Interleaving.step, found, advanced, Call.resume, Prod.map, CreateCall.resume,
          reading]
        rfl
      refine ⟨k, p, ⟨?_, ?_⟩, ?_, ?_, ?_⟩
      · rw [books]
        intro j other entry
        rw [Books.length_modify]
        exact h.books.keys j other entry
      · rw [books]
        exact h.books.range
      · rw [books, Books.mem_declared (b := s.books.modify key _) registered,
          Books.sandbox_modify_self known]
        exact ⟨declares, inside⟩
      · rw [books]
        exact inside
      · rw [books]
        exact free

/-- The next sandbox that asks for the port gets it. -/
theorem Bare.publish (client : Client) {k : String} {p : UInt16} (h : s.Bare k p) {fresh : String}
    (valid : Handle.fault? fresh = none) (unregistered : s.books.registry.get? fresh = none) :
    let t := s.step client (.create (.onPort fresh p) 0)
    p ∈ t.books.declared k ∧ p ∈ t.books.declared fresh := by
  have published := h.plain.publish client valid unregistered h.inside h.free
  have away : k ≠ fresh := by
    rintro rfl
    have declared := h.declared
    rw [Books.declared_of_absent unregistered] at declared
    cases declared
  refine ⟨?_, published.declares⟩
  rw [published.declared k away]
  exact h.declared

/-- Whatever pods there were to take up, one call after another every port that a registered
sandbox declares stays held and out of reach, up to the first move that uncovers one; and after
such a move the next sandbox can be registered on the port as well. -/
theorem declared_ports_covered {pods : List Pod} {books : Books}
    (connected : Connected pods client books)
    (run : Reaches client (fun s m => s.Sequential m ∧ ¬ s.Uncovers client m) { books } t) :
    t.Covered ∧ ∀ m, t.Admits client m → t.Uncovers client m → ∃ h p,
      p ∈ (t.step client m).books.declared h ∧ p ∉ (t.step client m).books.ports.held ∧
      ∀ fresh, Handle.fault? fresh = none → (t.step client m).books.registry.get? fresh = none →
        let u := (t.step client m).step client (.create (.onPort fresh p) 0)
        p ∈ u.books.declared h ∧ p ∈ u.books.declared fresh := by
  have backed : t.Backed := run.invariant (backed_start connected)
    fun _ _ before admitted ok => before.step admitted ok.1 ok.2
  refine ⟨backed.covered, fun m admitted uncovers => ?_⟩
  obtain ⟨h, p, bare⟩ := uncovers.bare backed admitted
  exact ⟨h, p, bare.declared, bare.free, fun fresh valid absent => bare.publish client valid absent⟩

/-- Two pods that declare one port of the pool. -/
def sharing : List Pod := [.publishing "a" 62000, .publishing "b" 62000]

/-- The first of them is destroyed; its deletion has been accepted. -/
def accepted : List Move := [.destroy "a" 10, .event 0 0 (.answered (.deleted (.ok ())))]

/-- The pod is found to be gone. -/
def gone : Move := .event 0 0 (.answered (.pod (.error (.notFound .pod "a"))))

/-- A client that has taken up the two pods, and no call has been begun yet. -/
def sharingClient : Client × Interleaving :=
  let client : Client := ⟨{}, "node", {}⟩
  match ConnectCall.recover client {} sharing with
  | .finished (.ok (client, books)) => (client, { books })
  | _ => (client, { books := {} })

theorem connected_sharing : Connected sharing sharingClient.1 sharingClient.2.books :=
  ⟨{}, "node", {}, [], rfl⟩

/-- The shared port is covered until the first of the two pods is forgotten, and bare then. -/
theorem shared_port_covered_until_forgotten :
    let t := accepted.foldl (step sharingClient.1) sharingClient.2
    t.Covered ∧ t.Uncovers sharingClient.1 gone ∧
      ∃ h p, p ∈ (t.step sharingClient.1 gone).books.declared h ∧
        p ∉ (t.step sharingClient.1 gone).books.ports.held := by
  intro t
  have run : Reaches sharingClient.1 (fun s m => s.Sequential m ∧ ¬ s.Uncovers sharingClient.1 m)
      { books := sharingClient.2.books } t := by
    apply Follows.reaches ?_ .start
    refine ⟨trivial, ⟨fun call member => (nomatch member), ?_⟩, ⟨_, rfl, rfl⟩,
      ⟨trivial, ?_⟩, trivial⟩
    · intro uncovers
      cases uncovers with
      | shares forgets away declares given =>
          obtain ⟨i, now, event, call, result, hm, -⟩ := forgets
          cases hm
      | exceeds hm => cases hm
    · intro uncovers
      cases uncovers with
      | shares forgets away declares given =>
          obtain ⟨i, now, event, call, result, hm, found, -, -, ended⟩ := forgets
          cases hm
          cases found
          cases congrArg (fun r => r.2.stage) ended
      | exceeds hm => cases hm
  have forgets : t.Forgets sharingClient.1 gone "a" (.publishing "a" 62000) :=
    ⟨0, 0, _, _, _, rfl, rfl, rfl, rfl, rfl⟩
  have declares : 62000 ∈ t.books.declared "b" := by decide
  have uncovers : t.Uncovers sharingClient.1 gone :=
    .shares forgets (by decide) declares (by decide)
  obtain ⟨covered, after⟩ := declared_ports_covered connected_sharing run
  obtain ⟨h, p, declares, free, -⟩ := after gone ⟨_, rfl, rfl⟩ uncovers
  exact ⟨covered, uncovers, h, p, declares, free⟩

/-- Once the first pod is forgotten, the next sandbox is registered on the port that the second
one still declares. -/
theorem shared_port_given_away :
    let t := (accepted ++ [gone]).foldl (step sharingClient.1) sharingClient.2
    let u := t.step sharingClient.1 (.create (.onPort "c" 62000) 10)
    Connected sharing sharingClient.1 sharingClient.2.books ∧
      Reaches sharingClient.1 Sequential sharingClient.2 u ∧
      t.books.ports.held = [] ∧ t.books.declared "b" = [62000] ∧
      u.books.declared "b" = [62000] ∧ u.books.declared "c" = [62000] := by
  refine ⟨connected_sharing, ?_, by decide, by decide, by decide, by decide⟩
  refine .step (Follows.reaches ?_ .start) trivial ?_
  · exact ⟨trivial, fun call member => (nomatch member), ⟨_, rfl, rfl⟩, trivial, ⟨_, rfl, rfl⟩,
      trivial, trivial⟩
  · intro call member
    cases List.mem_singleton.1 member
    rfl

end Interleaving
end SandboxPods
