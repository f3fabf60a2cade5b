import SandboxPods.Proofs.Client.Connection
import SandboxPods.Proofs.Client.Stakes

/-!
# Creations that race for one handle

Several creations may find a handle free and claim ports before the first of them
registers it. From then on the others can only give their claims back. The winner
is the one creation that submits a pod; the sandbox under the handle stays its own,
and so do the properties, whatever the collaborators answer and whichever creations
of other handles run in between.
-/
namespace SandboxPods

/-- The properties of a creation's sandbox: those of its description, and its state once it is
created. -/
def CreateCall.ownProperties (call : CreateCall) : Properties :=
  match call.stage with
  | .finished (.ok _) => call.spec.properties.insert Sandbox.stateProperty Sandbox.stateCreated
  | _ => call.spec.properties

namespace CreateCall
variable {books : Books} {call : CreateCall} {key : Nat} {event : Event} {r : Books × CreateCall}

theorem ownProperties_of_key? (holds : call.key? = some key) :
    call.ownProperties = call.spec.properties := by
  obtain ⟨spec, deadline, stage⟩ := call
  cases stage with
  | finished result => cases holds
  | _ => rfl

theorem Claiming.length_le {client : Client} {claim : PortClaim}
    (h : Claiming client books call claim r) : books.sandboxes.length ≤ r.1.sandboxes.length := by
  cases h with
  | keeps same => exact Nat.le_refl _
  | abandons e => exact Nat.le_refl _
  | registers image env rootfsSize free => simp [Books.enrol]

theorem Attending.ownProperties_eq (h : Attending books call key event r)
    (stored : books.properties.all call.spec.handle = call.spec.properties) :
    r.1.properties.all r.2.spec.handle = r.2.ownProperties := by
  cases h with
  | waits same later =>
      rw [ownProperties_of_key? same]
      exact stored
  | sees told same later =>
      rw [ownProperties_of_key? same]
      exact stored
  | completes tasks =>
      change _ = call.spec.properties.insert Sandbox.stateProperty Sandbox.stateCreated
      rw [← stored]
      exact PropertyStore.all_set ..
  | fails e => exact stored

theorem Attending.result_eq {k : Nat} (h : Attending books call key event r)
    (ended : r.2.stage = .finished (.ok k)) : k = key := by
  have going {stage : CreateStage} (same : ({ call with stage } : CreateCall).key? = some key)
      (ended : stage = .finished (.ok k)) : k = key := by
    subst ended
    cases same
  cases h with
  | waits same later => exact going same ended
  | sees told same later => exact going same ended
  | completes tasks =>
      cases ended
      rfl
  | fails e => cases ended

end CreateCall

namespace Interleaving
variable {client : Client} {s t : Interleaving} {m : Move} {n i j : Nat} {h : String}
variable {call : CreateCall} {key : Nat} {x : Sandbox} {held : List UInt16}

/-- A creation that is still on its way to registration or has returned an error, and that has
asked for no change of the cluster's pods. -/
def Loses (s : Interleaving) (i : Nat) (call : CreateCall) : Prop :=
  ((∃ claim, call.claim? = some claim) ∨ ∃ e, call.stage = .finished (.error e)) ∧ s.Quiet i

/-- The creation at a position has made the sandbox that is registered under its handle. -/
structure Won (client : Client) (s : Interleaving) (i : Nat) (call : CreateCall) (key : Nat)
    (x : Sandbox) : Prop where
  registered : s.books.registry.get? call.spec.handle = some key
  drafted : ∃ claim image env rootfsSize,
    x = CreateCall.draft client call.spec claim image env rootfsSize
  /-- Only the pod and the tasks are ever replaced. -/
  sandbox : { s.books.sandbox key with pod := x.pod, tasks := {} } = x
  /-- The pod is the one that was submitted or one that the creation has read. -/
  pod : (s.books.sandbox key).pod = x.pod ∨
    (i, .answered (.pod (.ok (s.books.sandbox key).pod))) ∈ s.told
  /-- It has submitted one pod, once. -/
  submitted : s.podsOf i = [x.pod]
  properties : s.books.properties.all call.spec.handle = call.ownProperties
  result : ∀ k, call.stage = .finished (.ok k) → k = key

/-- The winner, with what keeps it the winner. -/
structure Leads (client : Client) (h : String) (s : Interleaving) (i : Nat) (call : CreateCall)
    (key : Nat) (x : Sandbox) : Prop where
  won : s.Won client i call key x
  found : s.calls[i]? = some (.create call)
  handle : call.spec.handle = h
  known : key < s.books.sandboxes.length
  past : call.claim? = none
  mine : ∀ k, call.key? = some k → k = key
  alone : ∀ (j : Nat) (other : CreateCall) (k : Nat), j ≠ i →
    s.calls[j]? = some (.create other) → other.key? = some k → k ≠ key

/-- The race for a handle, before and after its decision. -/
inductive Race (client : Client) (h : String) (s : Interleaving) : Prop
  | undecided : s.books.registry.get? h = none → s.books.properties.all h = {} →
      (∀ (i : Nat) (call : CreateCall), s.calls[i]? = some (.create call) →
        call.spec.handle = h → s.Loses i call) → Race client h s
  | decided {i : Nat} {call : CreateCall} {key : Nat} {x : Sandbox} :
      Leads client h s i call key x →
      (∀ (j : Nat) (other : CreateCall), j ≠ i → s.calls[j]? = some (.create other) →
        other.spec.handle = h → s.Loses j other) → Race client h s

/-- The positions that creations have been given are taken. -/
def Keyed (s : Interleaving) : Prop := ∀ (i : Nat) (call : CreateCall) (k : Nat),
  s.calls[i]? = some (.create call) → call.key? = some k → k < s.books.sandboxes.length

/-! ## What a move leaves alone -/

/-- Nothing changes about a handle, nor about any sandbox but the one at a position. -/
structure Frame (h : String) (touched : Option Nat) (b c : Books) : Prop where
  registry : c.registry.get? h = b.registry.get? h
  properties : c.properties.all h = b.properties.all h
  length : b.sandboxes.length ≤ c.sandboxes.length
  sandbox : ∀ key, key < b.sandboxes.length → touched ≠ some key → c.sandbox key = b.sandbox key

theorem Frame.refl (h : String) (touched : Option Nat) (b : Books) : Frame h touched b b :=
  ⟨rfl, rfl, Nat.le_refl _, fun _ _ _ => rfl⟩

theorem frame_enrol (b : Books) (x : Sandbox) (properties : Properties) (away : x.handle ≠ h) :
    Frame h none b (b.enrol x properties) := by
  refine ⟨?_, PropertyStore.all_setAll_ne _ _ away.symm, by simp [Books.enrol], ?_⟩
  · rw [Books.get?_enrol, if_neg away.symm]
  · exact fun key lt _ => Books.sandbox_enrol lt x properties

/-- A creation up to registration leaves a handle alone unless it registers it. -/
theorem frame_claiming {b : Books} {claim : PortClaim} {r : Books × CreateCall}
    (moved : CreateCall.Claiming client b call claim r)
    (away : call.spec.handle ≠ h ∨ r.2.key? = none) : Frame h none b r.1 := by
  cases moved with
  | keeps same => exact .refl h none b
  | abandons e => exact ⟨rfl, rfl, Nat.le_refl _, fun _ _ _ => rfl⟩
  | registers image env rootfsSize free =>
      rcases away with away | unregistered
      · exact frame_enrol _ _ _ away
      · cases unregistered

/-- Tending the sandbox of another handle. -/
theorem frame_attending {b : Books} {event : Event} {r : Books × CreateCall}
    (moved : CreateCall.Attending b call key event r) (away : call.spec.handle ≠ h) :
    Frame h (some key) b r.1 := by
  have others (f : Sandbox → Sandbox) (k : Nat) (hk : some key ≠ some k) :
      (b.modify key f).sandbox k = b.sandbox k :=
    Books.sandbox_modify_ne (fun e => hk (congrArg some e)) f
  refine ⟨congrArg (·.get? h) moved.registry_eq, ?_, moved.length_eq.ge, ?_⟩
  · cases moved with
    | waits same later => rfl
    | sees told same later => rfl
    | completes tasks => exact PropertyStore.all_set_ne _ _ _ away.symm
    | fails e => rfl
  · intro k _ hk
    cases moved with
    | waits same later => rfl
    | sees told same later => exact others _ k hk
    | completes tasks => exact others _ k hk
    | fails e => rfl

theorem Loses.elsewhere {r : Books × Call} (lost : s.Loses i call)
    (placed : Placed client s t n r) (hi : i ≠ n) : t.Loses i call :=
  ⟨lost.1, lost.2.elsewhere placed hi⟩

/-- The winner stays the winner while another call moves. -/
theorem Leads.elsewhere {r : Books × CreateCall} {touched : Option Nat}
    (leads : Leads client h s i call key x) (placed : Placed client s t n (r.1, .create r.2))
    (frame : Frame h touched s.books t.books) (told : ∀ e ∈ s.told, e ∈ t.told) (hi : i ≠ n)
    (untouched : touched ≠ some key) (apart : ∀ k, r.2.key? = some k → k ≠ key) :
    Leads client h t i call key x := by
  obtain ⟨won, found, rfl, known, past, mine, alone⟩ := leads
  obtain ⟨registered, drafted, sandbox, pod, submitted, properties, result⟩ := won
  have same := frame.sandbox key known untouched
  refine ⟨⟨?_, drafted, ?_, ?_, ?_, ?_, result⟩, ?_, rfl, ?_, past, mine, ?_⟩
  · rw [frame.registry, registered]
  · rw [same, sandbox]
  · rw [same]
    exact pod.imp id (told _)
  · rw [placed.podsOf_elsewhere hi, submitted]
  · rw [frame.properties, properties]
  · rw [placed.elsewhere i hi, found]
  · exact Nat.lt_of_lt_of_le known frame.length
  · intro j other k hj hother holds
    by_cases hjn : j = n
    · subst hjn
      cases placed.here.symm.trans hother
      exact apart k holds
    · rw [placed.elsewhere j hjn] at hother
      exact alone j other k hj hother holds

/-- A move that neither registers the handle nor is the winner's leaves the race as it stands. -/
theorem Race.keep {r : Books × CreateCall} {touched : Option Nat} (race : Race client h s)
    (placed : Placed client s t n (r.1, .create r.2)) (frame : Frame h touched s.books t.books)
    (told : ∀ e ∈ s.told, e ∈ t.told) (lost : r.2.spec.handle = h → t.Loses n r.2)
    (apart : ∀ i call key x, Leads client h s i call key x →
      i ≠ n ∧ touched ≠ some key ∧ ∀ k, r.2.key? = some k → k ≠ key) : Race client h t := by
  have losers {j : Nat} {other : CreateCall} (hother : t.calls[j]? = some (.create other))
      (handle : other.spec.handle = h)
      (before : j ≠ n → s.calls[j]? = some (.create other) → s.Loses j other) :
      t.Loses j other := by
    by_cases hj : j = n
    · subst hj
      cases placed.here.symm.trans hother
      exact lost handle
    · rw [placed.elsewhere j hj] at hother
      exact (before hj hother).elsewhere placed hj
  cases race with
  | undecided free bare all =>
      refine .undecided (frame.registry.trans free) (frame.properties.trans bare) ?_
      intro j other hother handle
      exact losers hother handle fun _ found => all j other found handle
  | @decided i call key x leads all =>
      obtain ⟨hi, untouched, newKey⟩ := apart i call key x leads
      refine .decided (leads.elsewhere placed frame told hi untouched newKey) ?_
      intro j other hj hother handle
      exact losers hother handle fun _ found => all j other hj found handle

/-! ## One move -/

theorem Loses.unregistered (lost : s.Loses i call) : call.key? = none := by
  rcases lost.1 with ⟨claim, holds⟩ | ⟨e, ended⟩
  · exact CreateCall.key?_of_claim? holds
  · rw [CreateCall.key?, ended]

/-- A creation that has just registered the handle leads. -/
theorem leads_registered {ports : PortPool} {claim : PortClaim} {image : String}
    {env : List String} {rootfsSize : UInt64} {r : Books × CreateCall} (keyed : s.Keyed)
    (made : r = (Books.enrol { s.books with ports }
      (CreateCall.draft client call.spec claim image env rootfsSize) call.spec.properties,
      { call with stage := .submitting s.books.sandboxes.length }))
    (placed : Placed client s t n (r.1, .create r.2)) (quiet : s.Quiet n)
    (bare : s.books.properties.all call.spec.handle = {}) :
    Leads client call.spec.handle t n r.2 s.books.sandboxes.length
      (CreateCall.draft client call.spec claim image env rootfsSize) := by
  subst made
  generalize drafted : CreateCall.draft client call.spec claim image env rootfsSize = x at placed
  have handle : x.handle = call.spec.handle := drafted ▸ rfl
  have untasked : x.tasks = {} := drafted ▸ rfl
  have here : t.books.sandbox s.books.sandboxes.length = x := by
    rw [placed.books]
    exact Books.sandbox_enrol_self { s.books with ports } x _
  refine ⟨⟨?_, ⟨claim, image, env, rootfsSize, drafted.symm⟩, ?_, ?_, ?_, ?_, ?_⟩,
    placed.here, rfl, ?_, rfl, ?_, ?_⟩
  · rw [placed.books, Books.get?_enrol, if_pos handle.symm]
  · rw [here, ← untasked]
  · exact .inl (congrArg Sandbox.pod here)
  · rw [placed.podsOf_submitting quiet rfl, ← placed.books, here]
  · rw [placed.books]
    change (s.books.properties.setAll x.handle call.spec.properties).all call.spec.handle = _
    rw [handle]
    exact PropertyStore.all_setAll bare
  · exact fun k ended => nomatch ended
  · rw [placed.books]
    simp [Books.enrol]
  · intro k holds
    cases holds
    rfl
  · intro j other k hj found holds
    rw [placed.elsewhere j hj] at found
    exact (keyed j other k found holds).ne

/-- A creation that holds a claim joins the losers or decides the race. -/
theorem Race.claiming {ports : PortPool} {claim : PortClaim} {r : Books × CreateCall}
    (race : Race client h s) (keyed : s.Keyed)
    (moved : CreateCall.Claiming client { s.books with ports } call claim r)
    (placed : Placed client s t n (r.1, .create r.2)) (quiet : s.Quiet n)
    (told : ∀ e ∈ s.told, e ∈ t.told)
    (other : ∀ i call key x, Leads client h s i call key x → i ≠ n) : Race client h t := by
  have framed (away : call.spec.handle ≠ h ∨ r.2.key? = none) :
      Frame h none s.books t.books := by
    obtain ⟨registry, properties, length, sandbox⟩ := frame_claiming moved away
    rw [placed.books]
    exact ⟨registry, properties, length, sandbox⟩
  cases moved with
  | keeps again =>
      have lost : t.Loses n _ := ⟨.inl ⟨claim, again⟩, quiet.placed placed fun ask asks =>
        CreateCall.silent_of_claim again asks⟩
      have unregistered := CreateCall.key?_of_claim? again
      refine race.keep placed (framed (.inr unregistered)) told (fun _ => lost) ?_
      intro i call key x leads
      refine ⟨other i call key x leads, nofun, ?_⟩
      intro k holds
      rw [unregistered] at holds
      cases holds
  | abandons e =>
      have lost : t.Loses n (call.finish (.error e)) :=
        ⟨.inr ⟨e, rfl⟩, quiet.placed placed fun ask asks => nomatch asks⟩
      refine race.keep placed (framed (.inr rfl)) told (fun _ => lost) ?_
      intro i call key x leads
      exact ⟨other i call key x leads, nofun, fun k holds => nomatch holds⟩
  | registers image env rootfsSize free =>
      by_cases handle : call.spec.handle = h
      · subst handle
        cases race with
        | undecided absent bare all =>
            refine .decided (leads_registered keyed rfl placed quiet bare) ?_
            intro j c hj found same
            rw [placed.elsewhere j hj] at found
            exact (all j c found same).elsewhere placed hj
        | decided leads all =>
            have taken := leads.won.registered
            rw [leads.handle] at taken
            rw [Table.get?_eq_none free] at taken
            cases taken
      · refine race.keep placed (framed (.inl handle)) told (fun same => (handle same).elim) ?_
        intro i c key x leads
        refine ⟨other i c key x leads, nofun, ?_⟩
        intro k holds
        cases holds
        exact leads.known.ne'

/-- The winner stays the winner while it attends to its sandbox. -/
theorem Leads.attending {event : Event} {r : Books × CreateCall}
    (leads : Leads client h s i call key x) (holds : call.key? = some key)
    (moved : CreateCall.Attending s.books call key event r)
    (placed : Placed client s t i (r.1, .create r.2))
    (told : t.told = s.told ++ [(i, event)]) : Leads client h t i r.2 key x := by
  obtain ⟨won, found, rfl, known, past, mine, alone⟩ := leads
  obtain ⟨registered, drafted, sandbox, pod, submitted, properties, result⟩ := won
  have spec := moved.spec_eq
  refine ⟨⟨?_, ?_, ?_, ?_, ?_, ?_, fun k => moved.result_eq⟩, placed.here,
    congrArg _ spec, ?_, moved.claim?, fun k => moved.key_eq, ?_⟩
  · rw [placed.books, moved.registry_eq, spec, registered]
  · rw [spec]
    exact drafted
  · rw [placed.books, moved.sandbox_eq known, sandbox]
  · rw [placed.books, told]
    rcases moved.pod_eq known with same | seen
    · rw [same]
      exact pod.imp id (List.mem_append_left _)
    · rw [← seen]
      exact .inr (List.mem_append_right _ (List.mem_singleton.2 rfl))
  · rw [placed.podsOf_attending moved, submitted]
  · rw [placed.books]
    exact moved.ownProperties_eq (properties.trans (CreateCall.ownProperties_of_key? holds))
  · rw [placed.books, moved.length_eq]
    exact known
  · intro j other k hj hother
    rw [placed.elsewhere j hj] at hother
    exact alone j other k hj hother

/-- A creation that attends to the sandbox of another handle is no matter to the race, and the
only one that attends to the sandbox of the handle is the winner. -/
theorem Race.attending {event : Event} {r : Books × CreateCall} (race : Race client h s)
    (found : s.calls[n]? = some (.create call)) (holds : call.key? = some key)
    (moved : CreateCall.Attending s.books call key event r)
    (placed : Placed client s t n (r.1, .create r.2))
    (told : t.told = s.told ++ [(n, event)]) : Race client h t := by
  by_cases handle : call.spec.handle = h
  · have unlost : ¬ s.Loses n call := by
      intro lost
      rw [lost.unregistered] at holds
      cases holds
    cases race with
    | undecided absent bare all => exact (unlost (all n call found handle)).elim
    | @decided i c k x leads all =>
        by_cases hn : n = i
        · subst hn
          cases found.symm.trans leads.found
          obtain rfl := leads.mine key holds
          refine .decided (leads.attending holds moved placed told) ?_
          intro j other hj hother same
          rw [placed.elsewhere j hj] at hother
          exact (all j other hj hother same).elsewhere placed hj
        · exact (unlost (all n call hn found handle)).elim
  · refine race.keep placed (placed.books ▸ frame_attending moved handle) ?_ ?_ ?_
    · intro e he
      rw [told]
      exact List.mem_append_left _ he
    · intro same
      exact (handle (moved.spec_eq ▸ same)).elim
    · intro i c k x leads
      have hi : i ≠ n := by
        intro same
        subst same
        cases found.symm.trans leads.found
        exact handle leads.handle
      have other := leads.alone n call key hi.symm found holds
      refine ⟨hi, fun same => other (Option.some.inj same), ?_⟩
      intro k' again
      rw [moved.key_eq again]
      exact other

/-- Only the call at the position of the move can have been given a new position. -/
theorem Keyed.placed {r : Books × Call} (keyed : s.Keyed) (placed : Placed client s t n r)
    (longer : s.books.sandboxes.length ≤ r.1.sandboxes.length)
    (mine : ∀ call k, r.2 = .create call → call.key? = some k → k < r.1.sandboxes.length) :
    t.Keyed := by
  intro j call k found holds
  rw [placed.books]
  by_cases hj : j = n
  · subst hj
    exact mine call k (Option.some.inj (placed.here.symm.trans found)) holds
  · rw [placed.elsewhere j hj] at found
    exact Nat.lt_of_lt_of_le (keyed j call k found holds) longer

theorem Keyed.step (keyed : s.Keyed) (admitted : s.Admits client m) :
    (s.step client m).Keyed := by
  cases stepped admitted with
  | starts hm moved placed =>
      apply keyed.placed placed
      · cases moved with
        | refused e => exact Nat.le_refl _
        | claims free made moved => exact moved.length_le
      · intro call k made holds
        cases made
        exact (moved.registered holds).known
  | looks hm placed => exact keyed.placed placed (Nat.le_refl _) fun call k made => nomatch made
  | claiming hm found holds moved placed =>
      apply keyed.placed placed moved.length_le
      intro call k made again
      cases made
      exact (moved.registered again).known
  | attending hm found holds moved placed =>
      apply keyed.placed placed moved.length_eq.ge
      intro call k made again
      cases made
      rw [moved.key_eq again, moved.length_eq]
      exact keyed _ _ _ found holds
  | deleting hm found holds moved result placed =>
      apply keyed.placed placed
      · cases moved with
        | waits same later => exact Nat.le_refl _
        | fails e first refused => exact Nat.le_refl _
        | forgets outcome => exact Nat.le_refl _
      · exact fun call k made => nomatch made

/-- Whatever is asked and answered, the race goes on as it has begun. -/
theorem Race.step (race : Race client h s) (keyed : s.Keyed) (staked : s.Staked held)
    (admitted : s.Admits client m) (creates : s.CreatesOnly m) :
    Race client h (s.step client m) := by
  have told : ∀ e ∈ s.told, e ∈ (s.step client m).told := by
    intro e he
    rw [told_step admitted]
    exact List.mem_append_left _ he
  cases stepped admitted with
  | looks hm placed =>
      subst hm
      exact creates.elim
  | deleting hm found => exact (staked.creations _ _ found).elim
  | @starts spec deadline r hm moved placed =>
      have quiet := staked.logged.fresh
      have other : ∀ i call key x, Leads client h s i call key x → i ≠ s.calls.length := by
        intro i call key x leads
        exact (List.getElem?_eq_some_iff.1 leads.found).1.ne
      cases moved with
      | refused e =>
          have frame : Frame h none s.books (s.step client m).books := by
            rw [placed.books]
            exact .refl h none s.books
          refine race.keep placed frame told ?_ ?_
          · exact fun _ => ⟨.inr ⟨e, rfl⟩, quiet.placed placed fun ask asks => nomatch asks⟩
          · intro i call key x leads
            exact ⟨other i call key x leads, nofun, fun k holds => nomatch holds⟩
      | claims free made moved => exact race.claiming keyed moved placed quiet told other
  | @claiming i now event call claim r hm found holds moved placed =>
      have quiet := staked.quiet i claim ((claims_of_create found).trans holds)
      refine race.claiming keyed moved placed quiet told ?_
      rintro j c key x leads rfl
      cases found.symm.trans leads.found
      rw [leads.past] at holds
      cases holds
  | attending hm found holds moved placed =>
      subst hm
      exact race.attending found holds moved placed (told_step admitted)

/-! ## The whole race -/

/-- How the creations of a handle stand that was free and without properties in the books. -/
structure Contested (client : Client) (books : Books) (h : String) (t : Interleaving) : Prop where
  /-- At most one creation has registered the handle and submitted a pod. The pool's own ports of
  that pod are held, and those of a pod that was read in its place with the same specification. -/
  winner : (t.books.registry.get? h = none ∧ t.books.properties.all h = {} ∧
      ∀ (i : Nat) (call : CreateCall), t.calls[i]? = some (.create call) →
        call.spec.handle = h → t.Loses i call) ∨
    ∃ i call key x, t.calls[i]? = some (.create call) ∧ call.spec.handle = h ∧
      t.Won client i call key x ∧
      (∀ pod : Pod, pod.spec = x.pod.spec → ∀ p ∈ pod.hostPorts,
        t.books.ports.contains p = true → p ∈ t.books.ports.held) ∧
      ∀ (j : Nat) (other : CreateCall), j ≠ i → t.calls[j]? = some (.create other) →
        other.spec.handle = h → t.Loses j other
  /-- A port is held from the start on or at the stake of one creation. -/
  held : ∀ p, p ∈ t.books.ports.held ↔ p ∈ books.ports.held ∨ ∃ i, p ∈ t.stake i
  apart : ∀ i p, p ∈ t.stake i → p ∉ books.ports.held ∧ ∀ j, p ∈ t.stake j → i = j
  /-- Whatever a creation claims when it is begun is free again or has come to someone else once
  it returns an error without having submitted a pod. -/
  restored : ∀ u spec deadline ports claim, Reaches client CreatesOnly { books } u →
    PortClaim.make u.books.ports spec.ports = .ok (ports, claim) →
    Reaches client CreatesOnly (u.step client (.create spec deadline)) t →
    ∀ call e, t.calls[u.calls.length]? = some (.create call) →
      call.stage = .finished (.error e) → t.Quiet u.calls.length →
      ∀ p ∈ claim.claimed, p ∉ t.books.ports.held ∨ ∃ j, j ≠ u.calls.length ∧ p ∈ t.stake j

theorem Reaches.raced {books : Books} (free : books.registry.get? h = none)
    (bare : books.properties.all h = {}) (run : Reaches client CreatesOnly { books } t) :
    Race client h t := by
  have raced : t.Keyed ∧ t.Staked books.ports.held ∧ Race client h t := by
    apply run.invariant (P := fun s => s.Keyed ∧ s.Staked books.ports.held ∧ Race client h s)
    · refine ⟨?_, staked_start books, .undecided free bare ?_⟩
      · intro i call key found
        cases found
      · intro i call found
        cases found
    · intro s m before admitted creates
      obtain ⟨keyed, staked, race⟩ := before
      exact ⟨keyed.step admitted, staked.step admitted creates,
        race.step keyed staked admitted creates⟩
  exact raced.2.2

/-- Creations race for a handle in any order and with any answers, and no destruction is begun. -/
theorem one_creation_wins {books : Books} (free : books.registry.get? h = none)
    (bare : books.properties.all h = {}) (run : Reaches client CreatesOnly { books } t) :
    Contested client books h t := by
  have staked := run.staked
  refine ⟨?_, fun p => staked.held_iff, fun i p listed => staked.stake_apart listed, ?_⟩
  · cases run.raced free bare with
    | undecided absent bare all => exact .inl ⟨absent, bare, all⟩
    | @decided i call key x leads all =>
        refine .inr ⟨i, call, key, x, leads.found, leads.handle, leads.won, ?_, all⟩
        intro pod same p declared inside
        rw [Pod.hostPorts_congr same] at declared
        have sent : t.Submitted i x.pod := by
          rw [← mem_podsOf, leads.won.submitted]
          exact List.mem_singleton.2 rfl
        have listed : p ∈ t.stake i := mem_stake.2 (.inr ⟨inside, x.pod, sent, declared⟩)
        exact staked.held_iff.2 (.inr ⟨i, listed⟩)
  · intro u spec deadline ports claim before made _ call e found ended quiet p claimed
    have unclaimed : t.claims u.calls.length = none := by
      rw [claims_of_create found, CreateCall.claim?, ended]
    have free := (PortClaim.make_ok made).free p claimed
    exact before.staked.restored staked free (stake_of_quiet unclaimed quiet)

/-- Two creations find a handle free, and the image of the later one arrives first. -/
def overtaken : List Move :=
  let spec : SandboxSpec := {
    handle := "job", image := .ofUri "docker:///busybox", ports := [⟨0, 80⟩], disk := 10 }
  let image : PulledImage := { name := "busybox", id := ⟨"image"⟩, size := 5, env := [] }
  [.create spec 10, .create spec 10, .event 1 0 (.answered (.pulled (.ok image))),
    .event 0 0 (.answered (.pulled (.ok image)))]

theorem overtaking_creation_wins : ∃ (client : Client) (books : Books),
    Connected [.publishing "web" 62000] client books ∧
      let t := overtaken.foldl (step client) { books }
      t.books.registry.get? "job" = some 1 ∧ t.books.ports.held = [62000, 62002] ∧
        Contested client books "job" t := by
  refine ⟨_, _, ⟨{}, "node", {}, [], rfl⟩, by decide, by decide, ?_⟩
  apply one_creation_wins (by decide) (by decide)
  apply Follows.reaches ?_ .start
  exact ⟨trivial, trivial, trivial, trivial, ⟨_, rfl, rfl⟩, trivial, ⟨_, rfl, rfl⟩, trivial,
    trivial⟩

end Interleaving
end SandboxPods
