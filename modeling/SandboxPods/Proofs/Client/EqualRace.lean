import SandboxPods.Proofs.Client.Connection
import SandboxPods.Proofs.Client.Stakes

/-!
# Creations with one description

Several creations are begun with one and the same description, and whoever pulls its
image is given the same one. If any of them alone would register the handle, then
exactly one of them does so, whatever the order in which they move. What the others
are told depends on what they find first. One that finds the handle taken is told
that it exists; but the leader may still wait for its image with its ports claimed,
and then the next one fails for a port that is in use, or for want of free ports.
Every loser finds the handle taken just when the image need not be pulled, or when
the description names no port of the pool and there are free ports for all of them.
-/
namespace SandboxPods

namespace CreateCall
variable {client : Client} {books : Books} {spec : SandboxSpec} {deadline now : Instant}
variable {image : PulledImage} {call : CreateCall} {claim : PortClaim}

/-! ## The steps of a creation up to its registration -/

theorem start_taken (valid : Handle.fault? spec.handle = none)
    (taken : books.registry.contains spec.handle = true) :
    start client books spec deadline =
      (books, { spec, deadline, stage := .finished (.error (.alreadyExists spec.handle)) }) := by
  unfold start
  simp only [valid, taken, if_true]
  rfl

theorem start_unclaimed {e : LifecycleError} (valid : Handle.fault? spec.handle = none)
    (free : books.registry.contains spec.handle = false)
    (refused : PortClaim.make books.ports spec.ports = .error e) :
    start client books spec deadline =
      (books, { spec, deadline, stage := .finished (.error e) }) := by
  unfold start
  simp only [valid, free, refused]
  rfl

theorem start_managed {ports : PortPool} {reference : ImageReference}
    (valid : Handle.fault? spec.handle = none)
    (free : books.registry.contains spec.handle = false)
    (made : PortClaim.make books.ports spec.ports = .ok (ports, claim))
    (managed : ImageSource.parse spec.image.uri = .ok (.managed reference)) :
    start client books spec deadline =
      ({ books with ports }, { spec, deadline, stage := .pulling claim reference }) := by
  unfold start
  simp only [valid, free, made, resolveImage, managed]
  rfl

/-- An image below the disk limit is the last thing that a registration waits for. -/
theorem resume_pulled {reference : ImageReference} (pulling : call.stage = .pulling claim reference)
    (small : image.size < call.spec.disk) :
    call.resume client now books (.answered (.pulled (.ok image))) =
      register client books call claim image.name (image.env ++ call.spec.env) image.size := by
  have fits : ¬ call.spec.disk ≤ image.size := UInt64.not_le.2 small
  simp only [resume, pulling, pulled, fits, if_false]

/-- A creation that waits for its image can be told nothing else. -/
theorem pulled_of_admits {reference : ImageReference} {event : Event}
    (pulling : call.stage = .pulling claim reference)
    (admitted : (call.awaiting client books).admits now event = true) :
    ∃ result, event = .answered (.pulled result) := by
  rw [awaiting, pulling] at admitted
  cases event with
  | answered answer =>
      cases answer with
      | pulled result => exact ⟨result, rfl⟩
      | _ => cases admitted
  | woke => cases admitted
  | expired => cases admitted

/-! ## Descriptions that are registered -/

/-- A creation that is left alone registers its sandbox, at once or when its image arrives. -/
def RegistersAlone (client : Client) (books : Books) (spec : SandboxSpec) (image : PulledImage) :
    Prop := ∃ deadline now,
  let r := start client books spec deadline
  r.2.key?.isSome = true ∨
    (r.2.resume client now r.1 (.answered (.pulled (.ok image)))).2.key?.isSome = true

/-- The image is pulled. -/
def Managed (spec : SandboxSpec) : Prop :=
  ∃ reference, ImageSource.parse spec.image.uri = .ok (.managed reference)

/-- The image is used as it stands. -/
def Preloaded (spec : SandboxSpec) : Prop :=
  ∃ name, ImageSource.parse spec.image.uri = .ok (.preloaded name)

theorem Preloaded.not_managed (h : Preloaded spec) : ¬ Managed spec := by
  rintro ⟨reference, managed⟩
  obtain ⟨name, preloaded⟩ := h
  rw [preloaded] at managed
  cases managed

/-- What it takes to be registered. -/
structure Registrable (books : Books) (spec : SandboxSpec) (image : PulledImage) : Prop where
  valid : Handle.fault? spec.handle = none
  free : books.registry.contains spec.handle = false
  claims : ∃ ports claim, PortClaim.make books.ports spec.ports = .ok (ports, claim)
  source : Preloaded spec ∨ Managed spec ∧ image.size < spec.disk

theorem RegistersAlone.registrable (h : RegistersAlone client books spec image) :
    Registrable books spec image := by
  obtain ⟨deadline, now, registered⟩ := h
  -- A creation that returned at once has no sandbox, whatever it is told.
  have returned {e : LifecycleError} {b : Books}
      (ended : start client books spec deadline =
        (b, { spec, deadline, stage := .finished (.error e) })) : False := by
    rw [ended] at registered
    rcases registered with now | later
    · cases now
    · cases later
  cases valid : Handle.fault? spec.handle with
  | some fault =>
      refine (returned (e := .invalidSpec (.handle spec.handle fault)) (b := books) ?_).elim
      simp only [start, valid]
      rfl
  | none =>
  cases free : books.registry.contains spec.handle with
  | true => exact (returned (start_taken valid free)).elim
  | false =>
  cases made : PortClaim.make books.ports spec.ports with
  | error e => exact (returned (start_unclaimed valid free made)).elim
  | ok result =>
  obtain ⟨ports, claim⟩ := result
  refine ⟨valid, free, ⟨ports, claim, made⟩, ?_⟩
  cases source : ImageSource.parse spec.image.uri with
  | error fault =>
      have ended : start client books spec deadline =
          ((abandon { spec, deadline } { books with ports } claim
            (.invalidSpec (.image spec.image.uri fault))).1,
          { spec, deadline, stage := .finished (.error (.invalidSpec
            (.image spec.image.uri fault))) }) := by
        simp only [start, valid, free, made, resolveImage, source]
        rfl
      exact (returned ended).elim
  | ok source' =>
  cases source' with
  | preloaded name => exact .inl ⟨name, source⟩
  | managed reference =>
      refine .inr ⟨⟨reference, source⟩, ?_⟩
      rw [start_managed valid free made source] at registered
      by_contra large
      have limit : spec.disk ≤ image.size := UInt64.not_lt.1 large
      rcases registered with now | later
      · cases now
      · simp only [resume, pulled, limit, if_true] at later
        cases later

end CreateCall

namespace Interleaving
open CreateCall
variable {client : Client} {s t : Interleaving} {m : Move} {spec : SandboxSpec}
variable {image : PulledImage} {i n : Nat} {call : Call}

/-! ## The race -/

/-- Only creations with the description are begun, only calls from a position on go on, and
whoever of them pulls an image gets this one. -/
def Rivals (spec : SandboxSpec) (image : PulledImage) (first : Nat) (_ : Interleaving) :
    Move → Prop
  | .create other _ => other = spec
  | .destroy .. => False
  | .event i _ event => first ≤ i ∧ ∀ result, event = .answered (.pulled result) →
      result = .ok image

/-- Why the creation at a position is turned away, in a race that begins at `s`. -/
inductive Turned (s : Interleaving) (spec : SandboxSpec) (j : Nat) : LifecycleError → Prop
  | overtaken : Turned s spec j (.alreadyExists spec.handle)
  | blocked {p : UInt16} : Managed spec →
      p ∈ PortClaim.explicitPorts s.books.ports spec.ports →
      Turned s spec j (.invalidSpec (.portInUse p))
  | exhausted {available : Nat} : Managed spec → available < PortClaim.missing spec.ports →
      (PortClaim.explicitPorts s.books.ports spec.ports = [] → s.books.ports.free.length <
        (j + 1 - s.calls.length) * PortClaim.missing spec.ports) →
      Turned s spec j (.resourceExhausted (PortClaim.missing spec.ports) available)

/-- The call at a position is a creation of the race that waits for its image or was turned away;
it has asked for no change of the cluster's pods. -/
structure Trails (s t : Interleaving) (spec : SandboxSpec) (j : Nat) (call : CreateCall) :
    Prop where
  spec_eq : call.spec = spec
  quiet : t.Quiet j
  stage : (Managed spec ∧ ∃ claim reference, call.stage = .pulling claim reference) ∨
    ∃ e, call.stage = .finished (.error e) ∧ Turned s spec j e

/-- All calls of the race but one trail. -/
def AllTrail (s t : Interleaving) (spec : SandboxSpec) (leader : Option Nat) : Prop :=
  ∀ j call, s.calls.length ≤ j → leader ≠ some j → t.calls[j]? = some call →
    ∃ c, call = .create c ∧ s.Trails t spec j c

/-- Nobody has registered the handle, and the first creation of the race waits for its image. -/
structure Undecided (s t : Interleaving) (spec : SandboxSpec) : Prop where
  free : t.books.registry.get? spec.handle = none
  length : s.calls.length ≤ t.calls.length
  range : PortPool.SameRange t.books.ports s.books.ports
  trail : AllTrail s t spec none
  start : t.calls.length = s.calls.length → t.books = s.books
  pending : s.calls.length < t.calls.length → Managed spec ∧ ∃ j c claim reference,
    s.calls.length ≤ j ∧ t.calls[j]? = some (.create c) ∧ c.stage = .pulling claim reference
  /-- Without explicit ports every creation has claimed as many ports as it left to the pool. -/
  held : PortClaim.explicitPorts s.books.ports spec.ports = [] →
    t.books.ports.held.length ≤ s.books.ports.held.length +
      (t.calls.length - s.calls.length) * PortClaim.missing spec.ports

/-- The creation at position `i` has registered the handle and submitted its pod. -/
structure Decided (s t : Interleaving) (spec : SandboxSpec) (i key : Nat) (call : CreateCall) :
    Prop where
  first : s.calls.length ≤ i
  found : t.calls[i]? = some (.create call)
  registered : t.books.registry.get? spec.handle = some key
  past : call.key? = some key ∨ (Call.create call).isReturned = true
  submitted : ∃ pod, t.Submitted i pod
  trail : AllTrail s t spec (some i)

def Contest (s t : Interleaving) (spec : SandboxSpec) : Prop :=
  Undecided s t spec ∨ ∃ i key call, Decided s t spec i key call

theorem Trails.elsewhere {t' : Interleaving} {j : Nat} {c : CreateCall} {r : Books × Call}
    (h : s.Trails t spec j c) (placed : Placed client t t' n r) (hj : j ≠ n) :
    s.Trails t' spec j c := ⟨h.spec_eq, h.quiet.elsewhere placed hj, h.stage⟩

/-- Only the call at the position of a move needs to be looked at again. -/
theorem AllTrail.placed {t' : Interleaving} {leader leader' : Option Nat} {r : Books × Call}
    (h : AllTrail s t spec leader) (placed : Placed client t t' n r)
    (same : ∀ j, j ≠ n → leader' ≠ some j → leader ≠ some j)
    (mine : leader' ≠ some n → ∃ c, r.2 = .create c ∧ s.Trails t' spec n c) :
    AllTrail s t' spec leader' := by
  intro j call first hl found
  by_cases hj : j = n
  · subst hj
    cases placed.here.symm.trans found
    exact mine hl
  · rw [placed.elsewhere j hj] at found
    obtain ⟨c, rfl, trails⟩ := h j call first (same j hj hl) found
    exact ⟨c, rfl, trails.elsewhere placed hj⟩

theorem submitted_placed {t' : Interleaving} {b : Books} {c : CreateCall} {key : Nat}
    (placed : Placed client t t' n (b, .create c)) (now : c.stage = .submitting key) :
    ∃ pod, t'.Submitted n pod :=
  ⟨_, Placed.submitted_now (r := (b, c)) placed now⟩

/-- A creation that has just come to wait for its image, or to its end, trails. -/
theorem trails_placed {t' : Interleaving} {b : Books} {c : CreateCall} (quiet : t.Quiet n)
    (placed : Placed client t t' n (b, .create c)) (spec_eq : c.spec = spec)
    (stage : (Managed spec ∧ ∃ claim reference, c.stage = .pulling claim reference) ∨
      ∃ e, c.stage = .finished (.error e) ∧ Turned s spec n e) : s.Trails t' spec n c := by
  refine ⟨spec_eq, quiet.placed (r := (b, c)) placed ?_, stage⟩
  intro ask asks
  rcases stage with ⟨-, claim, reference, pulling⟩ | ⟨e, ended, -⟩
  · have holds : c.claim? = some claim := by simp [claim?, pulling]
    exact silent_of_claim holds asks
  · simp only [awaiting, ended] at asks
    cases asks

/-! ## While nobody has registered -/

/-- One more creation has been begun and has not registered the handle. -/
theorem Undecided.placed {t' : Interleaving} {b : Books} {c : CreateCall}
    (h : Undecided s t spec) (placed : Placed client t t' t.calls.length (b, .create c))
    (longer : t'.calls.length = t.calls.length + 1) (registry : b.registry = t.books.registry)
    (range : PortPool.SameRange b.ports t.books.ports) (managed : Managed spec)
    (trails : s.Trails t' spec t.calls.length c)
    (pending : s.calls.length < t.calls.length ∨ ∃ claim reference,
      c.stage = .pulling claim reference)
    (held : PortClaim.explicitPorts s.books.ports spec.ports = [] →
      b.ports.held.length ≤ t.books.ports.held.length + PortClaim.missing spec.ports) :
    Undecided s t' spec := by
  have least := h.length
  refine ⟨?_, by omega, ?_, ?_, fun same => by omega, fun _ => ⟨managed, ?_⟩, ?_⟩
  · rw [placed.books, registry]
    exact h.free
  · rw [placed.books]
    exact range.trans h.range
  · exact h.trail.placed placed (fun j _ _ => (Option.some_ne_none j).symm)
      fun _ => ⟨c, rfl, trails⟩
  · rcases pending with begun | ⟨claim, reference, pulling⟩
    · obtain ⟨-, j, waiting, claim, reference, first, found, pulling⟩ := h.pending begun
      have lt := (List.getElem?_eq_some_iff.1 found).1
      refine ⟨j, waiting, claim, reference, first, ?_, pulling⟩
      rw [placed.elsewhere j (by omega), found]
    · exact ⟨t.calls.length, c, claim, reference, least, placed.here, pulling⟩
  · intro implicit
    have before := h.held implicit
    have now := held implicit
    have one_more : t'.calls.length - s.calls.length = t.calls.length - s.calls.length + 1 := by
      omega
    rw [placed.books, one_more, Nat.succ_mul]
    change b.ports.held.length ≤ _
    omega

/-- A creation that cannot claim its ports is turned away for a reason that the race explains. -/
theorem Undecided.turned {e : LifecycleError} (h : Undecided s t spec) (managed : Managed spec)
    (refused : PortClaim.make t.books.ports spec.ports = .error e) :
    Turned s spec t.calls.length e := by
  rcases PortClaim.make_error refused with ⟨p, member, rfl⟩ | ⟨available, short, rfl⟩
  · rw [PortClaim.explicitPorts_congr h.range] at member
    exact .blocked managed member
  · refine .exhausted managed short fun implicit => ?_
    have claimed := h.held implicit
    rw [← PortClaim.explicitPorts_congr h.range] at implicit
    have few := PortClaim.make_implicit_error implicit refused
    have now := t.books.ports.length_free
    have before := s.books.ports.length_free
    rw [h.range.ports_eq] at now
    have least := h.length
    have one_more : t.calls.length + 1 - s.calls.length = t.calls.length - s.calls.length + 1 := by
      omega
    rw [one_more, Nat.succ_mul]
    omega

theorem Undecided.create (h : Undecided s t spec) (able : Registrable s.books spec image)
    (logged : t.Logged) (client : Client) (deadline : Instant) :
    Contest s (t.step client (.create spec deadline)) spec := by
  have free : t.books.registry.contains spec.handle = false := by
    simp [Table.contains, h.free]
  have placed : Placed client t (t.step client (.create spec deadline)) t.calls.length _ :=
    placed_begun (Call.creating client t.books spec deadline)
  have longer : (t.step client (.create spec deadline)).calls.length = t.calls.length + 1 := by
    simp [step, begun]
  have quiet := logged.fresh
  rw [Call.creating] at placed
  cases made : PortClaim.make t.books.ports spec.ports with
  | error e =>
      have begun : s.calls.length < t.calls.length := by
        by_contra first
        obtain ⟨ports, claim, claims⟩ := able.claims
        rw [h.start (by have := h.length; omega), claims] at made
        cases made
      obtain ⟨managed, -⟩ := h.pending begun
      rw [start_unclaimed able.valid free made] at placed
      have trails : s.Trails (t.step client (.create spec deadline)) spec t.calls.length _ :=
        trails_placed quiet placed rfl (.inr ⟨e, rfl, h.turned managed made⟩)
      exact .inl (h.placed placed longer rfl (.refl _) managed trails (.inl begun)
        fun _ => Nat.le_add_right _ _)
  | ok result =>
      obtain ⟨ports, claim⟩ := result
      rcases able.source with ⟨name, preloaded⟩ | ⟨⟨reference, managed⟩, small⟩
      · rw [start_preloaded able.valid free made preloaded] at placed
        refine .inr ⟨t.calls.length, t.books.sandboxes.length, _, h.length, placed.here, ?_,
          .inl rfl, submitted_placed placed rfl, ?_⟩
        · rw [placed.books]
          exact (Books.get?_enrol ..).trans (if_pos rfl)
        · exact h.trail.placed placed (fun j _ _ => (Option.some_ne_none j).symm)
            fun leads => (leads rfl).elim
      · rw [start_managed able.valid free made managed] at placed
        have trails : s.Trails (t.step client (.create spec deadline)) spec t.calls.length _ :=
          trails_placed quiet placed rfl (.inl ⟨⟨reference, managed⟩, claim, reference, rfl⟩)
        refine .inl (h.placed placed longer rfl (PortClaim.make_ok made).range
          ⟨reference, managed⟩ trails (.inr ⟨claim, reference, rfl⟩) ?_)
        intro implicit
        rw [← PortClaim.explicitPorts_congr h.range] at implicit
        exact (PortClaim.make_implicit_ok implicit made).le

/-- A creation of the race that waits for its image goes on to register its sandbox. -/
theorem Trails.resumed {c : CreateCall} {now : Instant} {event : Event}
    (h : s.Trails t spec i c) (able : Registrable s.books spec image)
    (found : t.calls[i]? = some (.create c)) (admitted : t.Admits client (.event i now event))
    (rivals : t.Rivals spec image s.calls.length (.event i now event)) :
    ∃ claim, c.claim? = some claim ∧ c.resume client now t.books event =
      register client t.books c claim image.name (image.env ++ spec.env) image.size := by
  have busy := busy_of_admits admitted found
  have admits := admitted.of_event found
  rcases h.stage with ⟨managed, claim, reference, pulling⟩ | ⟨e, ended, -⟩
  · have small : image.size < c.spec.disk := by
      rw [h.spec_eq]
      exact (able.source.resolve_left fun preloaded => preloaded.not_managed managed).2
    obtain ⟨result, rfl⟩ := pulled_of_admits pulling admits
    rw [rivals.2 result rfl, resume_pulled pulling small, h.spec_eq]
    exact ⟨claim, by simp [claim?, pulling], rfl⟩
  · obtain ⟨spec', deadline, stage⟩ := c
    cases ended
    cases busy

/-- The first image that arrives decides the race. -/
theorem Undecided.event {now : Instant} {event : Event} (h : Undecided s t spec)
    (able : Registrable s.books spec image) (admitted : t.Admits client (.event i now event))
    (rivals : t.Rivals spec image s.calls.length (.event i now event)) :
    Contest s (t.step client (.event i now event)) spec := by
  obtain ⟨call, found, -⟩ := id admitted
  obtain ⟨c, rfl, trails⟩ := h.trail i call rivals.1 (Option.some_ne_none i).symm found
  obtain ⟨claim, holds, resumed⟩ := trails.resumed able found admitted rivals
  have free : t.books.registry.contains c.spec.handle = false := by
    simp [Table.contains, trails.spec_eq, h.free]
  have placed : Placed client t (t.advanced client i event _) i _ :=
    placed_advanced found event ((Call.create c).resume client now t.books event)
  simp only [step, found]
  rw [Call.resume, resumed, register_free free] at placed ⊢
  refine .inr ⟨i, t.books.sandboxes.length, _, rivals.1, placed.here, ?_, .inl rfl,
    submitted_placed placed rfl, ?_⟩
  · rw [placed.books, ← trails.spec_eq]
    exact (Books.get?_enrol ..).trans (if_pos rfl)
  · exact h.trail.placed placed (fun j _ _ => (Option.some_ne_none j).symm)
      fun leads => (leads rfl).elim

/-! ## Once somebody has -/

/-- A move of another call leaves the leader where it is. -/
theorem Decided.placed {t' : Interleaving} {key : Nat} {leader : CreateCall} {b : Books}
    {c : CreateCall} (h : Decided s t spec i key leader)
    (placed : Placed client t t' n (b, .create c)) (other : i ≠ n)
    (registry : b.registry = t.books.registry) (trails : s.Trails t' spec n c) :
    Decided s t' spec i key leader := by
  obtain ⟨pod, sent⟩ := h.submitted
  refine ⟨h.first, ?_, ?_, h.past, ⟨pod, placed.submitted sent⟩, ?_⟩
  · rw [placed.elsewhere i other]
    exact h.found
  · rw [placed.books, registry]
    exact h.registered
  · exact h.trail.placed placed (fun j _ hl => hl) fun _ => ⟨c, rfl, trails⟩

theorem Decided.create {key : Nat} {leader : CreateCall} (h : Decided s t spec i key leader)
    (valid : Handle.fault? spec.handle = none) (logged : t.Logged) (client : Client)
    (deadline : Instant) : Decided s (t.step client (.create spec deadline)) spec i key leader := by
  have taken : t.books.registry.contains spec.handle = true := by
    simp [Table.contains, h.registered]
  have placed : Placed client t (t.step client (.create spec deadline)) t.calls.length _ :=
    placed_begun (Call.creating client t.books spec deadline)
  rw [Call.creating, start_taken valid taken] at placed
  have other : i ≠ t.calls.length := (List.getElem?_eq_some_iff.1 h.found).1.ne
  exact h.placed placed other rfl
    (trails_placed logged.fresh placed rfl (.inr ⟨_, rfl, .overtaken⟩))

/-- The leader goes on with its sandbox. -/
theorem Decided.leads {key : Nat} {leader : CreateCall} {now : Instant} {event : Event}
    (h : Decided s t spec i key leader) (admitted : t.Admits client (.event i now event)) :
    ∃ leader, Decided s (t.step client (.event i now event)) spec i key leader := by
  have busy := busy_of_admits admitted h.found
  rcases h.past with holds | returned
  · obtain ⟨call, here, admits⟩ := id admitted
    cases h.found.symm.trans here
    have moved := resume_attending holds admits
    obtain ⟨pod, sent⟩ := h.submitted
    have placed : Placed client t (t.advanced client i event _) i _ :=
      placed_advanced h.found event ((Call.create leader).resume client now t.books event)
    simp only [step, h.found]
    refine ⟨_, h.first, placed.here, ?_, moved.key_or_returned, ⟨pod, placed.submitted sent⟩, ?_⟩
    · rw [placed.books]
      change (leader.resume client now t.books event).1.registry.get? spec.handle = some key
      rw [moved.registry_eq]
      exact h.registered
    · exact h.trail.placed placed (fun j _ hl => hl) fun leads => (leads rfl).elim
  · rw [busy] at returned
    cases returned

/-- An image that arrives later finds the handle taken. -/
theorem Decided.follows {j key : Nat} {leader : CreateCall} {now : Instant} {event : Event}
    (h : Decided s t spec i key leader) (able : Registrable s.books spec image) (other : i ≠ j)
    (admitted : t.Admits client (.event j now event))
    (rivals : t.Rivals spec image s.calls.length (.event j now event)) :
    Decided s (t.step client (.event j now event)) spec i key leader := by
  obtain ⟨call, found, -⟩ := id admitted
  have behind : some i ≠ some j := fun same => other (Option.some.inj same)
  obtain ⟨c, rfl, trails⟩ := h.trail j call rivals.1 behind found
  obtain ⟨claim, holds, resumed⟩ := trails.resumed able found admitted rivals
  have taken : t.books.registry.contains c.spec.handle = true := by
    simp [Table.contains, trails.spec_eq, h.registered]
  have placed : Placed client t (t.advanced client j event _) j _ :=
    placed_advanced found event ((Call.create c).resume client now t.books event)
  simp only [step, found]
  rw [Call.resume, resumed, register_taken taken] at placed ⊢
  refine h.placed placed other rfl (trails_placed trails.quiet placed trails.spec_eq (.inr ?_))
  refine ⟨_, rfl, ?_⟩
  rw [trails.spec_eq]
  exact .overtaken

/-! ## Every run of the race -/

theorem Contest.step (h : Contest s t spec) (able : Registrable s.books spec image)
    (logged : t.Logged) (admitted : t.Admits client m)
    (rivals : t.Rivals spec image s.calls.length m) : Contest s (t.step client m) spec := by
  cases m with
  | create other deadline =>
      cases rivals
      rcases h with undecided | ⟨i, key, leader, decided⟩
      · exact undecided.create able logged client deadline
      · exact .inr ⟨i, key, leader, decided.create able.valid logged client deadline⟩
  | destroy handle deadline => cases rivals
  | event j now event =>
      rcases h with undecided | ⟨i, key, leader, decided⟩
      · exact undecided.event able admitted rivals
      · by_cases same : i = j
        · subst same
          obtain ⟨leader, decided⟩ := decided.leads admitted
          exact .inr ⟨i, key, leader, decided⟩
        · exact .inr ⟨i, key, leader, decided.follows able same admitted rivals⟩

theorem undecided_start (able : Registrable s.books spec image) : Undecided s s spec := by
  refine ⟨Table.get?_eq_none able.free, Nat.le_refl _, .refl _, ?_, fun _ => rfl, ?_, ?_⟩
  · intro j call first _ found
    have lt := (List.getElem?_eq_some_iff.1 found).1
    omega
  · intro begun
    omega
  · intro implicit
    exact Nat.le_add_right _ _

theorem contest_of_reaches (able : Registrable s.books spec image) (logged : s.Logged)
    (run : Reaches client (Rivals spec image s.calls.length) s t) :
    t.Logged ∧ Contest s t spec := by
  apply run.invariant (P := fun t => t.Logged ∧ Contest s t spec)
  · exact ⟨logged, .inl (undecided_start able)⟩
  · rintro t m ⟨logged, contest⟩ admitted rivals
    exact ⟨logged.step admitted, contest.step able logged admitted rivals⟩

/-- One creation of the race has registered the handle and submitted its pod, and each of the
others returned an error without having done so. -/
def Settled (s t : Interleaving) (spec : SandboxSpec) : Prop :=
  ∃ i key, s.calls.length ≤ i ∧ t.books.registry.get? spec.handle = some key ∧
    (∃ pod, t.Submitted i pod) ∧
    ∀ j call, s.calls.length ≤ j → j ≠ i → t.calls[j]? = some call → ∃ c e,
      call = .create c ∧ t.Quiet j ∧ c.stage = .finished (.error e) ∧ Turned s spec j e

theorem Contest.settled (h : Contest s t spec) (begun : s.calls.length < t.calls.length)
    (returned : ∀ j call, s.calls.length ≤ j → t.calls[j]? = some call → call.isReturned = true) :
    Settled s t spec := by
  rcases h with undecided | ⟨i, key, leader, decided⟩
  · obtain ⟨-, j, c, claim, reference, first, found, pulling⟩ := undecided.pending begun
    have ended := returned j _ first found
    obtain ⟨spec', deadline, stage⟩ := c
    cases pulling
    cases ended
  · refine ⟨i, key, decided.first, decided.registered, decided.submitted, ?_⟩
    intro j call first other found
    have behind : some i ≠ some j := fun same => other (Option.some.inj same).symm
    obtain ⟨c, rfl, trails⟩ := decided.trail j call first behind found
    rcases trails.stage with ⟨-, claim, reference, pulling⟩ | ⟨e, ended, turned⟩
    · have ended := returned j _ first found
      obtain ⟨spec', deadline, stage⟩ := c
      cases pulling
      cases ended
    · exact ⟨c, e, rfl, trails.quiet, ended, turned⟩

/-! ## When every loser finds the handle taken -/

/-- Whoever failed without having registered the handle found it taken. -/
def AllOvertaken (s t : Interleaving) (spec : SandboxSpec) : Prop :=
  ∀ j c e, s.calls.length ≤ j → t.calls[j]? = some (.create c) → c.stage = .finished (.error e) →
    t.Quiet j → e = .alreadyExists spec.handle

/-- The first of `n` creations is done with its ports before the second one claims any, or there
are ports for all of them. -/
def Roomy (s : Interleaving) (spec : SandboxSpec) (n : Nat) : Prop :=
  Preloaded spec ∨ PortClaim.explicitPorts s.books.ports spec.ports = [] ∧
    n * PortClaim.missing spec.ports ≤ s.books.ports.free.length

theorem Turned.overtaken_of_roomy {j : Nat} {e : LifecycleError} (h : Turned s spec j e)
    (roomy : Roomy s spec n) (early : j < s.calls.length + n) : e = .alreadyExists spec.handle := by
  cases h with
  | overtaken => rfl
  | blocked managed member =>
      rcases roomy with preloaded | ⟨implicit, -⟩
      · exact (preloaded.not_managed managed).elim
      · rw [implicit] at member
        cases member
  | exhausted managed short few =>
      rcases roomy with preloaded | ⟨implicit, enough⟩
      · exact (preloaded.not_managed managed).elim
      · have within : j + 1 - s.calls.length ≤ n := by omega
        have used := Nat.mul_le_mul_right (PortClaim.missing spec.ports) within
        have := few implicit
        omega

theorem Contest.allOvertaken (h : Contest s t spec) (roomy : Roomy s spec n)
    (count : t.calls.length = s.calls.length + n) : AllOvertaken s t spec := by
  intro j c e first found ended quiet
  have early : j < s.calls.length + n := by
    rw [← count]
    exact (List.getElem?_eq_some_iff.1 found).1
  have turned_away {c' : CreateCall} (here : Call.create c = .create c')
      (trails : s.Trails t spec j c') : e = .alreadyExists spec.handle := by
    cases here
    rcases trails.stage with ⟨-, claim, reference, pulling⟩ | ⟨e', ended', turned⟩
    · rw [pulling] at ended
      cases ended
    · cases ended.symm.trans ended'
      exact turned.overtaken_of_roomy roomy early
  rcases h with undecided | ⟨i, key, leader, decided⟩
  · obtain ⟨c', here, trails⟩ := undecided.trail j _ first (Option.some_ne_none j).symm found
    exact turned_away here trails
  · by_cases same : i = j
    · subst same
      obtain ⟨pod, sent⟩ := decided.submitted
      cases quiet _ sent
    · have behind : some i ≠ some j := fun e => same (Option.some.inj e)
      obtain ⟨c', here, trails⟩ := decided.trail j _ first behind found
      exact turned_away here trails

/-- Creations that have been begun one after another all wait for their image. -/
structure Crowded (s t : Interleaving) (spec : SandboxSpec) (n : Nat) : Prop where
  free : t.books.registry.contains spec.handle = false
  range : PortPool.SameRange t.books.ports s.books.ports
  explicit : 1 ≤ n → ∀ p ∈ PortClaim.explicitPorts s.books.ports spec.ports, p ∈ t.books.ports.held
  implicit : 2 ≤ n → PortClaim.explicitPorts s.books.ports spec.ports = []
  held : PortClaim.explicitPorts s.books.ports spec.ports = [] → t.books.ports.held.length =
    s.books.ports.held.length + n * PortClaim.missing spec.ports

/-- One of them failed, and not because the handle was taken. -/
def Blocked (s t : Interleaving) (spec : SandboxSpec) : Prop :=
  ∃ j c e, s.calls.length ≤ j ∧ t.calls[j]? = some (.create c) ∧ c.stage = .finished (.error e) ∧
    t.Quiet j ∧ e ≠ .alreadyExists spec.handle

theorem Blocked.placed {t' : Interleaving} {r : Books × Call} (h : Blocked s t spec)
    (placed : Placed client t t' t.calls.length r) : Blocked s t' spec := by
  obtain ⟨j, c, e, first, found, ended, quiet, other⟩ := h
  have lt := (List.getElem?_eq_some_iff.1 found).1
  refine ⟨j, c, e, first, ?_, ended, quiet.elsewhere placed lt.ne, other⟩
  rw [placed.elsewhere j lt.ne, found]

theorem Crowded.create (h : Crowded s t spec n) (able : Registrable s.books spec image)
    (managed : Managed spec) (logged : t.Logged) (least : s.calls.length ≤ t.calls.length)
    (client : Client) :
    let t' := t.step client (.create spec 0)
    Blocked s t' spec ∨ Crowded s t' spec (n + 1) := by
  intro t'
  have placed : Placed client t t' t.calls.length _ :=
    placed_begun (Call.creating client t.books spec 0)
  rw [Call.creating] at placed
  cases made : PortClaim.make t.books.ports spec.ports with
  | error e =>
      rw [start_unclaimed able.valid h.free made] at placed
      refine .inl ⟨t.calls.length, _, e, least, placed.here, rfl, ?_, ?_⟩
      · exact logged.fresh.placed (r := (_, _)) placed fun ask asks => nomatch asks
      · rcases PortClaim.make_error made with ⟨p, member, rfl⟩ | ⟨available, short, rfl⟩
        · simp
        · simp
  | ok result =>
      obtain ⟨ports, claim⟩ := result
      obtain ⟨reference, managed⟩ := managed
      rw [start_managed able.valid h.free made managed] at placed
      have taken := PortClaim.make_ok made
      have claimed := PortClaim.make_explicit made
      rw [PortClaim.explicitPorts_congr h.range] at claimed
      refine .inr ⟨?_, ?_, fun _ p member => ?_, fun more => ?_, fun implicit => ?_⟩
      · rw [placed.books]
        exact h.free
      · rw [placed.books]
        exact taken.range.trans h.range
      · rw [placed.books]
        exact (taken.held p).2 (.inl (claimed p member))
      · rw [List.eq_nil_iff_forall_not_mem]
        intro p member
        exact taken.free p (claimed p member) (h.explicit (by omega) p member)
      · rw [placed.books, Nat.succ_mul]
        have before := h.held implicit
        rw [← PortClaim.explicitPorts_congr h.range] at implicit
        have now := PortClaim.make_implicit_ok implicit made
        change ports.held.length = _
        omega

theorem exists_crowd (able : Registrable s.books spec image) (managed : Managed spec)
    (logged : s.Logged) (client : Client) (n : Nat) :
    ∃ t, Reaches client (Rivals spec image s.calls.length) s t ∧ t.Logged ∧
      t.calls.length = s.calls.length + n ∧ (Blocked s t spec ∨ Crowded s t spec n) := by
  induction n with
  | zero =>
      refine ⟨s, .start, logged, rfl, .inr ⟨able.free, .refl _, ?_, ?_, ?_⟩⟩
      · intro begun
        omega
      · intro begun
        omega
      · intro implicit
        omega
  | succ n ih =>
      obtain ⟨t, run, logged, count, crowd⟩ := ih
      have placed : Placed client t (t.step client (.create spec 0)) t.calls.length _ :=
        placed_begun (Call.creating client t.books spec 0)
      refine ⟨t.step client (.create spec 0), run.step trivial rfl, logged.step trivial, ?_, ?_⟩
      · simp only [step, begun, List.length_append, List.length_singleton, count]
        omega
      · rcases crowd with blocked | crowded
        · exact .inl (blocked.placed placed)
        · exact crowded.create able managed logged (by omega) client

/-- Where there is no room for all of them, `n` creations begun in a row get in each other's way. -/
theorem exists_blocked (able : Registrable s.books spec image) (logged : s.Logged)
    (client : Client) (several : 2 ≤ n) (narrow : ¬ Roomy s spec n) :
    ∃ t, Reaches client (Rivals spec image s.calls.length) s t ∧
      t.calls.length = s.calls.length + n ∧ Blocked s t spec := by
  have managed : Managed spec :=
    (able.source.resolve_left fun preloaded => narrow (.inl preloaded)).1
  obtain ⟨t, run, -, count, blocked | crowded⟩ := exists_crowd able managed logged client n
  · exact ⟨t, run, count, blocked⟩
  · have implicit := crowded.implicit several
    have all := crowded.held implicit
    have now := t.books.ports.length_free
    have before := s.books.ports.length_free
    rw [crowded.range.ports_eq] at now
    exact (narrow (.inr ⟨implicit, by omega⟩)).elim

/-- Of several creations with a description that any of them alone would register, exactly one
registers it in every run. All the others find the handle taken, in every run of `n` of them, just
when there is room for `n` of them. -/
theorem equal_creations_settled {allowed : Interleaving → Move → Prop} {books : Books}
    (reached : Reaches client allowed { books } s)
    (alone : RegistersAlone client s.books spec image) :
    (∀ t, Reaches client (Rivals spec image s.calls.length) s t →
      s.calls.length < t.calls.length →
      (∀ j call, s.calls.length ≤ j → t.calls[j]? = some call → call.isReturned = true) →
      Settled s t spec) ∧
    ∀ n, 2 ≤ n → ((∀ t, Reaches client (Rivals spec image s.calls.length) s t →
      t.calls.length = s.calls.length + n → AllOvertaken s t spec) ↔ Roomy s spec n) := by
  have able := alone.registrable
  have logged := reached.logged (logged_start books)
  refine ⟨?_, fun n several => ⟨?_, ?_⟩⟩
  · intro t run begun returned
    exact (contest_of_reaches able logged run).2.settled begun returned
  · intro overtaken
    by_contra narrow
    obtain ⟨t, run, count, j, c, e, first, found, ended, quiet, other⟩ :=
      exists_blocked able logged client several narrow
    exact other (overtaken t run count j c e first found ended quiet)
  · intro roomy t run count
    exact (contest_of_reaches able logged run).2.allOvertaken roomy count

/-- A sandbox on a port of the pool, whose image is pulled. -/
def pulledOnPort : SandboxSpec where
  handle := "web"
  image := .ofUri "docker:///busybox"
  ports := [⟨62000, 8080⟩]
  disk := 10

def busybox : PulledImage where
  name := "busybox"
  id := ⟨"image"⟩
  size := 5
  env := []

/-- The second creation begins while the first one waits for the image. -/
def portRace (client : Client) : Interleaving :=
  [.create pulledOnPort 10, .create pulledOnPort 10,
    .event 0 0 (.answered (.pulled (.ok busybox)))].foldl (step client) { books := {} }

theorem reaches_portRace (client : Client) :
    Reaches client (Rivals pulledOnPort busybox 0) { books := {} } (portRace client) := by
  apply Follows.reaches ?_ .start
  refine ⟨trivial, rfl, trivial, rfl, ⟨_, rfl, rfl⟩, ⟨Nat.le_refl 0, ?_⟩, trivial⟩
  rintro result ⟨⟩
  rfl

theorem registersAlone_pulledOnPort (client : Client) :
    RegistersAlone client {} pulledOnPort busybox := ⟨10, 0, .inr rfl⟩

/-- The pod of the first creation is refused. -/
def podRefused : Move := .event 0 0 (.answered (.pod (.error (.alreadyExists .pod "web"))))

/-- One of the two creations has registered the handle; there is no room for two of them. -/
theorem port_race_settled : ∃ client books, Connected [] client books ∧
    Settled { books } ((portRace client).step client podRefused) pulledOnPort ∧
      ¬ ∀ t, Reaches client (Rivals pulledOnPort busybox 0) { books } t → t.calls.length = 2 →
        AllOvertaken { books } t pulledOnPort := by
  let client : Client := ⟨{}, "node", {}⟩
  refine ⟨client, {}, ⟨{}, "node", {}, [], rfl⟩, ?_⟩
  have reached : Reaches client (fun _ _ => True) { books := {} } { books := {} } := .start
  obtain ⟨settled, room⟩ := equal_creations_settled reached (registersAlone_pulledOnPort client)
  have run : Reaches client (Rivals pulledOnPort busybox 0) { books := {} }
      ((portRace client).step client podRefused) := by
    refine (reaches_portRace client).step ⟨_, rfl, rfl⟩ ⟨Nat.le_refl 0, ?_⟩
    rintro result ⟨⟩
  refine ⟨settled _ run (by decide) ?_, ?_⟩
  · intro j call _ found
    have two : ∀ call ∈ ((portRace client).step client podRefused).calls,
        call.isReturned = true := by decide
    exact two call (List.mem_of_getElem? found)
  · intro overtaken
    rcases (room 2 (Nat.le_refl 2)).1 overtaken with preloaded | ⟨implicit, -⟩
    · obtain ⟨name, preloaded⟩ := preloaded
      cases preloaded
    · cases implicit

/-- The second creation fails for a port that the first one has claimed, and the first one
registers the handle only afterwards. -/
theorem second_creation_blocked : ∃ client books, Connected [] client books ∧
    RegistersAlone client books pulledOnPort busybox ∧
      Reaches client (Rivals pulledOnPort busybox 0) { books } (portRace client) ∧
      (portRace client).books.registry.get? "web" = some 0 ∧
      (portRace client).calls = [.create ⟨pulledOnPort, 10, .submitting 0⟩,
        .create ⟨pulledOnPort, 10, .finished (.error (.invalidSpec (.portInUse 62000)))⟩] :=
  ⟨⟨{}, "node", {}⟩, {}, ⟨{}, "node", {}, [], rfl⟩, registersAlone_pulledOnPort _,
    reaches_portRace _, by decide, rfl⟩

end Interleaving
end SandboxPods
