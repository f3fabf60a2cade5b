import SandboxPods.Proofs.Client.EqualRace
import SandboxPods.Proofs.Client.Ownership

/-!
# One creation and its image

A creation that has to pull its image learns the image's size with it. Below the disk
limit the pod is submitted with what the image leaves of the limit, and the sandbox
keeps the size for good. At the limit or above it the image is deleted. What such a
creation has asked and been told says how far it has come; an image that is used as it
stands is not asked about at all.
-/
namespace SandboxPods

/-! ## The limit of a pod -/

/-- The limit on what the app container may write. -/
def Pod.diskLimit? (pod : Pod) : Option Quantity :=
  (pod.spec.containers.find? (·.name == Role.app)).bind
    (·.resources.limits.get? Resources.ephemeralStorage)

/-- What is left of a disk limit by an image; a limit of zero is no limit. -/
def SandboxSpec.diskLeft? (spec : SandboxSpec) (size : UInt64) : Option Quantity :=
  if spec.disk = 0 then none else some (.ofUnits (remaining spec.disk size))

theorem PodPlan.diskLimit?_pod (plan : PodPlan) :
    plan.pod.diskLimit? = plan.spec.diskLeft? plan.rootfsSize := by
  have first : plan.pod.diskLimit? = plan.diskLimit.get? Resources.ephemeralStorage := rfl
  rw [first, diskLimit, SandboxSpec.diskLeft?]
  split
  · rfl
  · rfl

/-- Below the limit the subtraction is exact and leaves something. -/
theorem SandboxSpec.diskLeft?_below {spec : SandboxSpec} {size : UInt64}
    (below : size < spec.disk) : ∃ left, spec.diskLeft? size = some (.ofUnits left) ∧
      left.toNat + size.toNat = spec.disk.toNat ∧ 0 < left := by
  have lt := UInt64.lt_iff_toNat_lt.1 below
  have positive : spec.disk ≠ 0 := by
    rintro zero
    rw [zero] at lt
    exact Nat.not_lt_zero _ lt
  have fits : ¬ spec.disk ≤ size := UInt64.not_le.2 below
  have difference : (spec.disk - size).toNat = spec.disk.toNat - size.toNat :=
    UInt64.toNat_sub_of_le _ _ (UInt64.le_of_lt below)
  refine ⟨spec.disk - size, ?_, by omega, ?_⟩
  · rw [diskLeft?, if_neg positive, remaining, if_neg fits]
  · rw [UInt64.lt_iff_toNat_lt, difference]
    exact Nat.sub_pos_of_lt lt

/-- An image that takes nothing leaves the whole limit. -/
theorem SandboxSpec.diskLeft?_zero (spec : SandboxSpec) :
    spec.diskLeft? 0 = if spec.disk = 0 then none else some (.ofUnits spec.disk) := by
  by_cases zero : spec.disk = 0
  · rw [diskLeft?, if_pos zero, if_pos zero]
  · obtain ⟨left, found, sum, -⟩ := diskLeft?_below (UInt64.pos_iff_ne_zero.2 zero)
    have all : left = spec.disk := UInt64.toNat_inj.1 sum
    rw [found, if_neg zero, all]

/-- The question is about an image. -/
def Ask.regardsImage : Ask → Bool
  | .pull .. | .deleteImage _ => true
  | _ => false

/-- The question for the image of a description. -/
def SandboxSpec.pull (spec : SandboxSpec) (reference : ImageReference) : Ask :=
  .pull reference (Credentials.ofParts spec.image.username spec.image.password)

/-! ## What is kept of a sandbox -/

/-- What is known of the older sandboxes stays as it is, up to their pods and tasks. -/
structure Books.Ages (a b : Books) : Prop where
  longer : a.sandboxes.length ≤ b.sandboxes.length
  rootfsSize : ∀ key, key < a.sandboxes.length →
    (b.sandbox key).rootfsSize = (a.sandbox key).rootfsSize

namespace Books.Ages

theorem refl (a : Books) : Ages a a := ⟨Nat.le_refl _, fun _ _ => rfl⟩

theorem trans {a b c : Books} (h : Ages a b) (k : Ages b c) : Ages a c :=
  ⟨Nat.le_trans h.longer k.longer, fun key lt =>
    (k.rootfsSize key (Nat.lt_of_lt_of_le lt h.longer)).trans (h.rootfsSize key lt)⟩

theorem of_eq {a b : Books} (same : b.sandboxes = a.sandboxes) : Ages a b := by
  refine ⟨(congrArg List.length same).ge, fun key _ => ?_⟩
  simp only [Books.sandbox, same]

theorem modify (b : Books) (key : Nat) {f : Sandbox → Sandbox}
    (keeps : ∀ x, (f x).rootfsSize = x.rootfsSize) : Ages b (b.modify key f) := by
  refine ⟨(Books.length_modify b key f).ge, fun j known => ?_⟩
  by_cases same : key = j
  · subst same
    rw [Books.sandbox_modify_self known, keeps]
  · rw [Books.sandbox_modify_ne same]

end Books.Ages

namespace CreateCall
variable {client : Client} {books : Books} {call : CreateCall} {claim : PortClaim} {key : Nat}
variable {event : Event} {r : Books × CreateCall}

theorem Claiming.ages (h : Claiming client books call claim r) : books.Ages r.1 := by
  cases h with
  | keeps same => exact .refl books
  | abandons e => exact .of_eq rfl
  | registers image env rootfsSize free =>
      refine ⟨by simp [Books.enrol], fun key known => ?_⟩
      rw [Books.sandbox_enrol known]

theorem Attending.ages (h : Attending books call key event r) : books.Ages r.1 := by
  cases h with
  | waits same later => exact .refl books
  | sees told same later => exact .modify books key fun _ => rfl
  | completes tasks =>
      have kept := Books.Ages.modify books key (f := fun x => { x with tasks }) fun _ => rfl
      exact kept.trans (.of_eq rfl)
  | fails e => exact .refl books

end CreateCall

/-! ## One creation by itself -/

namespace CreateCall
variable {client : Client} {books after : Books} {call : CreateCall} {claim : PortClaim}
variable {key : Nat} {event : Event} {now : Instant} {spec : SandboxSpec} {size : UInt64}
variable {pod : Pod} {others : List Ask} {asked : List Ask} {told : List Event}
variable {reference : ImageReference} {deadline : Instant} {pool : PortPool}

/-- The creation has registered its sandbox and submitted its pod, with an image of a size; what
it asked afterwards is about neither images nor another pod. -/
structure Housed (spec : SandboxSpec) (size : UInt64) (books : Books) (call : CreateCall)
    (pod : Pod) (others : List Ask) : Prop where
  past : call.claim? = none
  sandbox : ∀ key, call.sandbox? = some key →
    key < books.sandboxes.length ∧ (books.sandbox key).rootfsSize = size
  limit : pod.diskLimit? = spec.diskLeft? size
  others : ∀ ask ∈ others, ask.regardsImage = false ∧ ∀ pod, ask ≠ .cluster (.createPod pod)

theorem Housed.ages (h : Housed spec size books call pod others) (ages : books.Ages after) :
    Housed spec size after call pod others := by
  refine ⟨h.past, fun key made => ?_, h.limit, h.others⟩
  obtain ⟨known, same⟩ := h.sandbox key made
  exact ⟨Nat.lt_of_lt_of_le known ages.longer, (ages.rootfsSize key known).trans same⟩

/-- A creation without a claim has nothing to do with images. -/
theorem regardsImage_of_claim? {ask : Ask} (past : call.claim? = none)
    (asks : (call.awaiting client books).ask? = some ask) : ask.regardsImage = false := by
  obtain ⟨spec, deadline, stage⟩ := call
  cases stage with
  | pulling claim reference => cases past
  | discarding claim image => cases past
  | new => cases asks
  | finished result => cases asks
  | submitting key =>
      cases asks
      rfl
  | reading key =>
      cases asks
      rfl
  | pausing key wake => cases asks
  | withdrawing key =>
      cases asks
      rfl
  | loading key statuses =>
      cases asks
      rfl

theorem Housed.attending {r : Books × CreateCall} (h : Housed spec size books call pod others)
    (holds : call.key? = some key) (moved : Attending books call key event r) (client : Client) :
    Housed spec size r.1 r.2 pod (others ++ (r.2.awaiting client r.1).ask?.toList) := by
  refine ⟨moved.claim?, fun k made => ?_, h.limit, fun ask mem => ?_⟩
  · obtain rfl := moved.sandbox?_eq made
    obtain ⟨known, same⟩ := h.sandbox k (sandbox?_of_key? holds)
    exact ⟨moved.length_eq.symm ▸ known, (moved.ages.rootfsSize k known).trans same⟩
  · rcases List.mem_append.1 mem with earlier | now
    · exact h.others ask earlier
    · have asks := Option.mem_toList.1 now
      refine ⟨regardsImage_of_claim? moved.claim? asks, ?_⟩
      rintro pod rfl
      exact moved.no_submission client r.1 pod asks

/-- A registration submits the pod of the draft. -/
theorem housed_registered (client : Client) (books : Books) (call : CreateCall)
    (claim : PortClaim) (image : String) (env : List String) (size : UInt64) :
    let x := draft client call.spec claim image env size
    let r : Books × CreateCall := (books.enrol x call.spec.properties,
      { call with stage := .submitting books.sandboxes.length })
    Housed call.spec size r.1 r.2 x.pod [] ∧
      (r.2.awaiting client r.1).ask? = some (.cluster (.createPod x.pod)) := by
  intro x r
  have kept : r.1.sandbox books.sandboxes.length = x := Books.sandbox_enrol_self _ _ _
  refine ⟨⟨rfl, ?_, PodPlan.diskLimit?_pod _, fun _ none => nomatch none⟩, ?_⟩
  · rintro key ⟨⟩
    refine ⟨by simp [r, Books.enrol], ?_⟩
    rw [kept]
    rfl
  · rw [← kept]
    exact ask?_submitting rfl

theorem resume_spec_eq (admitted : (call.awaiting client books).admits now event = true) :
    (call.resume client now books event).2.spec = call.spec := by
  rcases claim_or_key admitted with ⟨claim, holds⟩ | ⟨key, holds⟩
  · have moved : Claiming client books call claim (call.resume client now books event) :=
      resume_claiming holds
    exact moved.spec_eq
  · exact (resume_attending holds admitted).spec_eq

/-- How far a creation has come that claimed its ports in a pool and has to pull its image, with
its questions and its news. -/
inductive Managing (spec : SandboxSpec) (reference : ImageReference) (pool : PortPool)
    (books : Books) (call : CreateCall) : List Ask → List Event → Prop
  | refused {e : LifecycleError} : call.stage = .finished (.error e) →
      Managing spec reference pool books call [] []
  | pulling {ports : PortPool} {claim : PortClaim} :
      PortClaim.make pool spec.ports = .ok (ports, claim) →
      call.stage = .pulling claim reference →
      Managing spec reference pool books call [spec.pull reference] []
  | unpulled {e : EngineError} {failure : LifecycleError} :
      call.stage = .finished (.error failure) →
      Managing spec reference pool books call [spec.pull reference]
        [.answered (.pulled (.error e))]
  | discarding {ports : PortPool} {claim : PortClaim} {image : PulledImage} :
      PortClaim.make pool spec.ports = .ok (ports, claim) → spec.disk ≤ image.size →
      call.stage = .discarding claim image →
      Managing spec reference pool books call [spec.pull reference, .deleteImage image.id]
        [.answered (.pulled (.ok image))]
  | discarded {image : PulledImage} {removal : Except EngineError Unit} :
      spec.disk ≤ image.size → call.stage = .finished (.error (oversize spec image removal)) →
      Managing spec reference pool books call [spec.pull reference, .deleteImage image.id]
        [.answered (.pulled (.ok image)), .answered (.imageDeleted removal)]
  | overtaken {image : PulledImage} {e : LifecycleError} : image.size < spec.disk →
      call.stage = .finished (.error e) →
      Managing spec reference pool books call [spec.pull reference]
        [.answered (.pulled (.ok image))]
  | housed {image : PulledImage} {pod : Pod} {others : List Ask} {later : List Event} :
      image.size < spec.disk → Housed spec image.size books call pod others →
      (∀ result, Event.answered (.pulled result) ∉ later) →
      Managing spec reference pool books call
        (spec.pull reference :: .cluster (.createPod pod) :: others)
        (.answered (.pulled (.ok image)) :: later)

theorem Managing.ages (h : Managing spec reference pool books call asked told)
    (ages : books.Ages after) : Managing spec reference pool after call asked told := by
  cases h with
  | refused ended => exact .refused ended
  | pulling made pulls => exact .pulling made pulls
  | unpulled ended => exact .unpulled ended
  | discarding made large discards => exact .discarding made large discards
  | discarded large ended => exact .discarded large ended
  | overtaken below ended => exact .overtaken below ended
  | housed below house later => exact .housed below (house.ages ages) later

/-- A creation that waits for the deletion of an image can be told nothing else. -/
theorem imageDeleted_of_admits {image : PulledImage}
    (discards : call.stage = .discarding claim image)
    (admitted : (call.awaiting client books).admits now event = true) :
    ∃ removal, event = .answered (.imageDeleted removal) := by
  rw [awaiting, discards] at admitted
  cases event with
  | answered answer =>
      cases answer with
      | imageDeleted removal => exact ⟨removal, rfl⟩
      | _ => cases admitted
  | woke => cases admitted
  | expired => cases admitted

/-- Only a creation that waits for its image can be told of one. -/
theorem pulling_of_admits {result : Except EngineError PulledImage}
    (admitted : (call.awaiting client books).admits now (.answered (.pulled result)) = true) :
    ∃ claim reference, call.stage = .pulling claim reference := by
  obtain ⟨spec, deadline, stage⟩ := call
  cases stage with
  | pulling claim reference => exact ⟨claim, reference, rfl⟩
  | _ => cases admitted

theorem not_admits_of_finished {result : Except LifecycleError Nat}
    (ended : call.stage = .finished result)
    (admitted : (call.awaiting client books).admits now event = true) : False := by
  rw [awaiting, ended] at admitted
  cases admitted

theorem Managing.step (h : Managing spec reference pool books call asked told)
    (same : call.spec = spec) (admitted : (call.awaiting client books).admits now event = true)
    {r : Books × CreateCall} (moved : call.resume client now books event = r) :
    Managing spec reference pool r.1 r.2 (asked ++ (r.2.awaiting client r.1).ask?.toList)
      (told ++ [event]) := by
  subst same
  cases h with
  | refused ended => exact (not_admits_of_finished ended admitted).elim
  | unpulled ended => exact (not_admits_of_finished ended admitted).elim
  | discarded large ended => exact (not_admits_of_finished ended admitted).elim
  | overtaken below ended => exact (not_admits_of_finished ended admitted).elim
  | @pulling ports claim made pulls =>
      obtain ⟨result, rfl⟩ := pulled_of_admits pulls admitted
      cases result with
      | error e =>
          simp only [resume, pulls] at moved
          subst moved
          exact .unpulled rfl
      | ok image =>
          by_cases large : call.spec.disk ≤ image.size
          · simp only [resume, pulls, pulled, large, if_true] at moved
            subst moved
            exact .discarding made large rfl
          · have below : image.size < call.spec.disk := UInt64.not_le.1 large
            rw [resume_pulled pulls below] at moved
            cases taken : books.registry.contains call.spec.handle with
            | true =>
                rw [register_taken taken] at moved
                subst moved
                exact .overtaken below rfl
            | false =>
                rw [register_free taken] at moved
                subst moved
                obtain ⟨house, asks⟩ := housed_registered client books call claim image.name
                  (image.env ++ call.spec.env) image.size
                rw [asks]
                exact .housed below house fun _ none => (List.not_mem_nil none).elim
  | discarding made large discards =>
      obtain ⟨removal, rfl⟩ := imageDeleted_of_admits discards admitted
      simp only [resume, discards] at moved
      subst moved
      exact .discarded large rfl
  | housed below house later =>
      rcases claim_or_key admitted with ⟨claim, holds⟩ | ⟨key, holds⟩
      · rw [house.past] at holds
        cases holds
      · have attended := resume_attending holds admitted
        rw [moved] at attended
        refine .housed below (house.attending holds attended client) fun result mem => ?_
        rcases List.mem_append.1 mem with earlier | now
        · exact later result earlier
        · cases List.mem_singleton.1 now
          obtain ⟨claim, reference, pulls⟩ := pulling_of_admits admitted
          rw [key?, pulls] at holds
          cases holds

theorem sandbox?_of_failed {e : LifecycleError} (ended : call.stage = .finished (.error e)) :
    call.sandbox? = none := by
  rw [sandbox?, key?, ended]

/-- The image that was told is the one that the creation goes on with. -/
theorem Managing.below {image : PulledImage}
    (h : Managing spec reference pool books call asked told)
    (pulled : Event.answered (.pulled (.ok image)) ∈ told) (below : image.size < spec.disk) :
    (asked = [spec.pull reference] ∧ ∃ e, call.stage = .finished (.error e)) ∨
      ∃ pod others, asked = spec.pull reference :: .cluster (.createPod pod) :: others ∧
        Housed spec image.size books call pod others := by
  cases h with
  | refused ended => cases pulled
  | pulling made pulls => cases pulled
  | unpulled ended => cases List.mem_singleton.1 pulled
  | discarding made large discards =>
      cases List.mem_singleton.1 pulled
      exact (UInt64.not_lt.2 large below).elim
  | discarded large ended =>
      rcases List.mem_cons.1 pulled with same | other
      · cases same
        exact (UInt64.not_lt.2 large below).elim
      · cases List.mem_singleton.1 other
  | overtaken small ended => exact .inl ⟨rfl, _, ended⟩
  | housed small house later =>
      rcases List.mem_cons.1 pulled with same | other
      · cases same
        exact .inr ⟨_, _, rfl, house⟩
      · exact (later _ other).elim

/-- An image that is too large is being deleted, or was, and that was the end. -/
theorem Managing.exceeds {image : PulledImage}
    (h : Managing spec reference pool books call asked told)
    (pulled : Event.answered (.pulled (.ok image)) ∈ told) (large : spec.disk ≤ image.size) :
    asked = [spec.pull reference, .deleteImage image.id] ∧
      ((told = [.answered (.pulled (.ok image))] ∧ ∃ ports claim,
          PortClaim.make pool spec.ports = .ok (ports, claim) ∧
          call.stage = .discarding claim image) ∨
        ∃ removal, told = [.answered (.pulled (.ok image)), .answered (.imageDeleted removal)] ∧
          call.stage = .finished (.error (oversize spec image removal))) := by
  cases h with
  | refused ended => cases pulled
  | pulling made pulls => cases pulled
  | unpulled ended => cases List.mem_singleton.1 pulled
  | discarding made _ discards =>
      cases List.mem_singleton.1 pulled
      exact ⟨rfl, .inl ⟨rfl, _, _, made, discards⟩⟩
  | discarded _ ended =>
      rcases List.mem_cons.1 pulled with same | other
      · cases same
        exact ⟨rfl, .inr ⟨_, rfl, ended⟩⟩
      · cases List.mem_singleton.1 other
  | overtaken small ended =>
      cases List.mem_singleton.1 pulled
      exact (UInt64.not_lt.2 large small).elim
  | housed small house later =>
      rcases List.mem_cons.1 pulled with same | other
      · cases same
        exact (UInt64.not_lt.2 large small).elim
      · exact (later _ other).elim

theorem Managing.submits (h : Managing spec reference pool books call asked told)
    (submits : .cluster (.createPod pod) ∈ asked) :
    ∃ image, Event.answered (.pulled (.ok image)) ∈ told ∧ image.size < spec.disk := by
  cases h with
  | refused ended => cases submits
  | pulling made pulls => cases List.mem_singleton.1 submits
  | unpulled ended => cases List.mem_singleton.1 submits
  | discarding made large discards => simp [SandboxSpec.pull] at submits
  | discarded large ended => simp [SandboxSpec.pull] at submits
  | overtaken small ended => cases List.mem_singleton.1 submits
  | housed small house later => exact ⟨_, List.mem_cons_self, small⟩

/-- A pod that was submitted is the one of the registration. -/
theorem Housed.submitted {sent : Pod} (h : Housed spec size books call pod others)
    (submits : .cluster (.createPod sent) ∈ Ask.cluster (.createPod pod) :: others) :
    sent.diskLimit? = spec.diskLeft? size := by
  rcases List.mem_cons.1 submits with same | other
  · cases same
    exact h.limit
  · exact ((h.others _ other).2 sent rfl).elim

/-- How far a creation has come that uses its image as it stands. -/
inductive Preloading (spec : SandboxSpec) (books : Books) (call : CreateCall) : List Ask → Prop
  | refused {e : LifecycleError} : call.stage = .finished (.error e) →
      Preloading spec books call []
  | housed {pod : Pod} {others : List Ask} : Housed spec 0 books call pod others →
      Preloading spec books call (.cluster (.createPod pod) :: others)

theorem Preloading.ages (h : Preloading spec books call asked) (ages : books.Ages after) :
    Preloading spec after call asked := by
  cases h with
  | refused ended => exact .refused ended
  | housed house => exact .housed (house.ages ages)

theorem Preloading.step (h : Preloading spec books call asked)
    (admitted : (call.awaiting client books).admits now event = true)
    {r : Books × CreateCall} (moved : call.resume client now books event = r) :
    Preloading spec r.1 r.2 (asked ++ (r.2.awaiting client r.1).ask?.toList) := by
  cases h with
  | refused ended => exact (not_admits_of_finished ended admitted).elim
  | housed house =>
      rcases claim_or_key admitted with ⟨claim, holds⟩ | ⟨key, holds⟩
      · rw [house.past] at holds
        cases holds
      · have attended := resume_attending holds admitted
        rw [moved] at attended
        exact .housed (house.attending holds attended client)

/-- A creation is refused at once or comes to its image with its ports claimed. -/
theorem start_cases (client : Client) (books : Books) (spec : SandboxSpec) (deadline : Instant) :
    (∃ e, start client books spec deadline =
      (books, { spec, deadline, stage := .finished (.error e) })) ∨
    ∃ ports claim, books.registry.contains spec.handle = false ∧
      PortClaim.make books.ports spec.ports = .ok (ports, claim) ∧
      start client books spec deadline =
        resolveImage client { books with ports } { spec, deadline } claim := by
  unfold start
  dsimp only
  split
  · exact .inl ⟨_, rfl⟩
  · split
    · exact .inl ⟨_, rfl⟩
    · rename_i free
      split
      · exact .inl ⟨_, rfl⟩
      · rename_i ports claim made
        exact .inr ⟨ports, claim, Bool.eq_false_iff.2 free, made, rfl⟩

theorem start_managing (managed : ImageSource.parse spec.image.uri = .ok (.managed reference))
    (client : Client) (books : Books) (deadline : Instant) :
    let r := start client books spec deadline
    r.1.registry = books.registry ∧
      Managing spec reference books.ports r.1 r.2 (r.2.awaiting client r.1).ask?.toList [] := by
  intro r
  rcases start_cases client books spec deadline with ⟨e, ended⟩ | ⟨ports, claim, -, made, resolves⟩
  · simp only [r, ended]
    exact ⟨trivial, .refused rfl⟩
  · simp only [r, resolves, resolveImage, managed]
    exact ⟨trivial, .pulling made rfl⟩

theorem start_preloading (preloaded : Preloaded spec) (client : Client) (books : Books)
    (deadline : Instant) :
    let r := start client books spec deadline
    Preloading spec r.1 r.2 (r.2.awaiting client r.1).ask?.toList := by
  intro r
  obtain ⟨name, preloaded⟩ := preloaded
  rcases start_cases client books spec deadline with ⟨e, ended⟩ | ⟨ports, claim, free, -, resolves⟩
  · simp only [r, ended]
    exact .refused rfl
  · let opened : Books := { books with ports }
    let call : CreateCall := { spec, deadline }
    have unknown : opened.registry.contains call.spec.handle = false := free
    have registers : r = register client opened call claim name spec.env 0 := by
      simp only [r, resolves, resolveImage, preloaded, opened, call]
    rw [register_free unknown] at registers
    obtain ⟨house, asks⟩ := housed_registered client opened call claim name spec.env 0
    rw [registers, asks]
    exact .housed house

end CreateCall

end SandboxPods
