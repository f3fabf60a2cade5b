import SandboxPods.Proofs.Client.ImageBudget
import SandboxPods.Proofs.Client.Transcript

/-!
# The disk limit

The disk limit of a sandbox covers its image and what is written on top of it. Below
the limit the pod may write what the image leaves of it. At the limit or above it the
image is deleted, the claimed ports are given back, and that is all the creation does.
An image that is used as it stands takes nothing of the limit. The other calls may come
in between anywhere.
-/
namespace SandboxPods.Interleaving
open CreateCall
variable {client : Client} {s t : Interleaving} {m : Move} {n : Nat}

theorem ages_step (admitted : s.Admits client m) : s.books.Ages (s.step client m).books := by
  cases stepped admitted with
  | starts hm moved placed =>
      rw [placed.books]
      cases moved with
      | refused e => exact .refl _
      | claims free made moved => exact Books.Ages.trans (.of_eq (by rfl)) moved.ages
  | looks hm placed =>
      rw [placed.books]
      exact .refl _
  | claiming hm found holds moved placed =>
      rw [placed.books]
      exact moved.ages
  | attending hm found holds moved placed =>
      rw [placed.books]
      exact moved.ages
  | deleting hm found holds moved result placed =>
      rw [placed.books]
      cases moved with
      | waits same later => exact .refl _
      | fails e first refused => exact .refl _
      | forgets outcome => exact .of_eq rfl

theorem Reaches.ages {allowed : Interleaving → Move → Prop} (run : Reaches client allowed s t) :
    s.books.Ages t.books :=
  run.invariant (P := fun t => s.books.Ages t.books) (.refl _)
    fun _ _ before admitted _ => before.trans (ages_step admitted)

/-! ## Beside other calls -/

variable {u : Interleaving} {spec : SandboxSpec} {deadline : Instant}
variable {reference : ImageReference} {image : PulledImage}

/-- What holds of a creation when it has been begun, and is kept by its own moves and not
disturbed by those of others, holds throughout. -/
theorem Reaches.tracked {allowed : Interleaving → Move → Prop}
    {P : Books → CreateCall → List Ask → List Event → Prop} (logged : u.Logged)
    (start : let r := CreateCall.start client u.books spec deadline
      P r.1 r.2 (r.2.awaiting client r.1).ask?.toList [])
    (undisturbed : ∀ a b call asked told, P a call asked told → a.Ages b → P b call asked told)
    (kept : ∀ books call asked told now event, P books call asked told → call.spec = spec →
      (call.awaiting client books).admits now event = true →
      let r := call.resume client now books event
      P r.1 r.2 (asked ++ (r.2.awaiting client r.1).ask?.toList) (told ++ [event]))
    (run : Reaches client allowed (u.step client (.create spec deadline)) t) :
    ∃ call, call.spec = spec ∧ t.calls[u.calls.length]? = some (.create call) ∧
      P t.books call (t.questions u.calls.length) (t.news u.calls.length) := by
  have standing : ∃ call asked told, call.spec = spec ∧
      t.Stands u.calls.length (.create call) asked told ∧ P t.books call asked told := by
    apply run.invariant (P := fun t => ∃ call asked told, call.spec = spec ∧
      t.Stands u.calls.length (.create call) asked told ∧ P t.books call asked told)
    · exact ⟨_, _, _, (CreateCall.start_starting client u.books spec deadline).spec_eq,
        .begun logged _, start⟩
    · rintro t m ⟨call, asked, told, same, stands, holds⟩ admitted -
      by_cases own : ∃ now event, m = .event u.calls.length now event
      · obtain ⟨now, event, rfl⟩ := own
        have admits := admitted.of_event stands.found
        have moved : (Call.create call).resume client now t.books event = _ := rfl
        obtain ⟨next, books⟩ := stands.advanced moved
        refine ⟨_, _, _, (CreateCall.resume_spec_eq admits).trans same, next, ?_⟩
        rw [books]
        exact kept _ _ _ _ _ _ holds same admits
      · have others : ∀ now event, m ≠ .event u.calls.length now event :=
          fun now event same => own ⟨now, event, same⟩
        exact ⟨call, asked, told, same, stands.elsewhere admitted others,
          undisturbed _ _ _ _ _ holds (ages_step admitted)⟩
  obtain ⟨call, asked, told, same, ⟨found, rfl, rfl⟩, holds⟩ := standing
  exact ⟨call, same, found, holds⟩

/-- The image was pulled for the call at a position. -/
def Pulled (t : Interleaving) (n : Nat) (image : PulledImage) : Prop :=
  (n, Event.answered (.pulled (.ok image))) ∈ t.told

/-- What is wrong with an image that is too large. -/
def sizeMessage (spec : SandboxSpec) (image : PulledImage) : String :=
  "image size " ++ toString image.size.toNat ++ " exceeds container disk limit " ++
    toString spec.disk.toNat

/-- What was wrong with its removal, if anything was. -/
def removalCauses : Except EngineError Unit → Causes
  | .ok () => []
  | .error e => [e.message]

/-- A creation whose image is below the disk limit. -/
structure WithinLimit (client : Client) (u t : Interleaving) (spec : SandboxSpec)
    (image : PulledImage) : Prop where
  /-- The pod may write what the image leaves of the limit, which is not nothing. -/
  limit : ∀ pod, t.Submitted u.calls.length pod → ∃ left,
    pod.diskLimit? = some (.ofUnits left) ∧ left.toNat + image.size.toNat = spec.disk.toNat ∧
      0 < left
  rootfs : ∀ call key later, t.calls[u.calls.length]? = some (.create call) →
    call.sandbox? = some key → Reaches client (fun _ _ => True) t later →
    (later.books.sandbox key).rootfsSize = image.size

/-- A creation whose image is too large. -/
structure OverLimit (client : Client) (u t : Interleaving) (spec : SandboxSpec)
    (reference : ImageReference) (image : PulledImage) : Prop where
  /-- The image was pulled and its deletion was asked for, and nothing else. -/
  asked : t.questions u.calls.length = [spec.pull reference, .deleteImage image.id]
  /-- There is no sandbox, and once the deletion is answered the creation has failed. -/
  fails : ∃ call, t.calls[u.calls.length]? = some (.create call) ∧ call.sandbox? = none ∧
    ∀ removal, (u.calls.length, Event.answered (.imageDeleted removal)) ∈ t.told →
      call.stage = .finished (.error (.diskLimitExceeded
        (sizeMessage spec image :: removalCauses removal)))
  /-- All that is still to come is that answer, and the claimed ports are given back with it. -/
  ends : ∀ now event, t.Admits client (.event u.calls.length now event) →
    (∃ removal, event = .answered (.imageDeleted removal)) ∧
    ∃ ports claim, PortClaim.make u.books.ports spec.ports = .ok (ports, claim) ∧
      (t.step client (.event u.calls.length now event)).books =
        t.books.releasePorts claim.claimed ∧
      ∀ p ∈ claim.claimed, p ∉ (t.step client (.event u.calls.length now event)).books.ports.held

/-- A creation that has to pull its image, begun at `u` and come to `t`. -/
structure ManagedImage (client : Client) (u t : Interleaving) (spec : SandboxSpec)
    (deadline : Instant) (reference : ImageReference) : Prop where
  /-- Its first move registers nothing, and neither does the news of an image that is too large. -/
  begins : (u.step client (.create spec deadline)).books.registry = u.books.registry
  arrives : ∀ now image, t.Admits client (.event u.calls.length now
      (.answered (.pulled (.ok image)))) → spec.disk ≤ image.size →
    (t.step client (.event u.calls.length now (.answered (.pulled (.ok image))))).books = t.books
  submits : ∀ pod, t.Submitted u.calls.length pod →
    ∃ image, t.Pulled u.calls.length image ∧ image.size < spec.disk
  within : ∀ image, t.Pulled u.calls.length image → image.size < spec.disk →
    WithinLimit client u t spec image
  above : ∀ image, t.Pulled u.calls.length image → spec.disk ≤ image.size →
    OverLimit client u t spec reference image

/-- A creation that uses its image as it stands. -/
structure PreloadedImage (client : Client) (u t : Interleaving) (spec : SandboxSpec) : Prop where
  asked : ∀ ask ∈ t.questions u.calls.length, ask.regardsImage = false
  limit : ∀ pod, t.Submitted u.calls.length pod →
    pod.diskLimit? = if spec.disk = 0 then none else some (.ofUnits spec.disk)
  rootfs : ∀ call key later, t.calls[u.calls.length]? = some (.create call) →
    call.sandbox? = some key → Reaches client (fun _ _ => True) t later →
    (later.books.sandbox key).rootfsSize = 0

theorem mem_questions {ask : Ask} : ask ∈ t.questions n ↔ (n, ask) ∈ t.asked := mem_entriesOf

theorem mem_news {event : Event} : event ∈ t.news n ↔ (n, event) ∈ t.told := mem_entriesOf

variable {allowed : Interleaving → Move → Prop} {call : CreateCall}

theorem Reaches.managing (logged : u.Logged)
    (managed : ImageSource.parse spec.image.uri = .ok (.managed reference))
    (run : Reaches client allowed (u.step client (.create spec deadline)) t) :
    ∃ call, call.spec = spec ∧ t.calls[u.calls.length]? = some (.create call) ∧
      Managing spec reference u.books.ports t.books call (t.questions u.calls.length)
        (t.news u.calls.length) := by
  apply run.tracked logged (CreateCall.start_managing managed client u.books deadline).2
  · exact fun _ _ _ _ _ managing ages => managing.ages ages
  · exact fun _ _ _ _ _ _ managing same admitted => managing.step same admitted rfl

theorem Reaches.preloading (logged : u.Logged) (preloaded : Preloaded spec)
    (run : Reaches client allowed (u.step client (.create spec deadline)) t) :
    ∃ call, call.spec = spec ∧ t.calls[u.calls.length]? = some (.create call) ∧
      Preloading spec t.books call (t.questions u.calls.length) := by
  apply run.tracked (P := fun books call asked _ => Preloading spec books call asked) logged
    (CreateCall.start_preloading preloaded client u.books deadline)
  · exact fun _ _ _ _ _ preloading ages => preloading.ages ages
  · exact fun _ _ _ _ _ _ preloading _ admitted => preloading.step admitted rfl

/-- What was kept of a sandbox at its registration is kept ever after. -/
theorem rootfsSize_later {later : Interleaving} {key : Nat} {size : UInt64}
    (found : t.calls[n]? = some (.create call))
    (housed : ∀ key, call.sandbox? = some key →
      key < t.books.sandboxes.length ∧ (t.books.sandbox key).rootfsSize = size)
    {other : CreateCall} (here : t.calls[n]? = some (.create other))
    (made : other.sandbox? = some key) (run : Reaches client allowed t later) :
    (later.books.sandbox key).rootfsSize = size := by
  cases found.symm.trans here
  obtain ⟨known, same⟩ := housed key made
  exact (run.ages.rootfsSize key known).trans same

theorem withinLimit (logged : u.Logged)
    (managed : ImageSource.parse spec.image.uri = .ok (.managed reference))
    (run : Reaches client allowed (u.step client (.create spec deadline)) t)
    (pulled : t.Pulled u.calls.length image) (below : image.size < spec.disk) :
    WithinLimit client u t spec image := by
  obtain ⟨call, -, found, managing⟩ := run.managing logged managed
  rcases managing.below (mem_news.2 pulled) below with
    ⟨asked, e, ended⟩ | ⟨pod, others, asked, house⟩
  · constructor
    · intro pod submits
      have sent := mem_questions.2 submits
      rw [asked] at sent
      cases List.mem_singleton.1 sent
    · intro other key later here made
      cases found.symm.trans here
      rw [sandbox?_of_failed ended] at made
      cases made
  · constructor
    · intro sent submits
      have member := mem_questions.2 submits
      rw [asked] at member
      have later := (List.mem_cons.1 member).resolve_left nofun
      rw [house.submitted later]
      exact SandboxSpec.diskLeft?_below below
    · exact fun other key later here made after =>
        rootfsSize_later found house.sandbox here made after

theorem oversize_eq (spec : SandboxSpec) (image : PulledImage) (removal : Except EngineError Unit) :
    oversize spec image removal =
      .diskLimitExceeded (sizeMessage spec image :: removalCauses removal) := by
  cases removal <;> rfl

theorem overLimit (logged : u.Logged)
    (managed : ImageSource.parse spec.image.uri = .ok (.managed reference))
    (run : Reaches client allowed (u.step client (.create spec deadline)) t)
    (pulled : t.Pulled u.calls.length image) (large : spec.disk ≤ image.size) :
    OverLimit client u t spec reference image := by
  obtain ⟨call, same, found, managing⟩ := run.managing logged managed
  obtain ⟨asked, ⟨told, ports, claim, made, discards⟩ | ⟨removal, told, ended⟩⟩ :=
    managing.exceeds (mem_news.2 pulled) large
  · refine ⟨asked, ⟨call, found, ?_, ?_⟩, ?_⟩
    · rw [sandbox?, key?, discards]
    · intro removal heard
      have member := mem_news.2 heard
      rw [told] at member
      cases List.mem_singleton.1 member
    · intro now event admitted
      obtain ⟨removal, rfl⟩ := imageDeleted_of_admits discards (admitted.of_event found)
      have ends : (t.step client (.event u.calls.length now
          (.answered (.imageDeleted removal)))).books = t.books.releasePorts claim.claimed := by
        simp only [step, found, Call.resume, resume, discards]
        rfl
      refine ⟨⟨removal, rfl⟩, ports, claim, made, ends, fun p claimed => ?_⟩
      rw [ends]
      exact fun held => (PortPool.mem_held_releaseAll.1 held).2 claimed
  · refine ⟨asked, ⟨call, found, sandbox?_of_failed ended, ?_⟩, ?_⟩
    · intro other heard
      have member := mem_news.2 heard
      rw [told] at member
      rcases List.mem_cons.1 member with first | last
      · cases first
      · cases List.mem_singleton.1 last
        rw [ended, oversize_eq]
    · exact fun now event admitted =>
        (not_admits_of_finished ended (admitted.of_event found)).elim

/-- The news of an image that is too large changes nothing in the books. -/
theorem books_arrival {now : Instant} (logged : u.Logged)
    (managed : ImageSource.parse spec.image.uri = .ok (.managed reference))
    (run : Reaches client allowed (u.step client (.create spec deadline)) t)
    (admitted : t.Admits client (.event u.calls.length now (.answered (.pulled (.ok image)))))
    (large : spec.disk ≤ image.size) :
    (t.step client (.event u.calls.length now (.answered (.pulled (.ok image))))).books =
      t.books := by
  obtain ⟨call, rfl, found, managing⟩ := run.managing logged managed
  obtain ⟨claim, reference, pulls⟩ := pulling_of_admits (admitted.of_event found)
  simp only [step, found, Call.resume, resume, pulls, pulled, large, if_true]
  rfl

theorem preloadedImage (logged : u.Logged) (preloaded : Preloaded spec)
    (run : Reaches client allowed (u.step client (.create spec deadline)) t) :
    PreloadedImage client u t spec := by
  obtain ⟨call, -, found, preloading⟩ := run.preloading logged preloaded
  generalize asks : t.questions u.calls.length = asked at preloading
  have asked_of {pod : Pod} (submits : t.Submitted u.calls.length pod) :
      .cluster (.createPod pod) ∈ asked := asks ▸ mem_questions.2 submits
  refine ⟨?_, ?_, ?_⟩
  · rw [asks]
    cases preloading with
    | refused ended => exact fun ask none => nomatch none
    | housed house =>
        intro ask member
        rcases List.mem_cons.1 member with rfl | later
        · rfl
        · exact (house.others ask later).1
  · intro pod submits
    cases preloading with
    | refused ended => cases asked_of submits
    | housed house =>
        rw [house.submitted (asked_of submits)]
        exact spec.diskLeft?_zero
  · intro other key later here made after
    cases preloading with
    | refused ended =>
        cases found.symm.trans here
        rw [sandbox?_of_failed ended] at made
        cases made
    | housed house => exact rootfsSize_later found house.sandbox here made after

/-- A creation stays below the disk limit with its image and what its pod may write, or discards
the image and leaves nothing behind; an image that is used as it stands does not count. -/
theorem disk_limit {books : Books} (before : Reaches client (fun _ _ => True) { books } u)
    (run : Reaches client (fun _ _ => True) (u.step client (.create spec deadline)) t) :
    (∀ reference, ImageSource.parse spec.image.uri = .ok (.managed reference) →
      ManagedImage client u t spec deadline reference) ∧
    (Preloaded spec → PreloadedImage client u t spec) := by
  have logged := before.logged (logged_start books)
  constructor
  · intro reference managed
    refine ⟨(CreateCall.start_managing managed client u.books deadline).1, ?_, ?_, ?_, ?_⟩
    · exact fun now image admitted large => books_arrival logged managed run admitted large
    · intro pod submits
      obtain ⟨call, -, -, managing⟩ := run.managing logged managed
      obtain ⟨image, heard, below⟩ := managing.submits (mem_questions.2 submits)
      exact ⟨image, mem_news.1 heard, below⟩
    · exact fun image pulled below => withinLimit logged managed run pulled below
    · exact fun image pulled large => overLimit logged managed run pulled large
  · intro preloaded
    exact preloadedImage logged preloaded run

/-- A sandbox of ten bytes, whose image turns out to take all of them. -/
def brimming : SandboxSpec where
  handle := "job"
  image := .ofUri "docker:///busybox"
  ports := [⟨0, 80⟩]
  disk := 10

/-- The image arrives, and cannot be deleted. -/
def imageInUse : List Move :=
  let image : PulledImage := { name := "busybox", id := ⟨"image"⟩, size := 10, env := [] }
  [.event 0 1 (.answered (.pulled (.ok image))),
    .event 0 2 (.answered (.imageDeleted (.error (.runtime "image in use"))))]

/-- At the limit an image is already too large. -/
theorem image_at_the_limit_discarded : ∃ client books,
    Connected [.publishing "web" 62000] client books ∧
      let u : Interleaving := { books }
      let t := imageInUse.foldl (step client) (u.step client (.create brimming 10))
      Reaches client (fun _ _ => True) { books } u ∧
        Reaches client (fun _ _ => True) (u.step client (.create brimming 10)) t ∧
        t.books.ports.held = [62000] ∧ t.books.registry.get? "job" = none ∧
        t.calls = [.create ⟨brimming, 10, .finished (.error (.diskLimitExceeded
          ["image size 10 exceeds container disk limit 10",
            "runtime error: image in use"]))⟩] ∧
        ((∀ reference, ImageSource.parse brimming.image.uri = .ok (.managed reference) →
          ManagedImage client u t brimming 10 reference) ∧
        (Preloaded brimming → PreloadedImage client u t brimming)) := by
  refine ⟨_, _, ⟨{}, "node", {}, [], rfl⟩, .start, ?_, by decide, by decide, rfl, ?_⟩
  · exact Follows.reaches ⟨⟨_, rfl, rfl⟩, trivial, ⟨_, rfl, rfl⟩, trivial, trivial⟩ .start
  · apply disk_limit .start
    exact Follows.reaches ⟨⟨_, rfl, rfl⟩, trivial, ⟨_, rfl, rfl⟩, trivial, trivial⟩ .start

end SandboxPods.Interleaving
