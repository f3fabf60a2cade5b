import SandboxPods.Proofs.Client.PortExclusivity

/-!
# Which sandbox a call acts on

A destruction finds a sandbox under its handle and a creation registers one; each
goes on under the handle alone. The sandbox is still the registered one whenever the
call moves on, as long as no other destruction forgets the handle. Once that has
happened the handle can be taken by a new sandbox while the call is still busy, and
then the call can be brought to act on the new one: a destruction forgets it, and a
creation marks it as created or asks for its pod to be deleted.
-/
namespace SandboxPods

/-- A sandbox without ports, whose image is in place. -/
def SandboxSpec.plain (handle : String) : SandboxSpec where
  handle := handle
  image := .ofUri "rootfs"

namespace Call

/-- The call has a sandbox in hand: one that it found, or one that it registered. -/
def isEngaged : Call → Bool
  | .create call => call.key?.isSome
  | .destroy call => call.pod?.isSome

/-- The call waits for nothing but the end of a deletion that it has asked for. -/
def isWithdrawing : Call → Bool
  | .create { stage := .withdrawing _, .. } => true
  | _ => false

/-- The next answer can make the call act on what is registered under its handle. -/
def IsPoised : Call → Prop
  | .create call =>
    (∃ key, call.stage = .reading key) ∨ ∃ key statuses, call.stage = .loading key statuses
  | .destroy call => ∃ pod, call.stage = .deleting pod ∨ call.stage = .reading pod

/-- A call that has a sandbox in hand is poised, or is so after one event that changes nothing
else. -/
theorem exists_poised {call : Call} (client : Client) (books : Books)
    (engaged : call.isEngaged = true) (asks : call.isWithdrawing = false) :
    call.IsPoised ∨ ∃ now event next, (call.awaiting client books).admits now event = true ∧
      call.resume client now books event = (books, next) ∧ next.IsPoised ∧
      next.handle = call.handle := by
  cases call with
  | create c =>
      obtain ⟨spec, deadline, stage⟩ := c
      cases stage with
      | submitting key =>
          exact .inr ⟨0, .answered (.pod (.ok {})), _, rfl, rfl, .inl ⟨key, rfl⟩, rfl⟩
      | reading key => exact .inl (.inl ⟨key, rfl⟩)
      | pausing key wake =>
          exact .inr ⟨wake, .woke, _, decide_eq_true (Nat.le_refl _), rfl, .inl ⟨key, rfl⟩, rfl⟩
      | loading key statuses => exact .inl (.inr ⟨key, statuses, rfl⟩)
      | withdrawing key => cases asks
      | _ => cases engaged
  | destroy c =>
      obtain ⟨handle, deadline, stage⟩ := c
      cases stage with
      | deleting pod => exact .inl ⟨pod, .inl rfl⟩
      | reading pod => exact .inl ⟨pod, .inr rfl⟩
      | pausing pod wake =>
          exact .inr ⟨wake, .woke, _, decide_eq_true (Nat.le_refl _), rfl, ⟨pod, .inr rfl⟩, rfl⟩
      | finished result => cases engaged

end Call

namespace Interleaving
variable {client : Client} {s t : Interleaving} {m : Move} {h : String} {key n i : Nat}

/-- The call at a position has just taken up the sandbox at `key`: a destruction that found it
under the handle, or a creation that registered it there. -/
inductive TakesUp (client : Client) (h : String) (key n : Nat) : Interleaving → Prop
  | found {s : Interleaving} {deadline : Instant} : s.calls.length = n →
      s.books.registry.get? h = some key →
      TakesUp client h key n (s.step client (.destroy h deadline))
  | registered {s : Interleaving} {call : CreateCall} : s.calls[n]? = some (.create call) →
      call.spec.handle = h → call.stage = .submitting key → s.books.registry.get? h = some key →
      TakesUp client h key n s

/-- The move ends a destruction other than the call at the position, and the handle is
forgotten. -/
def ForgetsBeside (client : Client) (h : String) (n : Nat) (s : Interleaving) (m : Move) : Prop :=
  ∃ i now event pod, i ≠ n ∧ m = .event i now event ∧ s.Forgets client m h pod

/-- The call at the position changes what is registered or stored under the handle, or asks for
the deletion of the pod of that name. -/
def Touches (client : Client) (h : String) (n : Nat) (s : Interleaving) (m : Move) : Prop :=
  (∃ now event, m = .event n now event) ∧
    ((s.step client m).books.registry.get? h ≠ s.books.registry.get? h ∨
      (s.step client m).books.properties.spaces.get? h ≠ s.books.properties.spaces.get? h ∨
      ∃ ns grace, (s.step client m).asked = s.asked ++ [(n, .cluster (.deletePod ns h grace))])

/-! ## As long as nobody else forgets the handle -/

/-- The sandbox of the call at a position is the registered one, or the call has returned. -/
structure OnOwn (h : String) (key n : Nat) (s : Interleaving) (call : Call) : Prop where
  found : s.calls[n]? = some call
  handle : call.handle = h
  own : (call.isEngaged = true ∧ s.books.registry.get? h = some key) ∨ call.isReturned = true

theorem TakesUp.onOwn (taken : TakesUp client h key n s) : ∃ call, OnOwn h key n s call := by
  cases taken with
  | @found s deadline position registered =>
      subst position
      have placed : Placed client s (s.step client (.destroy h deadline)) s.calls.length
          (s.books, Call.destroying s.books h deadline) := placed_begun _
      have started : DestroyCall.start s.books h deadline =
          { handle := h, deadline, stage := .deleting (s.books.sandbox key).pod } := by
        simp only [DestroyCall.start, Books.lookup, Registry.get, registered]
      have here := placed.here
      rw [Call.destroying, started] at here
      exact ⟨_, here, rfl, .inl ⟨rfl, registered⟩⟩
  | @registered _ call found handle submits registered =>
      refine ⟨_, found, handle, .inl ⟨?_, registered⟩⟩
      simp [Call.isEngaged, CreateCall.key?, submits]

variable {call : Call}

theorem OnOwn.elsewhere {r : Books × Call} (own : OnOwn h key n s call)
    (placed : Placed client s t i r) (other : i ≠ n)
    (kept : s.books.registry.get? h = some key → t.books.registry.get? h = some key) :
    OnOwn h key n t call :=
  ⟨(placed.elsewhere n other.symm).trans own.found, own.handle,
    own.own.imp (And.imp_right kept) id⟩

theorem OnOwn.fresh (own : OnOwn h key n s call) : s.calls.length ≠ n :=
  (List.getElem?_eq_some_iff.1 own.found).1.ne'

theorem OnOwn.claiming {claim : PortClaim} {c : CreateCall} (own : OnOwn h key n s call)
    (found : s.calls[i]? = some (.create c)) (holds : c.claim? = some claim) : i ≠ n := by
  rintro rfl
  cases found.symm.trans own.found
  rcases own.own with ⟨engaged, -⟩ | returned
  · rw [Call.isEngaged, CreateCall.key?_of_claim? holds] at engaged
    cases engaged
  · obtain ⟨spec, deadline, stage⟩ := c
    cases stage with
    | finished result => cases holds
    | _ => cases returned

theorem OnOwn.step (own : OnOwn h key n s call) (admitted : s.Admits client m)
    (kept : ¬ s.ForgetsBeside client h n m) : ∃ call, OnOwn h key n (s.step client m) call := by
  cases stepped admitted with
  | starts hm moved placed =>
      refine ⟨call, own.elsewhere placed own.fresh fun registered => ?_⟩
      rw [placed.books]
      exact registry_starting moved registered
  | looks hm placed =>
      refine ⟨call, own.elsewhere placed own.fresh fun registered => ?_⟩
      rw [placed.books]
      exact registered
  | claiming hm found holds moved placed =>
      refine ⟨call, own.elsewhere placed (own.claiming found holds) fun registered => ?_⟩
      rw [placed.books]
      exact registry_claiming moved registered
  | @attending i now event c k r hm found holds moved placed =>
      have same (registered : s.books.registry.get? h = some key) :
          (s.step client m).books.registry.get? h = some key := by
        rw [placed.books, moved.registry_eq]
        exact registered
      by_cases mine : i = n
      · subst mine
        cases found.symm.trans own.found
        have busy : (Call.create c).isReturned = false := Call.busy_of_key? holds
        refine ⟨_, placed.here, (congrArg SandboxSpec.handle moved.spec_eq).trans own.handle, ?_⟩
        rcases own.own with ⟨-, registered⟩ | returned
        · rcases moved.key_or_returned with held | returned
          · exact .inl ⟨by simp [Call.isEngaged, held], same registered⟩
          · exact .inr returned
        · rw [busy] at returned
          cases returned
      · exact ⟨call, own.elsewhere placed mine same⟩
  | @deleting i now event c pod r hm found holds moved result placed =>
      by_cases mine : i = n
      · subst mine
        cases found.symm.trans own.found
        refine ⟨_, placed.here, moved.handle_eq.trans own.handle, ?_⟩
        cases moved with
        | waits same later =>
            rcases own.own with ⟨-, registered⟩ | returned
            · refine .inl ⟨congrArg Option.isSome same, ?_⟩
              rw [placed.books]
              exact registered
            · rw [Call.pod?_of_returned returned] at holds
              cases holds
        | fails e first refused => exact .inr rfl
        | forgets outcome => exact .inr rfl
      · refine ⟨call, own.elsewhere placed mine fun registered => ?_⟩
        rw [placed.books]
        cases moved with
        | waits same later => exact registered
        | fails e first refused => exact registered
        | forgets outcome =>
            refine (Table.get?_erase_ne _ ?_).trans registered
            intro same
            exact kept ⟨i, now, event, pod, mine, hm, i, now, event, c, outcome, hm, found,
              same.symm, holds, result⟩

/-! ## Once somebody else has -/

/-- Every registered handle stands for a sandbox that was made, in any run. -/
theorem keyed_step (keyed : s.books.Keyed) (admitted : s.Admits client m) :
    (s.step client m).books.Keyed := by
  have claiming {b : Books} {c : CreateCall} {claim : PortClaim} {r : Books × CreateCall}
      (keyed : b.Keyed) (moved : CreateCall.Claiming client b c claim r) : r.1.Keyed := by
    cases moved with
    | keeps same => exact keyed
    | abandons e => exact keyed
    | registers image env rootfsSize free => exact keyed.enrol _ _
  cases stepped admitted with
  | starts hm moved placed =>
      rw [placed.books]
      cases moved with
      | refused e => exact keyed
      | @claims ports _ _ free made moved =>
          have keyed : Books.Keyed { s.books with ports } := keyed
          exact claiming keyed moved
  | looks hm placed =>
      rw [placed.books]
      exact keyed
  | claiming hm found holds moved placed =>
      rw [placed.books]
      exact claiming keyed moved
  | attending hm found holds moved placed =>
      rw [placed.books]
      intro k key registered
      rw [moved.registry_eq] at registered
      rw [moved.length_eq]
      exact keyed k key registered
  | deleting hm found holds moved result placed =>
      rw [placed.books]
      cases moved with
      | waits same later => exact keyed
      | fails e first refused => exact keyed
      | forgets outcome => exact keyed.forget _ _

/-- The handle is registered and no properties are stored under it. -/
structure Renewed (h : String) (key n : Nat) (s : Interleaving) (call : Call) : Prop where
  found : s.calls[n]? = some call
  handle : call.handle = h
  registered : s.books.registry.get? h = some key
  bare : s.books.properties.spaces.get? h = none

theorem step_event {call : Call} {now : Instant} {event : Event}
    (found : s.calls[n]? = some call) : s.step client (.event n now event) =
      s.advanced client n event (call.resume client now s.books event) := by
  simp only [step, found]

/-- A destruction that ends here forgets what is registered. -/
theorem touches_forget {c : DestroyCall} {pod : Pod} {now : Instant} {event : Event}
    {result : Except LifecycleError Unit} (renewed : Renewed h key n s (.destroy c))
    (forgets : c.resume client now s.books event = c.forget s.books pod result) :
    s.Touches client h n (.event n now event) := by
  refine ⟨⟨now, event, rfl⟩, .inl ?_⟩
  have books : (s.step client (.event n now event)).books = s.books.forget c.handle pod := by
    rw [step_event renewed.found]
    exact congrArg Prod.fst forgets
  have gone : (s.books.forget c.handle pod).registry.get? c.handle = none :=
    Table.get?_erase_self ..
  rw [books, ← renewed.handle, Call.handle, gone, ← Call.handle, renewed.handle,
    renewed.registered]
  exact (Option.some_ne_none key).symm

theorem exists_touch (client : Client) (renewed : Renewed h key n s call)
    (poised : call.IsPoised) : ∃ m, s.Admits client m ∧ s.Touches client h n m := by
  cases call with
  | create c =>
      obtain ⟨spec, deadline, stage⟩ := c
      rcases poised with ⟨k, reads⟩ | ⟨k, statuses, loads⟩
      · cases reads
        refine ⟨.event n deadline .expired, ⟨_, renewed.found, decide_eq_true (Nat.le_refl _)⟩,
          ⟨_, _, rfl⟩, .inr (.inr ⟨client.settings.podNamespace, some 0, ?_⟩)⟩
        rw [step_event renewed.found, ← renewed.handle]
        rfl
      · cases loads
        refine ⟨.event n 0 (.answered (.tasks (.ok {}))), ⟨_, renewed.found, rfl⟩, ⟨_, _, rfl⟩,
          .inr (.inl ?_)⟩
        have stored : (s.step client (.event n 0 (.answered (.tasks (.ok {}))))).books.properties =
            s.books.properties.set spec.handle Sandbox.stateProperty Sandbox.stateCreated := by
          rw [step_event renewed.found]
          rfl
        have same : spec.handle = h := renewed.handle
        rw [stored, renewed.bare, same, PropertyStore.set, Table.get?_insert_self]
        exact Option.some_ne_none _
  | destroy c =>
      obtain ⟨handle, deadline, stage⟩ := c
      obtain ⟨pod, deletes | reads⟩ := poised
      · cases deletes
        exact ⟨.event n 0 (.answered (.deleted (.error (.notFound .pod h)))),
          ⟨_, renewed.found, rfl⟩, touches_forget renewed rfl⟩
      · cases reads
        exact ⟨.event n 0 (.answered (.pod (.error (.notFound .pod h)))),
          ⟨_, renewed.found, rfl⟩, touches_forget renewed rfl⟩

/-- A call that is busy with a handle which a new sandbox has taken acts on that one after an
answer or two. -/
theorem Renewed.exists_touch (renewed : Renewed h key n s call) (client : Client)
    (engaged : call.isEngaged = true) (asks : call.isWithdrawing = false) :
    ∃ u, Reaches client (fun _ _ => True) s u ∧ u.books.registry.get? h = some key ∧
      ∃ m, u.Admits client m ∧ u.Touches client h n m := by
  rcases Call.exists_poised client s.books engaged asks with
    poised | ⟨now, event, next, admits, resumed, poised, handle⟩
  · exact ⟨s, .start, renewed.registered, Interleaving.exists_touch client renewed poised⟩
  · have stepped : s.step client (.event n now event) =
        s.advanced client n event (s.books, next) := by
      rw [step_event renewed.found, resumed]
    have placed : Placed client s _ n _ := placed_advanced renewed.found event (s.books, next)
    have later : Renewed h key n (s.advanced client n event (s.books, next)) next :=
      ⟨placed.here, handle.trans renewed.handle, renewed.registered, renewed.bare⟩
    have run : Reaches client (fun _ _ => True) s (s.step client (.event n now event)) :=
      .step .start ⟨call, renewed.found, admits⟩ trivial
    rw [stepped] at run
    exact ⟨_, run, renewed.registered, Interleaving.exists_touch client later poised⟩

/-- A handle that has been forgotten can be taken at once. -/
theorem renewed_create (client : Client) (found : s.calls[n]? = some call)
    (handle : call.handle = h) (valid : Handle.fault? h = none)
    (free : s.books.registry.get? h = none) (bare : s.books.properties.spaces.get? h = none) :
    Renewed h s.books.sandboxes.length n (s.step client (.create (.plain h) 0)) call := by
  have unregistered : s.books.registry.contains h = false :=
    Option.isSome_eq_false_iff.2 (Option.isNone_iff_eq_none.2 free)
  have preloaded : ImageSource.parse "rootfs" = .ok (.preloaded "rootfs") := by decide
  have started : CreateCall.start client s.books (.plain h) 0 = _ :=
    CreateCall.start_preloaded valid unregistered (PortClaim.make_nil s.books.ports) preloaded
  have placed : Placed client s (s.step client (.create (.plain h) 0)) s.calls.length
      (Call.creating client s.books (.plain h) 0) := placed_begun _
  have before := (List.getElem?_eq_some_iff.1 found).1
  refine ⟨(placed.elsewhere n before.ne).trans found, handle, ?_, ?_⟩
  · rw [placed.books, Call.creating, started]
    exact (Books.get?_enrol ..).trans (if_pos rfl)
  · rw [placed.books, Call.creating, started]
    exact bare

theorem ForgetsBeside.forgotten (beside : s.ForgetsBeside client h n m)
    (found : s.calls[n]? = some call) : ∃ pod, (s.step client m).books = s.books.forget h pod ∧
      (s.step client m).calls[n]? = some call := by
  obtain ⟨i, now, event, pod, other, rfl, forgets⟩ := beside
  refine ⟨pod, forgets.step.1, ?_⟩
  obtain ⟨j, now, event, c, result, same, here, -, -, -⟩ := forgets
  cases same
  rw [step_event here]
  have placed : Placed client s _ i _ :=
    placed_advanced here event ((Call.destroy c).resume client now s.books event)
  rw [placed.elsewhere n other.symm, found]

/-- As long as no other destruction forgets its handle, a call acts on the sandbox that it found
or registered; and one that is busy when that happens can be brought to act on another. -/
theorem own_sandbox_until_forgotten {pods : List Pod} {books : Books}
    (connected : Connected pods client books)
    (before : Reaches client (fun _ _ => True) { books } s) (taken : TakesUp client h key n s)
    (run : Reaches client (fun s m => ¬ s.ForgetsBeside client h n m) s t) :
    (∀ m, t.Admits client m → t.Touches client h n m → t.books.registry.get? h = some key) ∧
      ∀ m call, t.ForgetsBeside client h n m → t.calls[n]? = some call →
        call.isReturned = false → call.isWithdrawing = false → Handle.fault? h = none →
        ∃ u other, Reaches client (fun _ _ => True) (t.step client m) u ∧ other ≠ key ∧
          u.books.registry.get? h = some other ∧
          ∃ m, u.Admits client m ∧ u.Touches client h n m := by
  have onOwn : ∃ call, OnOwn h key n t call := by
    apply run.invariant (P := fun t => ∃ call, OnOwn h key n t call) taken.onOwn
    rintro t m ⟨call, own⟩ admitted kept
    exact own.step admitted kept
  have keyed : t.books.Keyed := by
    have start : Books.Keyed books := fun h key found =>
      (connected.recovered.entries h key found).1
    have whole := before.trans (run.mono fun _ _ _ => trivial)
    exact whole.invariant (P := fun t => t.books.Keyed) start
      fun t m keyed admitted _ => keyed_step keyed admitted
  obtain ⟨call, own⟩ := onOwn
  have registered (busy : call.isReturned = false) :
      call.isEngaged = true ∧ t.books.registry.get? h = some key := by
    rcases own.own with holds | returned
    · exact holds
    · rw [busy] at returned
      cases returned
  constructor
  · rintro m admitted ⟨⟨now, event, rfl⟩, -⟩
    exact (registered (busy_of_admits admitted own.found)).2
  · intro m other beside found busy asks valid
    cases own.found.symm.trans found
    obtain ⟨engaged, here⟩ := registered busy
    obtain ⟨pod, forgot, still⟩ := beside.forgotten own.found
    have free : (t.step client m).books.registry.get? h = none := by
      rw [forgot]
      exact Table.get?_erase_self ..
    have bare : (t.step client m).books.properties.spaces.get? h = none := by
      rw [forgot]
      exact Table.get?_erase_self ..
    have renewed := renewed_create client still own.handle valid free bare
    obtain ⟨u, later, taken, touches⟩ := renewed.exists_touch client engaged asks
    have begins : Reaches client (fun _ _ => True) (t.step client m)
        ((t.step client m).step client (.create (.plain h) 0)) := .step .start trivial trivial
    refine ⟨u, _, begins.trans later, ?_, taken, touches⟩
    rw [forgot]
    exact (keyed h key here).ne'

/-- The second of two destructions is busy when the first is about to forget the handle. -/
theorem second_destruction_reaches_new_sandbox : ∃ (client : Client) (books : Books),
    Connected [.publishing "web" 62000] client books ∧
      let s := ({ books } : Interleaving).step client (.destroy "web" 10)
      let t := s.step client (.destroy "web" 10)
      let m : Move := .event 1 0 (.answered (.deleted (.error (.notFound .pod "web"))))
      TakesUp client "web" 0 0 s ∧ t.ForgetsBeside client "web" 0 m ∧
        ∃ u other, Reaches client (fun _ _ => True) (t.step client m) u ∧ other ≠ 0 ∧
          u.books.registry.get? "web" = some other ∧
          ∃ m, u.Admits client m ∧ u.Touches client "web" 0 m := by
  have connected : ∃ client books, Connected [.publishing "web" 62000] client books ∧
      books.registry.get? "web" = some 0 := ⟨_, _, ⟨{}, "node", {}, [], rfl⟩, by decide⟩
  obtain ⟨client, books, connected, registered⟩ := connected
  refine ⟨client, books, connected, ?_⟩
  intro s t m
  have taken : TakesUp client "web" 0 0 s := .found rfl registered
  have started : DestroyCall.start books "web" 10 =
      { handle := "web", deadline := 10, stage := .deleting (books.sandbox 0).pod } := by
    simp only [DestroyCall.start, Books.lookup, Registry.get, registered]
  have beside : t.ForgetsBeside client "web" 0 m :=
    ⟨1, 0, _, (books.sandbox 0).pod, by decide, rfl, 1, 0, _,
      { handle := "web", deadline := 10, stage := .deleting (books.sandbox 0).pod }, .ok (), rfl,
      congrArg (some ∘ Call.destroy) started, rfl, rfl, rfl⟩
  have apart : ¬ s.ForgetsBeside client "web" 0 (.destroy "web" 10) := by
    intro forgets
    obtain ⟨_, _, _, _, _, same, _⟩ := forgets
    cases same
  have run : Reaches client (fun s m => ¬ s.ForgetsBeside client "web" 0 m) s t :=
    .step .start trivial apart
  have before : Reaches client (fun _ _ => True) { books } s := .step .start trivial trivial
  refine ⟨taken, beside, ?_⟩
  exact (own_sandbox_until_forgotten connected before taken run).2 m
    (.destroy { handle := "web", deadline := 10, stage := .deleting (books.sandbox 0).pod }) beside
    (congrArg (some ∘ Call.destroy) started) rfl rfl (by decide)

/-- Of two destructions the first ends while the second pauses, and the handle is taken again. -/
def overtakenDestruction : List Move := [
  .destroy "web" 10,
  .destroy "web" 10,
  .event 0 0 (.answered (.deleted (.ok ()))),
  .event 1 0 (.answered (.deleted (.ok ()))),
  .event 1 0 (.answered (.pod (.ok {}))),
  .event 0 0 (.answered (.pod (.error (.notFound .pod "web")))),
  .create { SandboxSpec.plain "web" with properties := .ofList [("owner", "tenant")] } 10,
  .event 2 0 (.answered (.pod (.ok {})))]

/-- A creation pauses while its sandbox is destroyed and the handle is taken again. -/
def overtakenCreation (deadline : Instant) : List Move := [
  .create (.plain "job") deadline,
  .event 0 0 (.answered (.pod (.ok {}))),
  .event 0 0 (.answered (.pod (.error (.notFound .pod "job")))),
  .destroy "job" 10,
  .event 1 0 (.answered (.deleted (.ok ()))),
  .event 1 0 (.answered (.pod (.error (.notFound .pod "job")))),
  .create (.plain "job") 10,
  .event 2 0 (.answered (.pod (.ok {})))]

/-- The creation that pauses wakes and finds the pod of the new sandbox. -/
def lateCreation : List Move := [
  .event 0 500000000 .woke,
  .event 0 500000000 (.answered (.pod (.ok { status := { phase := some .running } }))),
  .event 0 500000000 (.answered (.tasks (.ok {})))]

/-- A destruction forgets a sandbox that was made after its own was gone; a creation asks for the
pod of such a sandbox to be deleted, or marks it as created before it is. -/
theorem overtaken_calls_act_on_new_sandbox : ∃ (client : Client) (books : Books),
    Connected [.publishing "web" 62000] client books ∧
      (let s := overtakenDestruction.foldl (step client) { books }
       let t := s.step client (.event 1 10 .expired)
       Reaches client (fun _ _ => True) { books } t ∧ books.registry.get? "web" = some 0 ∧
        s.books.registry.get? "web" = some 1 ∧ t.books.registry.get? "web" = none ∧
        s.books.properties.get? "web" "owner" = some "tenant" ∧
        t.books.properties.get? "web" "owner" = none) ∧
      (let s := (overtakenCreation 10).foldl (step client) { books }
       let t := s.step client (.event 0 10 .expired)
       Reaches client (fun _ _ => True) { books } t ∧
        s.books.registry.get? "job" = some 2 ∧ s.Submitted 2 (s.books.sandbox 2).pod ∧
        t.asked = s.asked ++
          [(0, .cluster (.deletePod client.settings.podNamespace "job" (some 0)))]) ∧
      let s := (overtakenCreation 1000000000).foldl (step client) { books }
      let t := lateCreation.foldl (step client) s
      Reaches client (fun _ _ => True) { books } t ∧
        s.books.registry.get? "job" = some 2 ∧ t.books.registry.get? "job" = some 2 ∧
        s.books.properties.get? "job" Sandbox.stateProperty = none ∧
        t.books.properties.get? "job" Sandbox.stateProperty = some Sandbox.stateCreated := by
  refine ⟨_, _, ⟨{}, "node", {}, [], rfl⟩,
    ⟨?_, by decide, by decide, by decide, by decide, by decide⟩,
    ⟨?_, by decide, ?_, rfl⟩, ?_, by decide, by decide, by decide, by decide⟩
  · refine .step (Follows.reaches ?_ .start) ⟨_, rfl, rfl⟩ trivial
    exact ⟨trivial, trivial, trivial, trivial, ⟨_, rfl, rfl⟩, trivial, ⟨_, rfl, rfl⟩, trivial,
      ⟨_, rfl, rfl⟩, trivial, ⟨_, rfl, rfl⟩, trivial, trivial, trivial, ⟨_, rfl, rfl⟩, trivial,
      trivial⟩
  · refine .step (Follows.reaches ?_ .start) ⟨_, rfl, rfl⟩ trivial
    exact ⟨trivial, trivial, ⟨_, rfl, rfl⟩, trivial, ⟨_, rfl, rfl⟩, trivial, trivial, trivial,
      ⟨_, rfl, rfl⟩, trivial, ⟨_, rfl, rfl⟩, trivial, trivial, trivial, ⟨_, rfl, rfl⟩, trivial,
      trivial⟩
  · exact List.mem_of_getElem? (i := 4) rfl
  · refine Follows.reaches ?_ (Follows.reaches ?_ .start)
    · exact ⟨⟨_, rfl, rfl⟩, trivial, ⟨_, rfl, rfl⟩, trivial, ⟨_, rfl, rfl⟩, trivial, trivial⟩
    · exact ⟨trivial, trivial, ⟨_, rfl, rfl⟩, trivial, ⟨_, rfl, rfl⟩, trivial, trivial, trivial,
        ⟨_, rfl, rfl⟩, trivial, ⟨_, rfl, rfl⟩, trivial, trivial, trivial, ⟨_, rfl, rfl⟩, trivial,
        trivial⟩

end Interleaving
end SandboxPods
