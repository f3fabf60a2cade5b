import SandboxPods.Proofs.Client.Interleaving
import SandboxPods.Proofs.Handle

/-!
# Names of the pods that creations submit

A creation looks at its handle once, when it begins, and keeps it. So whatever other calls of the
client do beside it, every handle that comes to be registered has passed the check, and so has the
name of every pod that is submitted. The check is all that stands between a handle and the cluster:
each text that passes it can be registered and submitted where no sandbox has it already, those
that are no subdomains among them.
-/
namespace SandboxPods.Interleaving
variable {client : Client} {s t : Interleaving} {m : Move} {i : Nat} {known : String → Prop}

/-- Handles have passed the check, apart from those that were known before. -/
structure Checked (known : String → Prop) (s : Interleaving) : Prop where
  busy : ∀ (i : Nat) call, s.calls[i]? = some (.create call) →
    (Call.create call).isReturned = false → Handle.fault? call.spec.handle = none
  registered : ∀ h, s.books.registry.get? h ≠ none → known h ∨ Handle.fault? h = none
  submitted : ∀ i pod, s.Submitted i pod → Handle.fault? pod.name = none

theorem Checked.placed {r : Books × Call} (before : s.Checked known)
    (placed : Placed client s t i r)
    (busy : ∀ call, r.2 = .create call → r.2.isReturned = false →
      Handle.fault? call.spec.handle = none)
    (registered : ∀ h, r.1.registry.get? h ≠ none →
      s.books.registry.get? h ≠ none ∨ Handle.fault? h = none)
    (submitted : ∀ pod, (r.2.awaiting client r.1).ask? = some (.cluster (.createPod pod)) →
      Handle.fault? pod.name = none) : t.Checked known := by
  refine ⟨?_, ?_, ?_⟩
  · intro j call found working
    by_cases here : j = i
    · rw [here, placed.here] at found
      have same : r.2 = .create call := Option.some.inj found
      exact busy call same (same ▸ working)
    · exact before.busy j call (placed.elsewhere j here ▸ found) working
  · intro h found
    rw [placed.books] at found
    rcases registered h found with old | sound
    · exact before.registered h old
    · exact .inr sound
  · intro j pod sent
    unfold Submitted at sent
    rw [placed.asked] at sent
    rcases List.mem_append.1 sent with old | new
    · exact before.submitted j pod old
    · exact submitted pod (mem_question new).2

/-- A creation that holds a claim, once its handle has passed the check. -/
theorem Checked.claiming {books : Books} {call : CreateCall} {claim : PortClaim}
    {r : Books × CreateCall} (before : s.Checked known)
    (moved : CreateCall.Claiming client books call claim r)
    (same : books.registry = s.books.registry) (sound : Handle.fault? call.spec.handle = none)
    (placed : Placed client s t i (r.1, .create r.2)) : t.Checked known := by
  apply before.placed placed
  · intro after eq _
    cases eq
    rw [moved.spec_eq]
    exact sound
  · intro h found
    cases moved with
    | keeps holds => exact .inl (same ▸ found)
    | abandons e => exact .inl (same ▸ found)
    | registers image env rootfsSize free =>
        change (books.enrol _ _).registry.get? h ≠ none at found
        rw [Books.get?_enrol] at found
        split at found
        · next here => exact .inr (here ▸ sound)
        · exact .inl (same ▸ found)
  · intro pod asks
    cases moved with
    | keeps holds => cases CreateCall.silent_of_claim holds asks
    | abandons e => cases asks
    | registers image env rootfsSize free =>
        rw [Call.awaiting, CreateCall.ask?_submitting rfl, Books.sandbox_enrol_self] at asks
        cases asks
        exact sound

theorem Checked.step (before : s.Checked known) (admitted : s.Admits client m) :
    (s.step client m).Checked known := by
  cases m with
  | create spec deadline =>
      have starting := CreateCall.start_starting client s.books spec deadline
      obtain ⟨r, eq⟩ : ∃ r, CreateCall.start client s.books spec deadline = r := ⟨_, rfl⟩
      have placed : Placed client s (s.step client (.create spec deadline)) s.calls.length
          (r.1, .create r.2) := eq ▸ placed_begun _
      rw [eq] at starting
      cases checked : Handle.fault? spec.handle with
      | some fault =>
          obtain rfl := eq.symm.trans (CreateCall.start_faulty checked client s.books deadline)
          refine before.placed placed ?_ (fun h => .inl) (fun pod asks => nomatch asks)
          intro call same busy
          cases busy
      | none =>
          cases starting with
          | refused e =>
              refine before.placed placed ?_ (fun h => .inl) (fun pod asks => nomatch asks)
              intro call same busy
              cases busy
          | claims free made moved => exact before.claiming moved rfl checked placed
  | destroy handle deadline =>
      exact before.placed (placed_begun _) (fun call same => nomatch same) (fun h => .inl)
        (fun pod asks => (DestroyCall.no_submission pod asks).elim)
  | event i now event =>
      cases stepped admitted with
      | starts eq => cases eq
      | looks eq => cases eq
      | @claiming j _ _ call claim r eq found holds moved placed =>
          cases eq
          exact before.claiming moved rfl
            (before.busy i call found (Call.busy_of_claim? holds)) placed
      | @attending j _ _ call key r eq found holds moved placed =>
          cases eq
          refine before.placed placed ?_ ?_ ?_
          · intro after same _
            cases same
            rw [moved.spec_eq]
            exact before.busy i call found (Call.busy_of_key? holds)
          · intro h registered
            exact .inl (moved.registry_eq ▸ registered)
          · intro pod asks
            exact (moved.no_submission client r.1 pod asks).elim
      | @deleting j _ _ call pod r eq found holds moved resumed placed =>
          cases eq
          refine before.placed placed (fun call same => nomatch same) ?_ ?_
          · intro h registered
            left
            cases moved with
            | waits same later => exact registered
            | fails e first refused => exact registered
            | forgets result =>
                obtain ⟨key, here⟩ := Option.ne_none_iff_exists'.1 registered
                rw [(Books.get?_forget_of_some here).2]
                exact Option.some_ne_none key
          · exact fun pod asks => (DestroyCall.no_submission pod asks).elim

theorem Reaches.checked {allowed : Interleaving → Move → Prop} {books : Books}
    (run : Reaches client allowed { books } t) :
    t.Checked fun h => books.registry.get? h ≠ none := by
  apply run.invariant
  · refine ⟨?_, fun h => .inl, ?_⟩
    · intro i call found
      cases found
    · intro i pod sent
      cases sent
  · exact fun s m before admitted _ => before.step admitted

/-- Some creation that is begun now registers the handle at once and submits a pod of that name. -/
def Submittable (client : Client) (s : Interleaving) (h : String) : Prop :=
  ∃ spec : SandboxSpec, spec.handle = h ∧ ∀ deadline,
    (s.step client (.create spec deadline)).books.registry.get? h = some s.books.sandboxes.length ∧
      ∃ pod, pod.name = h ∧ (s.step client (.create spec deadline)).Submitted s.calls.length pod

/-- Nothing but the check keeps a free handle from the cluster. -/
theorem submittable_iff {h : String} (free : s.books.registry.get? h = none) :
    s.Submittable client h ↔ Handle.IsAccepted h := by
  rw [Handle.isAccepted_iff]
  constructor
  · intro submittable
    obtain ⟨spec, rfl, registers⟩ := submittable
    cases checked : Handle.fault? spec.handle with
    | none => rfl
    | some fault =>
        have registered := (registers 0).1
        change (CreateCall.start client s.books spec 0).1.registry.get? _ = _ at registered
        rw [CreateCall.start_faulty checked, free] at registered
        cases registered
  · intro sound
    let spec : SandboxSpec := { handle := h, image := .ofUri "rootfs" }
    refine ⟨spec, rfl, fun deadline => ?_⟩
    have unknown : s.books.registry.contains spec.handle = false := by
      rw [Table.contains, free]
      rfl
    have preloaded : ImageSource.parse "rootfs" = .ok (.preloaded "rootfs") := by decide
    obtain ⟨r, eq⟩ : ∃ r, CreateCall.start client s.books spec deadline = r := ⟨_, rfl⟩
    have starts : CreateCall.start client s.books spec deadline = _ :=
      CreateCall.start_preloaded sound unknown (PortClaim.make_nil s.books.ports) preloaded
    have placed : Placed client s (s.step client (.create spec deadline)) s.calls.length
        (r.1, .create r.2) := eq ▸ placed_begun _
    obtain rfl := eq.symm.trans starts
    refine ⟨?_, _, ?_, placed.submitted_now rfl⟩
    · rw [placed.books, Books.get?_enrol]
      exact if_pos rfl
    · rw [Books.sandbox_enrol_self]
      rfl

/-- Creations submit pods under the names that the check lets pass, and of these the cluster can
take those in which no full stop stands beside another one or beside a hyphen. -/
theorem submitted_names {allowed : Interleaving → Move → Prop} {books : Books}
    (run : Reaches client allowed { books } t) :
    (∀ s, Handle.IsSubdomain s ↔ Handle.IsAccepted s ∧ Handle.StopsInside s.toList) ∧
      (∀ i pod, t.Submitted i pod → Handle.IsAccepted pod.name) ∧
      (∀ h, t.books.registry.get? h ≠ none →
        books.registry.get? h ≠ none ∨ Handle.IsAccepted h) ∧
      ∀ h, t.books.registry.get? h = none →
        (t.Submittable client h ↔ Handle.IsAccepted h) := by
  have checked := run.checked
  refine ⟨fun _ => Handle.isSubdomain_iff, ?_, ?_, fun _ free => submittable_iff free⟩
  · exact fun i pod sent => Handle.isAccepted_iff.2 (checked.submitted i pod sent)
  · exact fun h found => (checked.registered h found).imp_right Handle.isAccepted_iff.2

/-- While a sandbox is registered, a name with an empty label can be submitted all the same. -/
theorem empty_label_submittable :
    let client : Client := ⟨{}, "node", {}⟩
    let t := step client { books := {} } (.create { handle := "web", image := .ofUri "rootfs" } 10)
    Reaches client (fun _ _ => True) { books := {} } t ∧ t.books.registry.get? "web" = some 0 ∧
      (t.Submittable client "a..b" ∧ ¬ Handle.IsSubdomain "a..b") ∧
      ¬ t.Submittable client "a." := by
  intro client t
  have run : Reaches client (fun _ _ => True) { books := {} } t :=
    .step (m := .create _ _) .start trivial trivial
  obtain ⟨subdomain, -, -, submittable⟩ := submitted_names run
  refine ⟨run, by decide, ⟨(submittable "a..b" (by decide)).2 (by decide), ?_⟩, ?_⟩
  · rw [subdomain]
    decide
  · rw [submittable "a." (by decide)]
    decide

/-- The check lets names pass that the cluster refuses: with an empty label, or with a label that
begins or ends with a hyphen. A creation submits a pod of such a name. -/
theorem refused_names_submitted :
    (Handle.IsAccepted "a..b" ∧ ¬ Handle.IsSubdomain "a..b") ∧
      (Handle.IsAccepted "a.-b" ∧ ¬ Handle.IsSubdomain "a.-b") ∧
      (Handle.IsAccepted "a-.b" ∧ ¬ Handle.IsSubdomain "a-.b") ∧
      let spec : SandboxSpec := { handle := "a..b", image := .ofUri "rootfs" }
      let t := step ⟨{}, "node", {}⟩ { books := {} } (.create spec 10)
      t.books.registry.get? "a..b" = some 0 ∧ ∃ pod, pod.name = "a..b" ∧ t.Submitted 0 pod := by
  simp only [Handle.isSubdomain_iff]
  refine ⟨by decide, by decide, by decide, by decide, _, ?_, List.mem_singleton.2 rfl⟩
  rfl

end SandboxPods.Interleaving
