import SandboxPods.Proofs.Client.Restart

/-!
# What a listing shows

A listing goes over the registered sandboxes and looks into the key space of each one's handle. A
key space comes into being as a sandbox is registered or taken up at the connection, it is
marked when the creation succeeds, and it is gone with the sandbox. So the mark tells how the
creation of the very sandbox ended, even where a handle is used again, as long as a
destruction shares no time with another call on its handle and no description sets the mark
itself.
-/
namespace SandboxPods

/-! ## One listing -/

namespace Books
variable {b : Books} {key : Nat}

/-- Each registered position is that of a sandbox which goes by the handle. -/
def Named (b : Books) : Prop := ∀ h key, b.registry.get? h = some key →
  key < b.sandboxes.length ∧ (b.sandbox key).handle = h

/-- The sandbox is registered, and the properties of its handle have every entry of the filter. -/
def Fits (b : Books) (filter : Properties) (key : Nat) : Prop :=
  ∃ h, b.registry.get? h = some key ∧
    ∀ name value, filter.get? name = some value → b.properties.get? h name = some value

theorem mem_sandboxesMatching (named : b.Named) (filter : Properties) :
    key ∈ b.sandboxesMatching filter ↔ b.Fits (effectiveFilter filter) key := by
  rw [sandboxesMatching, List.mem_filter, Table.mem_values]
  constructor
  · intro listed
    obtain ⟨⟨h, registered⟩, fits⟩ := listed
    rw [(named h key registered).2] at fits
    exact ⟨h, registered, Table.includes_iff.1 fits⟩
  · intro fits
    obtain ⟨h, registered, all⟩ := fits
    refine ⟨⟨h, registered⟩, ?_⟩
    rw [(named h key registered).2]
    exact Table.includes_iff.2 all

/-- No two handles stand for one sandbox, so none is listed twice. -/
theorem nodup_sandboxesMatching (named : b.Named) (filter : Properties) :
    (b.sandboxesMatching filter).Nodup := by
  refine List.Nodup.filter _ ?_
  have ascending : b.registry.entries.Pairwise fun e f => e.1 < f.1 := b.registry.ascending
  rw [Table.values, List.Nodup, List.pairwise_map]
  refine ascending.imp_of_mem ?_
  intro e f first second lt same
  have handle := (named e.1 e.2 (Table.mem_entries.1 first)).2
  rw [same, (named f.1 f.2 (Table.mem_entries.1 second)).2] at handle
  exact String.ne_of_lt lt handle.symm

variable {filter : Properties}

/-- A filter without a state asks for the mark as well. -/
theorem fits_stateless (stateless : filter.get? Sandbox.stateProperty = none) :
    b.Fits (effectiveFilter filter) key ↔ ∃ h, b.registry.get? h = some key ∧
      b.properties.get? h Sandbox.stateProperty = some Sandbox.stateCreated ∧
      ∀ name value, filter.get? name = some value → b.properties.get? h name = some value := by
  rw [effectiveFilter, stateless]
  constructor
  · intro fits
    obtain ⟨h, registered, all⟩ := fits
    refine ⟨h, registered, all _ _ (Table.get?_insert_self ..), ?_⟩
    intro name value asked
    have other : name ≠ Sandbox.stateProperty := by
      intro same
      rw [same, stateless] at asked
      cases asked
    exact all name value ((Table.get?_insert_ne filter _ other).trans asked)
  · intro fits
    obtain ⟨h, registered, marked, all⟩ := fits
    refine ⟨h, registered, ?_⟩
    intro name value asked
    rw [Table.get?_insert] at asked
    split at asked
    · rename_i same
      rw [same, marked, asked]
    · exact all name value asked

/-- The state that stands for every state asks for nothing. -/
theorem effectiveFilter_all (stateless : filter.get? Sandbox.stateProperty = none) :
    effectiveFilter (filter.insert Sandbox.stateProperty Sandbox.stateAll) = filter := by
  have any : (filter.insert Sandbox.stateProperty Sandbox.stateAll).get? Sandbox.stateProperty =
      some Sandbox.stateAll := Table.get?_insert_self ..
  rw [effectiveFilter, any]
  exact Table.erase_insert _ stateless

/-! ## Changes of the books -/

theorem Named.enrol (h : b.Named) (x : Sandbox) (properties : Properties) :
    (b.enrol x properties).Named := by
  intro k key found
  rw [get?_enrol] at found
  change key < (b.sandboxes ++ [x]).length ∧ _
  rw [List.length_append, List.length_singleton]
  by_cases same : k = x.handle
  · rw [if_pos same] at found
    cases found
    rw [sandbox_enrol_self]
    exact ⟨by omega, same.symm⟩
  · rw [if_neg same] at found
    obtain ⟨lt, handle⟩ := h k key found
    rw [sandbox_enrol lt]
    exact ⟨by omega, handle⟩

theorem Named.forget (h : b.Named) (handle : String) (pod : Pod) : (b.forget handle pod).Named :=
  fun k key found => h k key (get?_forget_of_some found).2

theorem Named.modify (h : b.Named) (key : Nat) {f : Sandbox → Sandbox}
    (kept : ∀ x, (f x).handle = x.handle) : (b.modify key f).Named := by
  intro k other found
  obtain ⟨lt, handle⟩ := h k other found
  rw [length_modify]
  refine ⟨lt, ?_⟩
  by_cases same : key = other
  · subst same
    rw [sandbox_modify_self lt, kept, handle]
  · rw [sandbox_modify_ne same, handle]

end Books

/-! ## After the connection -/

/-- Only registered handles have properties, and the mark of each tells whether its sandbox is one
of those that are done. -/
structure Books.Marked (done : Nat → Prop) (b : Books) : Prop where
  known : b.Known
  named : b.Named
  created : ∀ h key, b.registry.get? h = some key → done key →
    b.properties.get? h Sandbox.stateProperty = some Sandbox.stateCreated
  uncreated : ∀ h key, b.registry.get? h = some key → ¬ done key →
    b.properties.get? h Sandbox.stateProperty = none

namespace Books.Marked
variable {b : Books} {done : Nat → Prop} {handle : String} {key : Nat}

theorem congr {other : Nat → Prop} (h : b.Marked done) (same : ∀ key, other key ↔ done key) :
    b.Marked other := by
  have eq : other = done := funext fun key => propext (same key)
  exact eq ▸ h

/-- A sandbox that has just been registered has no mark. -/
theorem enrol (h : b.Marked done) {x : Sandbox} {properties : Properties}
    (free : b.registry.get? x.handle = none)
    (stateless : properties.get? Sandbox.stateProperty = none)
    (fresh : ¬ done b.sandboxes.length) : (b.enrol x properties).Marked done := by
  have own : (b.enrol x properties).properties.all x.handle = properties :=
    PropertyStore.all_setAll (h.known.all_eq free)
  have away {k : String} (other : k ≠ x.handle) :
      (b.enrol x properties).properties.all k = b.properties.all k :=
    PropertyStore.all_setAll_ne _ _ other
  refine ⟨h.known.enrol x properties, h.named.enrol x properties, ?_, ?_⟩
  · intro k key found isDone
    rw [get?_enrol] at found
    rw [PropertyStore.get?]
    by_cases same : k = x.handle
    · rw [if_pos same] at found
      cases found
      exact (fresh isDone).elim
    · rw [if_neg same] at found
      rw [away same]
      exact h.created k key found isDone
  · intro k key found undone
    rw [get?_enrol] at found
    rw [PropertyStore.get?]
    by_cases same : k = x.handle
    · rw [same, own, stateless]
    · rw [if_neg same] at found
      rw [away same]
      exact h.uncreated k key found undone

/-- A creation up to the registration of its sandbox. -/
theorem claiming (h : b.Marked done) {client : Client} {call : CreateCall} {claim : PortClaim}
    {r : Books × CreateCall} (moved : CreateCall.Claiming client b call claim r)
    (stateless : call.spec.properties.get? Sandbox.stateProperty = none)
    (fresh : ¬ done b.sandboxes.length) : r.1.Marked done := by
  cases moved with
  | keeps holds => exact h
  | abandons e => exact ⟨h.known, h.named, h.created, h.uncreated⟩
  | registers image env rootfsSize free =>
      exact h.enrol (Table.get?_eq_none free) stateless fresh

theorem modify (h : b.Marked done) (key : Nat) {f : Sandbox → Sandbox}
    (kept : ∀ x, (f x).handle = x.handle) : (b.modify key f).Marked done :=
  ⟨h.known, h.named.modify key kept, h.created, h.uncreated⟩

/-- A sandbox that is done gets its mark. -/
theorem complete (h : b.Marked done) (registered : b.registry.get? handle = some key) :
    (b.setProperty handle Sandbox.stateProperty Sandbox.stateCreated).Marked
      fun k => done k ∨ k = key := by
  have own : (b.setProperty handle Sandbox.stateProperty Sandbox.stateCreated).properties.get?
      handle Sandbox.stateProperty = some Sandbox.stateCreated := by
    rw [PropertyStore.get?, setProperty, PropertyStore.all_set, Table.get?_insert_self]
  have away {k : String} (other : k ≠ handle) :
      (b.setProperty handle Sandbox.stateProperty Sandbox.stateCreated).properties.get? k
        Sandbox.stateProperty = b.properties.get? k Sandbox.stateProperty := by
    rw [PropertyStore.get?, setProperty, PropertyStore.all_set_ne _ _ _ other]
    rfl
  have known : b.registry.get? handle ≠ none := by
    rw [registered]
    exact Option.some_ne_none key
  refine ⟨h.known.setProperty known _ _, h.named, ?_, ?_⟩
  · intro k other found isDone
    by_cases same : k = handle
    · rw [same, own]
    · rw [away same]
      refine h.created k other found (isDone.resolve_right ?_)
      intro also
      have name := (h.named k other found).2
      rw [also, (h.named handle key registered).2] at name
      exact same name.symm
  · intro k other found undone
    have ne : k ≠ handle := by
      intro same
      have here : b.registry.get? k = some other := found
      rw [same, registered] at here
      exact undone (.inr (Option.some.inj here).symm)
    rw [away ne]
    exact h.uncreated k other found fun isDone => undone (.inl isDone)

theorem forget (h : b.Marked done) (handle : String) (pod : Pod) :
    (b.forget handle pod).Marked done := by
  have away {k : String} (other : k ≠ handle) :
      (b.forget handle pod).properties.get? k Sandbox.stateProperty =
        b.properties.get? k Sandbox.stateProperty := by
    have space : (b.properties.destroy handle).spaces.get? k = b.properties.spaces.get? k :=
      Table.get?_erase_ne _ other
    change ((((b.properties.destroy handle).spaces.get? k).getD {}).get? _) = _
    rw [space]
    rfl
  refine ⟨h.known.forget handle pod, h.named.forget handle pod, ?_, ?_⟩
  · intro k key found isDone
    obtain ⟨other, before⟩ := get?_forget_of_some found
    rw [away other]
    exact h.created k key before isDone
  · intro k key found undone
    obtain ⟨other, before⟩ := get?_forget_of_some found
    rw [away other]
    exact h.uncreated k key before undone

end Books.Marked

namespace ConnectCall
variable {taken : List Pod} {pod : Pod} {books after : Books} {tasks : Tasks}

/-- The sandboxes go by the names of their pods and are marked as created. -/
structure Listed (taken : List Pod) (books : Books) : Prop extends Recovered taken books where
  handle : ∀ h key, books.registry.get? h = some key → (books.sandbox key).handle = h
  created : ∀ h key, books.registry.get? h = some key →
    books.properties.get? h Sandbox.stateProperty = some Sandbox.stateCreated

theorem listed_empty : Listed [] {} := by
  refine ⟨recovered_empty, ?_, ?_⟩
  · intro h key found
    cases found
  · intro h key found
    cases found

theorem Listed.adopt (h : Listed taken books)
    (ok : adopt (note books pod) pod tasks = .ok after) : Listed (taken ++ [pod]) after := by
  have recovered := h.toRecovered.adopt ok
  have handle := h.handle_adopted ok h.handle
  have entry := h.entry_adopted ok
  obtain ⟨free, rfl⟩ := adopt_ok ok
  refine ⟨recovered, handle, ?_⟩
  intro k key found
  change ((note books pod).properties.all k).get? _ = _
  rcases entry k key found with ⟨rfl, -, -⟩ | ⟨other, before, -⟩
  · rw [all_note (h.known.all_eq (Table.get?_eq_none free))]
    exact get?_noted_state pod
  · rw [all_note_ne other]
    exact h.created k key before

end ConnectCall

/-- Every sandbox that was taken up is done. -/
theorem Connected.marked {pods : List Pod} {client : Client} {books : Books}
    (h : Connected pods client books) :
    books.Marked fun key => ∃ h, books.registry.get? h = some key := by
  have listed : ConnectCall.Listed pods books :=
    h.invariant ConnectCall.listed_empty fun _ _ _ _ _ listed adopted => listed.adopt adopted
  refine ⟨listed.known, ?_, ?_, ?_⟩
  · intro h key found
    exact ⟨(listed.entries h key found).1, listed.handle h key found⟩
  · intro h key found _
    exact listed.created h key found
  · intro h key found undone
    exact (undone ⟨h, found⟩).elim

/-! ## Runs -/

namespace Interleaving
variable {client : Client} {s t : Interleaving} {m : Move} {n : Nat} {taken : Nat → Prop}

/-- A sandbox is done when it was taken up at the connection or returned by its creation. -/
def Done (taken : Nat → Prop) (s : Interleaving) (key : Nat) : Prop :=
  taken key ∨ ∃ call, .create call ∈ s.calls ∧ call.stage = .finished (.ok key)

/-- A creation does not set the mark in its description. -/
def Stateless (_ : Interleaving) : Move → Prop
  | .create spec _ => spec.properties.get? Sandbox.stateProperty = none
  | _ => True

theorem Sequential.separates (h : s.Sequential m) : s.Separates m := by
  cases m with
  | create spec deadline => exact fun call member _ => h _ member
  | destroy handle deadline => exact fun call member _ => h call member
  | event n now event => trivial

/-- A destruction on its way shares its handle with no other call on its way. -/
def Spaced (s : Interleaving) : Prop := ∀ (i j : Nat) (call : DestroyCall) (other : Call),
  i ≠ j → s.calls[i]? = some (.destroy call) → s.calls[j]? = some other →
  other.handle = call.handle → (Call.destroy call).isReturned = true ∨ other.isReturned = true

theorem Spaced.placed {r : Books × Call} (h : s.Spaced) (placed : Placed client s t n r)
    (mine : ∀ (call : DestroyCall) (j : Nat) (other : Call), r.2 = .destroy call → j ≠ n →
      s.calls[j]? = some other → other.handle = call.handle → other.isReturned = true)
    (theirs : ∀ (i : Nat) (call : DestroyCall), i ≠ n → s.calls[i]? = some (.destroy call) →
      r.2.handle = call.handle → (Call.destroy call).isReturned = true) : t.Spaced := by
  intro i j call other apart first second same
  by_cases hi : i = n
  · subst hi
    rw [placed.elsewhere j (Ne.symm apart)] at second
    have moved := Option.some.inj (placed.here.symm.trans first)
    exact .inr (mine call j other moved (Ne.symm apart) second same)
  · rw [placed.elsewhere i hi] at first
    by_cases hj : j = n
    · subst hj
      have moved := Option.some.inj (placed.here.symm.trans second)
      exact .inl (theirs i call hi first (moved ▸ same))
    · rw [placed.elsewhere j hj] at second
      exact h i j call other apart first second same

/-- A call that goes on keeps its handle. -/
theorem Spaced.goesOn {r : Books × Call} {before : Call} (h : s.Spaced)
    (placed : Placed client s t n r) (found : s.calls[n]? = some before)
    (busy : before.isReturned = false) (handle : r.2.handle = before.handle)
    (kind : ∀ call, r.2 = .destroy call → ∃ old, before = .destroy old) : t.Spaced := by
  apply h.placed placed
  · intro call j other moved hj hother same
    obtain ⟨old, rfl⟩ := kind call moved
    rw [moved] at handle
    rcases h n j old other hj.symm found hother (same.trans handle) with done | done
    · rw [done] at busy
      cases busy
    · exact done
  · intro i call hi hcall same
    rcases h i n call before hi hcall found (handle.symm.trans same) with done | done
    · exact done
    · rw [done] at busy
      cases busy

/-- Every registered sandbox has its mark if it is done, and a creation on its way still has its
sandbox under its handle. -/
structure Tracked (taken : Nat → Prop) (s : Interleaving) : Prop where
  marked : s.books.Marked (s.Done taken)
  bound : ∀ key, s.Done taken key → key < s.books.sandboxes.length
  stateless : ∀ call, .create call ∈ s.calls →
    call.spec.properties.get? Sandbox.stateProperty = none
  live : ∀ (i : Nat) (call : CreateCall) (key : Nat), s.calls[i]? = some (.create call) →
    call.key? = some key → s.books.registry.get? call.spec.handle = some key
  spaced : s.Spaced

/-- The call is a creation that has returned the sandbox. -/
def Finishes (call : Call) (key : Nat) : Prop :=
  ∃ creation, call = .create creation ∧ creation.stage = .finished (.ok key)

theorem returned_of_finishes {call : Call} {key : Nat} (h : Finishes call key) :
    call.isReturned = true := by
  obtain ⟨⟨spec, deadline, stage⟩, rfl, rfl⟩ := h
  rfl

/-- A call that had not returned adds at most the sandbox that it returns now. -/
theorem done_placed {r : Books × Call} (placed : Placed client s t n r)
    (busy : ∀ before, s.calls[n]? = some before → before.isReturned = false) (key : Nat) :
    t.Done taken key ↔ s.Done taken key ∨ Finishes r.2 key := by
  constructor
  · intro isDone
    rcases isDone with known | ⟨call, member, finished⟩
    · exact .inl (.inl known)
    · obtain ⟨i, found⟩ := List.mem_iff_getElem?.1 member
      by_cases hi : i = n
      · subst hi
        have moved := Option.some.inj (placed.here.symm.trans found)
        exact .inr ⟨call, moved, finished⟩
      · rw [placed.elsewhere i hi] at found
        exact .inl (.inr ⟨call, List.mem_of_getElem? found, finished⟩)
  · intro isDone
    rcases isDone with (known | ⟨call, member, finished⟩) | ⟨call, moved, finished⟩
    · exact .inl known
    · obtain ⟨i, found⟩ := List.mem_iff_getElem?.1 member
      have hi : i ≠ n := by
        rintro rfl
        have finishes : Finishes (.create call) key := ⟨call, rfl, finished⟩
        have returned := returned_of_finishes finishes
        rw [busy _ found] at returned
        cases returned
      rw [← placed.elsewhere i hi] at found
      exact .inr ⟨call, List.mem_of_getElem? found, finished⟩
    · exact .inr ⟨call, List.mem_of_getElem? (moved ▸ placed.here), finished⟩

theorem unbegun (before : Call) (here : s.calls[s.calls.length]? = some before) :
    before.isReturned = false := by
  rw [List.getElem?_eq_none (Nat.le_refl _)] at here
  cases here

/-- Only the call at the position of the move needs to be looked at again. -/
theorem Tracked.placed {r : Books × Call} (h : s.Tracked taken) (placed : Placed client s t n r)
    (busy : ∀ before, s.calls[n]? = some before → before.isReturned = false)
    (marked : r.1.Marked fun key => s.Done taken key ∨ Finishes r.2 key)
    (longer : s.books.sandboxes.length ≤ r.1.sandboxes.length)
    (bound : ∀ key, Finishes r.2 key → key < r.1.sandboxes.length)
    (stateless : ∀ call, r.2 = .create call →
      call.spec.properties.get? Sandbox.stateProperty = none)
    (others : ∀ (j : Nat) (call : CreateCall) (key : Nat), j ≠ n →
      s.calls[j]? = some (.create call) → call.key? = some key →
      s.books.registry.get? call.spec.handle = some key →
      r.1.registry.get? call.spec.handle = some key)
    (own : ∀ call key, r.2 = .create call → call.key? = some key →
      r.1.registry.get? call.spec.handle = some key)
    (spaced : t.Spaced) : t.Tracked taken := by
  have same : ∀ key, t.Done taken key ↔ s.Done taken key ∨ Finishes r.2 key :=
    done_placed placed busy
  have mine {call : CreateCall} (found : t.calls[n]? = some (.create call)) :
      r.2 = .create call := Option.some.inj (placed.here.symm.trans found)
  refine ⟨?_, ?_, ?_, ?_, spaced⟩
  · rw [placed.books]
    exact marked.congr same
  · intro key isDone
    rw [placed.books]
    rcases (same key).1 isDone with before | now
    · exact Nat.lt_of_lt_of_le (h.bound key before) longer
    · exact bound key now
  · intro call member
    obtain ⟨i, found⟩ := List.mem_iff_getElem?.1 member
    by_cases hi : i = n
    · subst hi
      exact stateless call (mine found)
    · rw [placed.elsewhere i hi] at found
      exact h.stateless call (List.mem_of_getElem? found)
  · intro i call key found holds
    rw [placed.books]
    by_cases hi : i = n
    · subst hi
      exact own call key (mine found) holds
    · rw [placed.elsewhere i hi] at found
      exact others i call key hi found holds (h.live i call key found holds)

/-- A call that is begun without any change of the books. -/
theorem Tracked.begun {call : Call} (h : s.Tracked taken)
    (placed : Placed client s t s.calls.length (s.books, call))
    (unfinished : ∀ key, ¬ Finishes call key)
    (creation : ∀ created, call = .create created →
      created.spec.properties.get? Sandbox.stateProperty = none ∧ created.key? = none)
    (spaced : t.Spaced) : t.Tracked taken := by
  apply h.placed placed unbegun
  · exact h.marked.congr fun key => or_iff_left (unfinished key)
  · exact Nat.le_refl _
  · intro key now
    exact (unfinished key now).elim
  · exact fun created same => (creation created same).1
  · exact fun _ _ _ _ _ _ registered => registered
  · intro created key same holds
    rw [(creation created same).2] at holds
    cases holds
  · exact spaced

/-- A creation up to the registration of its sandbox. -/
theorem Tracked.claiming {ports : PortPool} {call : CreateCall} {claim : PortClaim}
    {r : Books × CreateCall} (h : s.Tracked taken)
    (moved : CreateCall.Claiming client { s.books with ports } call claim r)
    (placed : Placed client s t n (r.1, .create r.2))
    (busy : ∀ before, s.calls[n]? = some before → before.isReturned = false)
    (stateless : call.spec.properties.get? Sandbox.stateProperty = none)
    (spaced : t.Spaced) : t.Tracked taken := by
  have unfinished : ∀ key, ¬ Finishes (.create r.2) key := by
    rintro key ⟨_, ⟨⟩, finished⟩
    cases moved with
    | keeps holds =>
        rw [CreateCall.claim?, finished] at holds
        cases holds
    | abandons e => cases finished
    | registers image env rootfsSize free => cases finished
  have claimed : ({ s.books with ports } : Books).Marked (s.Done taken) :=
    ⟨h.marked.known, h.marked.named, h.marked.created, h.marked.uncreated⟩
  have fresh : ¬ s.Done taken s.books.sandboxes.length :=
    fun isDone => Nat.lt_irrefl _ (h.bound _ isDone)
  apply h.placed placed busy
  · exact (claimed.claiming moved stateless fresh).congr fun key => or_iff_left (unfinished key)
  · cases moved with
    | keeps holds => exact Nat.le_refl _
    | abandons e => exact Nat.le_refl _
    | registers image env rootfsSize free => simp [Books.enrol]
  · intro key now
    exact (unfinished key now).elim
  · rintro _ ⟨⟩
    rw [moved.spec_eq]
    exact stateless
  · intro j other key _ _ _ registered
    exact registry_claiming moved registered
  · rintro _ key ⟨⟩ holds
    rw [moved.spec_eq, (moved.registered holds).registry, Table.get?_insert_self]
  · exact spaced

/-- A creation that attends to its sandbox. -/
theorem Tracked.attending {call : CreateCall} {key : Nat} {event : Event} {r : Books × CreateCall}
    (h : s.Tracked taken) (found : s.calls[n]? = some (.create call))
    (holds : call.key? = some key) (moved : CreateCall.Attending s.books call key event r)
    (placed : Placed client s t n (r.1, .create r.2)) : t.Tracked taken := by
  have busy := Call.busy_of_key? holds
  have registered := h.live n call key found holds
  have spec := moved.spec_eq
  have spaced : t.Spaced := by
    apply h.spaced.goesOn placed found busy
    · exact congrArg SandboxSpec.handle spec
    · rintro _ ⟨⟩
  have same := moved.registry_eq
  have known := h.marked.named call.spec.handle key registered
  apply h.placed placed
  · intro before here
    cases found.symm.trans here
    exact busy
  · cases moved with
    | waits again later =>
        refine h.marked.congr fun k => or_iff_left ?_
        rintro ⟨_, ⟨⟩, finished⟩
        rw [CreateCall.key?, finished] at again
        cases again
    | @sees stage pod told again later =>
        have read := h.marked.modify key (f := fun x => { x with pod }) fun _ => rfl
        refine read.congr fun k => or_iff_left ?_
        rintro ⟨_, ⟨⟩, finished⟩
        rw [CreateCall.key?, finished] at again
        cases again
    -- The mark is set in the move in which the creation returns the sandbox.
    | completes tasks =>
        have tended := h.marked.modify key (f := fun x => { x with tasks }) fun _ => rfl
        refine (tended.complete registered).congr fun k => or_congr_right ?_
        constructor
        · rintro ⟨_, ⟨⟩, finished⟩
          cases finished
          rfl
        · rintro rfl
          exact ⟨_, rfl, rfl⟩
    | fails e =>
        refine h.marked.congr fun k => or_iff_left ?_
        rintro ⟨_, ⟨⟩, finished⟩
        cases finished
  · exact moved.length_eq.ge
  · rintro k ⟨_, ⟨⟩, finished⟩
    rw [moved.length_eq, moved.sandbox?_eq (CreateCall.sandbox?_of_finished finished)]
    exact known.1
  · rintro _ ⟨⟩
    rw [spec]
    exact h.stateless call (List.mem_of_getElem? found)
  · intro j other k _ _ _ registered
    rw [same]
    exact registered
  · rintro _ k ⟨⟩ again
    rw [same, spec, moved.key_eq again]
    exact registered
  · exact spaced

/-- A destruction on its way. -/
theorem Tracked.deleting {call : DestroyCall} {pod : Pod} {event : Event} {r : Books × DestroyCall}
    (h : s.Tracked taken) (found : s.calls[n]? = some (.destroy call))
    (busy : (Call.destroy call).isReturned = false)
    (moved : DestroyCall.Deleting s.books call pod event r)
    (placed : Placed client s t n (r.1, .destroy r.2)) : t.Tracked taken := by
  have spaced : t.Spaced := h.spaced.goesOn placed found busy moved.handle_eq fun _ _ => ⟨call, rfl⟩
  have unfinished : ∀ key, ¬ Finishes (.destroy r.2) key := by
    rintro key ⟨_, ⟨⟩, -⟩
  apply h.placed placed
  · intro before here
    cases found.symm.trans here
    exact busy
  · refine Books.Marked.congr ?_ fun key => or_iff_left (unfinished key)
    cases moved with
    | waits again later => exact h.marked
    | fails e first refused => exact h.marked
    | forgets outcome => exact h.marked.forget _ pod
  · cases moved with
    | waits again later => exact Nat.le_refl _
    | fails e first refused => exact Nat.le_refl _
    | forgets outcome => exact Nat.le_refl _
  · intro key now
    exact (unfinished key now).elim
  · rintro _ ⟨⟩
  · intro j other key hj hother holds registered
    -- Whoever creates is not about the handle that is being destroyed.
    have away : other.spec.handle ≠ call.handle := by
      intro same
      rcases h.spaced n j call (.create other) hj.symm found hother same with done | done
      · rw [done] at busy
        cases busy
      · rw [Call.busy_of_key? holds] at done
        cases done
    cases moved with
    | waits again later => exact registered
    | fails e first refused => exact registered
    | forgets outcome => exact (Table.get?_erase_ne _ away).trans registered
  · rintro _ key ⟨⟩
  · exact spaced

theorem Tracked.step (h : s.Tracked taken) (admitted : s.Admits client m)
    (separates : s.Separates m) (stateless : s.Stateless m) : (s.step client m).Tracked taken := by
  cases stepped admitted with
  | @starts spec deadline r hm moved placed =>
      subst hm
      have spaced : (s.step client (.create spec deadline)).Spaced := by
        apply h.spaced.placed placed
        · rintro _ j other ⟨⟩
        · intro i call _ found same
          refine separates call (List.mem_of_getElem? found) (same.symm.trans ?_)
          exact congrArg SandboxSpec.handle moved.spec_eq
      cases moved with
      | refused e =>
          apply h.begun placed
          · rintro key ⟨_, ⟨⟩, finished⟩
            cases finished
          · rintro _ ⟨⟩
            exact ⟨stateless, rfl⟩
          · exact spaced
      | claims free made moved => exact h.claiming moved placed unbegun stateless spaced
  | @looks handle deadline hm placed =>
      subst hm
      apply h.begun placed
      · rintro key ⟨_, ⟨⟩, -⟩
      · rintro _ ⟨⟩
      · apply h.spaced.placed placed
        · rintro _ j other ⟨⟩ _ found same
          rw [DestroyCall.start_handle] at same
          exact separates other (List.mem_of_getElem? found) same
        · intro i call _ found same
          refine separates _ (List.mem_of_getElem? found) (same.symm.trans ?_)
          exact DestroyCall.start_handle ..
  | @claiming i now event call claim r hm found holds moved placed =>
      subst hm
      have busy := Call.busy_of_claim? holds
      apply h.claiming moved placed
      · intro before here
        cases found.symm.trans here
        exact busy
      · exact h.stateless call (List.mem_of_getElem? found)
      · apply h.spaced.goesOn placed found busy
        · exact congrArg SandboxSpec.handle moved.spec_eq
        · rintro _ ⟨⟩
  | attending hm found holds moved placed => exact h.attending found holds moved placed
  | deleting hm found holds moved result placed =>
      subst hm
      exact h.deleting found (busy_of_admits admitted found) moved placed

theorem tracked_start {pods : List Pod} {books : Books} (connected : Connected pods client books) :
    Tracked (fun key => ∃ h, books.registry.get? h = some key) { books } := by
  have marked := connected.marked
  have done (key : Nat) : Done (fun key => ∃ h, books.registry.get? h = some key) { books } key ↔
      ∃ h, books.registry.get? h = some key :=
    or_iff_left fun ⟨_, member, _⟩ => nomatch member
  refine ⟨marked.congr done, ?_, ?_, ?_, ?_⟩
  · intro key isDone
    obtain ⟨h, found⟩ := (done key).1 isDone
    exact (marked.named h key found).1
  · intro call member
    cases member
  · intro i call key found
    cases found
  · intro i j call other apart found
    cases found

/-- What is registered stays so until a destruction forgets it. -/
theorem registered_step (admitted : s.Admits client m) {h : String} {key : Nat}
    (registered : s.books.registry.get? h = some key) :
    (s.step client m).books.registry.get? h = some key ∨ ∃ pod, s.Forgets client m h pod := by
  cases stepped admitted with
  | starts hm moved placed =>
      rw [placed.books]
      exact .inl (registry_starting moved registered)
  | looks hm placed =>
      rw [placed.books]
      exact .inl registered
  | claiming hm found holds moved placed =>
      rw [placed.books]
      exact .inl (registry_claiming moved registered)
  | attending hm found holds moved placed =>
      rw [placed.books, moved.registry_eq]
      exact .inl registered
  | @deleting i now event call pod r hm found holds moved result placed =>
      rw [placed.books]
      cases moved with
      | waits again later => exact .inl registered
      | fails e first refused => exact .inl registered
      | forgets outcome =>
          by_cases same : h = call.handle
          · exact .inr ⟨pod, i, now, event, call, outcome, hm, found, same.symm, holds, result⟩
          · exact .inl ((Table.get?_erase_ne _ same).trans registered)

/-! ## Listings -/

/-- What a listing shows in a state, for a filter that asks for no state. -/
structure Lists (client : Client) (taken : Nat → Prop) (filter : Properties) (s : Interleaving) :
    Prop where
  once : (s.books.sandboxesMatching filter).Nodup
  /-- By default those that were taken up or whose creation was successful. -/
  created : ∀ key, key ∈ s.books.sandboxesMatching filter ↔
    s.books.Fits filter key ∧ s.Done taken key
  all_once :
    (s.books.sandboxesMatching (filter.insert Sandbox.stateProperty Sandbox.stateAll)).Nodup
  /-- With every state, whatever became of the creation. -/
  all : ∀ key,
    key ∈ s.books.sandboxesMatching (filter.insert Sandbox.stateProperty Sandbox.stateAll) ↔
      s.books.Fits filter key
  /-- Whichever way a creation ends that has registered its sandbox, the sandbox is registered. -/
  left : ∀ (i : Nat) (call : CreateCall) (key : Nat) (now : Instant) (event : Event),
    s.calls[i]? = some (.create call) → call.key? = some key →
    s.Admits client (.event i now event) →
    (s.step client (.event i now event)).books.registry.get? call.spec.handle = some key
  /-- It stays registered until a destruction forgets it. -/
  stays : ∀ (m : Move) (h : String) (key : Nat), s.Admits client m →
    s.books.registry.get? h = some key →
    (s.step client m).books.registry.get? h = some key ∨ ∃ pod, s.Forgets client m h pod

/-- A listing shows exactly what it is asked for in every state of a run, whatever the calls are
told; calls that are made one after another keep destructions apart from the others. -/
theorem listing_over_runs {pods : List Pod} {books : Books} {filter : Properties}
    (connected : Connected pods client books)
    (run : Reaches client (fun s m => s.Separates m ∧ s.Stateless m) { books } s)
    (stateless : filter.get? Sandbox.stateProperty = none) :
    Lists client (fun key => ∃ h, books.registry.get? h = some key) filter s := by
  have tracked := run.invariant (tracked_start connected)
    fun s m before admitted allowed => before.step admitted allowed.1 allowed.2
  have named := tracked.marked.named
  refine ⟨Books.nodup_sandboxesMatching named _, ?_, Books.nodup_sandboxesMatching named _, ?_, ?_,
    fun m h key admitted registered => registered_step admitted registered⟩
  · intro key
    rw [Books.mem_sandboxesMatching named, Books.fits_stateless stateless]
    constructor
    · intro listed
      obtain ⟨h, registered, marked, fits⟩ := listed
      refine ⟨⟨h, registered, fits⟩, ?_⟩
      by_contra undone
      rw [tracked.marked.uncreated h key registered undone] at marked
      cases marked
    · intro asked
      obtain ⟨⟨h, registered, fits⟩, done⟩ := asked
      exact ⟨h, registered, tracked.marked.created h key registered done, fits⟩
  · intro key
    rw [Books.mem_sandboxesMatching named, Books.effectiveFilter_all stateless]
  · intro i call key now event found holds admitted
    have registered := tracked.live i call key found holds
    rcases registered_step admitted registered with still | ⟨pod, forgets⟩
    · exact still
    · obtain ⟨j, _, _, destruction, _, same, there, -⟩ := forgets
      cases same
      cases found.symm.trans there

/-- After a creation that the cluster turned down only the sandbox that was taken up is listed by
default, and both are listed with every state. -/
theorem turned_down_creation_listed : ∃ (client : Client) (books : Books),
    Connected [.publishing "web" 62000] client books ∧
      Lists client (fun key => ∃ h, books.registry.get? h = some key) {}
        (turnedDown client books) ∧
      (turnedDown client books).books.sandboxesMatching {} = [0] ∧
      (turnedDown client books).books.sandboxesMatching
        (({} : Properties).insert Sandbox.stateProperty Sandbox.stateAll) = [1, 0] := by
  refine ⟨_, _, ⟨{}, "node", {}, [], rfl⟩, ?_, by decide, by decide⟩
  have connected : Connected [.publishing "web" 62000] _ _ := ⟨{}, "node", {}, [], rfl⟩
  have idle (books : Books) : Idle { books } := fun _ member => nomatch member
  exact listing_over_runs connected (.step (.step .start trivial
    ⟨Sequential.separates (idle _), rfl⟩) ⟨_, rfl, rfl⟩ ⟨trivial, trivial⟩) rfl

end Interleaving
end SandboxPods
