import Mathlib.Logic.Function.Iterate
import SandboxPods.Client.Report
import SandboxPods.Proofs.Client.Incarnation
import SandboxPods.Proofs.Client.Mirror
import SandboxPods.Proofs.Client.Ownership

/-!
# A client that connects again

A client keeps its books one call at a time; a client that connects makes them up
from the pods that it finds. When the calls of the first were made one after another
and all succeeded, against a cluster that keeps its pods, the second comes to the
same: the same handles, the same held ports, for each handle the same information
and the same tasks, and the same owners. Everything that it takes up has gone through
the pod: the ports are those that its containers declare, and the owner is a label.
-/
namespace SandboxPods

/-! ## The owner on the pod -/

/-- No other property shows under the owner's label. -/
theorem podLabels_owner (properties : Properties) :
    (podLabels properties).get? ownerLabel = properties.get? ownerProperty := by
  let labelled (p : String × String) : Option (String × String) :=
    (properties.get? p.1).map fun value => (p.2, value)
  have split : labelledProperties = labelledProperties.dropLast ++ [(ownerProperty, ownerLabel)] :=
    rfl
  have away : ∀ p ∈ labelledProperties.dropLast, p.2 ≠ ownerLabel := by decide
  have others : ∀ e ∈ labelledProperties.dropLast.filterMap labelled, e.1 ≠ ownerLabel := by
    intro e member
    obtain ⟨p, listed, made⟩ := List.mem_filterMap.1 member
    obtain ⟨value, -, rfl⟩ := Option.map_eq_some_iff.1 made
    exact away p listed
  have before := Table.get?_foldl_insert_ne others Table.empty
  change ((labelledProperties.filterMap labelled).foldl _ Table.empty).get? ownerLabel = _
  rw [split, List.filterMap_append, List.foldl_append]
  cases owner : properties.get? ownerProperty with
  | none =>
      have none_labelled : [(ownerProperty, ownerLabel)].filterMap labelled = [] := by
        simp [labelled, owner]
      rw [none_labelled]
      exact before
  | some value =>
      have one_labelled : [(ownerProperty, ownerLabel)].filterMap labelled =
          [(ownerLabel, value)] := by
        simp [labelled, owner]
      rw [one_labelled]
      exact Table.get?_insert_self ..

/-! ## Taking up running pods -/

namespace ConnectCall
variable {client : Client} {loads : TaskLoader} {partner : Ask → Answer} {books after : Books}
variable {taken rest : List Pod} {pod : Pod}

/-- The properties of a pod that was taken up. -/
def noted (pod : Pod) : Properties :=
  (({} : Properties).insert ownerProperty
    ((pod.metadata.labels.get? ownerLabel).getD "")).insert
      Sandbox.stateProperty Sandbox.stateCreated

/-- The tasks of a running pod that was taken up; there are none when they cannot be loaded. -/
def reattached (loads : TaskLoader) (pod : Pod) : Tasks :=
  match loads pod.status.containerStatuses with
  | .ok tasks => tasks
  | .error _ => {}

/-- The books agree with the running pods that were taken up, and with their labels and tasks. -/
structure Restored (loads : TaskLoader) (taken : List Pod) (books : Books) : Prop extends
    Recovered taken books where
  handle : ∀ h key, books.registry.get? h = some key → (books.sandbox key).handle = h
  tasks : ∀ h key, books.registry.get? h = some key →
    (books.sandbox key).tasks = reattached loads (books.sandbox key).pod
  properties : ∀ pod ∈ taken, books.properties.all pod.name = noted pod

theorem restored_empty : Restored loads [] {} := by
  refine ⟨recovered_empty, ?_, ?_, ?_⟩
  · intro h key found
    cases found
  · intro h key found
    cases found
  · intro pod member
    cases member

theorem all_note (bare : books.properties.all pod.name = {}) :
    (note books pod).properties.all pod.name = noted pod := by
  change ((books.properties.set pod.name ownerProperty _).set pod.name _ _).all pod.name = _
  rw [PropertyStore.all_set, PropertyStore.all_set, bare]
  rfl

theorem all_note_ne {h : String} (ne : h ≠ pod.name) :
    (note books pod).properties.all h = books.properties.all h :=
  (PropertyStore.all_set_ne _ _ _ ne).trans (PropertyStore.all_set_ne _ _ _ ne)

theorem Restored.adopt (restored : Restored loads taken books)
    (ok : adopt (note books pod) pod (reattached loads pod) = .ok after) :
    Restored loads (taken ++ [pod]) after := by
  have recovered := restored.toRecovered.adopt ok
  have handle := restored.handle_adopted ok restored.handle
  have entry := restored.entry_adopted ok
  obtain ⟨free, rfl⟩ := adopt_ok ok
  have absent : books.registry.get? pod.name = none := Table.get?_eq_none free
  refine ⟨recovered, handle, ?_, ?_⟩
  · intro h key found
    rcases entry h key found with ⟨rfl, -, new⟩ | ⟨-, before, same⟩
    · rw [new]
      rfl
    · rw [same]
      exact restored.tasks h key before
  · intro p member
    change (note books pod).properties.all p.name = noted p
    rcases List.mem_append.1 member with old | new
    · rw [all_note_ne (restored.name_ne absent old)]
      exact restored.properties p old
    · rw [List.mem_singleton.1 new]
      exact all_note (restored.known.all_eq absent)

theorem exists_adopt (free : books.registry.get? pod.name = none) (tasks : Tasks) :
    ∃ after, adopt (note books pod) pod tasks = .ok after := by
  have vacant : (note books pod).registry.contains pod.name = false := by
    change (books.registry.get? pod.name).isSome = false
    rw [free]
    rfl
  unfold adopt
  rw [Books.register_free (by exact vacant)]
  exact ⟨_, rfl⟩

/-- The connection is given the answer to what it asks. -/
def answeredBy (partner : Ask → Answer) (call : ConnectCall) : ConnectCall :=
  match call.awaiting with
  | .answer ask _ => call.resume (partner ask)
  | _ => call

/-- Running pods of distinct names are all taken up, in one answer each. -/
theorem recover_answered (settings : Settings) (nodeName : String)
    (loaded : ∀ statuses, partner (.loadTasks statuses) = .tasks (loads statuses))
    (restored : Restored loads taken books) (running : ∀ pod ∈ rest, pod.isRunning = true)
    (distinct : ((taken ++ rest).map Pod.name).Nodup) :
    ∃ after, (answeredBy partner)^[rest.length] ⟨settings, nodeName, recover client books rest⟩ =
        ⟨settings, nodeName, .finished (.ok (client, after))⟩ ∧
      Restored loads (taken ++ rest) after := by
  induction rest generalizing taken books with
  | nil =>
      refine ⟨books, rfl, ?_⟩
      rw [List.append_nil]
      exact restored
  | cons pod rest ih =>
      have runs := running pod List.mem_cons_self
      have later : ∀ pod ∈ rest, pod.isRunning = true :=
        fun pod member => running pod (List.mem_cons_of_mem _ member)
      have together : taken ++ pod :: rest = taken ++ [pod] ++ rest := by simp
      have free : books.registry.get? pod.name = none := by
        cases found : books.registry.get? pod.name with
        | none => rfl
        | some key =>
            obtain ⟨-, member, name⟩ := restored.entries pod.name key found
            rw [List.map_append, List.nodup_append] at distinct
            exact (distinct.2.2 _ (List.mem_map_of_mem member) pod.name
              (List.mem_map_of_mem List.mem_cons_self) name).elim
      obtain ⟨next, adopted⟩ := exists_adopt free (reattached loads pod)
      have step : answeredBy partner ⟨settings, nodeName, recover client books (pod :: rest)⟩ =
          ⟨settings, nodeName, recover client next rest⟩ := by
        rw [recover, if_pos runs]
        simp only [answeredBy, awaiting, resume, loaded, ConnectCall.next]
        cases found : loads pod.status.containerStatuses with
        | ok tasks =>
            simp only [reattached, found] at adopted
            simp only [adopted]
        | error e =>
            simp only [reattached, found] at adopted
            simp only [adopted]
      rw [together] at distinct ⊢
      rw [List.length_cons, Function.iterate_succ_apply, step]
      exact ih (restored.adopt adopted) later distinct

/-- A connection that is told its node and a list of running pods succeeds. -/
theorem start_answered {settings : Settings} {nodeName : String} {node : ClusterNode}
    {listed : List Pod}
    (known : partner (.cluster (.getNode nodeName)) = .node (.ok node))
    (lists : partner (.cluster (.listPods settings.podNamespace {})) = .pods (.ok listed))
    (loaded : ∀ statuses, partner (.loadTasks statuses) = .tasks (loads statuses))
    (running : ∀ pod ∈ listed, pod.isRunning = true) (distinct : (listed.map Pod.name).Nodup) :
    ∃ after, ((answeredBy partner)^[listed.length + 2] (start settings nodeName)).stage =
        .finished (.ok ({ settings, nodeName, node }, after)) ∧ Restored loads listed after := by
  have first : answeredBy partner (start settings nodeName) =
      ⟨settings, nodeName, .listing { settings, nodeName, node }⟩ := by
    simp only [answeredBy, awaiting, start, known, resume, next]
  have second : answeredBy partner ⟨settings, nodeName, .listing { settings, nodeName, node }⟩ =
      ⟨settings, nodeName, recover { settings, nodeName, node } {} listed⟩ := by
    simp only [answeredBy, awaiting, lists, resume, next]
  obtain ⟨after, ended, restored⟩ := recover_answered settings nodeName loaded
    restored_empty running distinct
  refine ⟨after, ?_, restored⟩
  rw [Function.iterate_add_apply]
  change ((answeredBy partner)^[listed.length]
    (answeredBy partner (answeredBy partner (start settings nodeName)))).stage = _
  rw [first, second, ended]

end ConnectCall

/-! ## Listing by owner -/

/-- A filter for the sandboxes of an owner. -/
def ownedBy (owner : String) : Properties := .ofList [(ownerProperty, owner)]

/-- The handles that are listed for a filter, in the order of the listing. -/
def Books.handlesMatching (b : Books) (filter : Properties) : List String :=
  (b.sandboxesMatching filter).map fun key => (b.sandbox key).handle

theorem Books.handlesMatching_eq {b : Books} (filter : Properties)
    (named : ∀ h key, b.registry.get? h = some key → (b.sandbox key).handle = h) :
    b.handlesMatching filter =
      b.registry.keys.filter fun h => b.properties.matchesAll h (effectiveFilter filter) := by
  have entries : ∀ e ∈ b.registry.entries, (b.sandbox e.2).handle = e.1 :=
    fun e member => named e.1 e.2 (Table.mem_entries.1 member)
  unfold handlesMatching sandboxesMatching Table.values Table.keys
  generalize b.registry.entries = listed at entries
  induction listed with
  | nil => rfl
  | cons e rest ih =>
      have name := entries e List.mem_cons_self
      have later := ih fun e member => entries e (List.mem_cons_of_mem _ member)
      simp only [List.map_cons, List.filter_cons, name]
      split
      · rw [List.map_cons, later, name]
      · exact later

theorem effectiveFilter_ownedBy (owner : String) : effectiveFilter (ownedBy owner) =
    (ownedBy owner).insert Sandbox.stateProperty Sandbox.stateCreated := by
  have other : Sandbox.stateProperty ≠ ownerProperty := by decide
  have stateless : (ownedBy owner).get? Sandbox.stateProperty = none :=
    Table.get?_insert_ne Table.empty owner other
  rw [effectiveFilter, stateless]

/-- A sandbox is listed for its owner once it is created. -/
theorem PropertyStore.matches_ownedBy {store : PropertyStore} {h owner : String} :
    store.matchesAll h (effectiveFilter (ownedBy owner)) = true ↔
      (store.all h).get? ownerProperty = some owner ∧
        (store.all h).get? Sandbox.stateProperty = some Sandbox.stateCreated := by
  have other : ownerProperty ≠ Sandbox.stateProperty := by decide
  have owned : (ownedBy owner).get? ownerProperty = some owner :=
    Table.get?_insert_self Table.empty ownerProperty owner
  rw [matchesAll, Table.includes_iff, effectiveFilter_ownedBy]
  constructor
  · intro all
    refine ⟨all _ _ ?_, all _ _ (Table.get?_insert_self ..)⟩
    rw [Table.get?_insert_ne _ _ other, owned]
  · rintro ⟨owns, created⟩ k v found
    by_cases state : k = Sandbox.stateProperty
    · rw [state, Table.get?_insert_self] at found
      cases found
      rw [state, created]
    · rw [Table.get?_insert_ne _ _ state] at found
      by_cases own : k = ownerProperty
      · rw [own, owned] at found
        cases found
        rw [own, owns]
      · have absent : (ownedBy owner).get? k = none :=
          Table.get?_insert_ne Table.empty owner own
        rw [absent] at found
        cases found

theorem ConnectCall.get?_noted_owner (pod : Pod) :
    (noted pod).get? ownerProperty = some ((pod.metadata.labels.get? ownerLabel).getD "") := by
  have other : ownerProperty ≠ Sandbox.stateProperty := by decide
  rw [noted, Table.get?_insert_ne _ _ other, Table.get?_insert_self]

theorem ConnectCall.get?_noted_state (pod : Pod) :
    (noted pod).get? Sandbox.stateProperty = some Sandbox.stateCreated :=
  Table.get?_insert_self ..

/-! ## The same books -/

namespace Interleaving
variable {client : Client} {loads : TaskLoader} {books after : Books} {s : Interleaving}
variable {kept : Kept} {listed : List Pod} {h : String} {key : Nat}

/-- What the books of the second client have in common with those of the first. -/
structure Reproduces (s : Interleaving) (after : Books) : Prop where
  handles : after.registry.keys = s.books.registry.keys
  ports : after.ports = s.books.ports
  sandboxes : ∀ h key, s.books.registry.get? h = some key →
    ∃ key', after.registry.get? h = some key' ∧
      (after.sandbox key').info = (s.books.sandbox key).info ∧
      (after.sandbox key').tasks = (s.books.sandbox key).tasks
  /-- The owner of a sandbox that was created with one. -/
  owner : ∀ (call : CreateCall) (key : Nat) (owner : String), .create call ∈ s.calls →
    call.stage = .finished (.ok key) → s.books.registry.get? call.spec.handle = some key →
    call.spec.properties.get? ownerProperty = some owner →
    s.books.properties.get? call.spec.handle ownerProperty = some owner ∧
      after.properties.get? call.spec.handle ownerProperty = some owner
  listing : ∀ owner, owner ≠ "" →
    after.handlesMatching (ownedBy owner) = s.books.handlesMatching (ownedBy owner)

theorem Mirrored.at_rest (mirrored : s.Mirrored client loads kept) (idle : s.Idle) (h : String) :
    s.AtRest client loads kept h := mirrored.atRest h fun call member _ => idle call member

/-- Between the calls the kept pods are those of the registered sandboxes. -/
theorem Mirrored.mem_kept (mirrored : s.Mirrored client loads kept) (idle : s.Idle) {pod : Pod} :
    pod ∈ kept.values.map (·.pod) ↔ ∃ key, s.books.registry.get? pod.name = some key ∧
      (s.books.sandbox key).pod = pod := by
  have rest := mirrored.at_rest idle
  rw [List.mem_map]
  constructor
  · rintro ⟨k, member, rfl⟩
    obtain ⟨h, here⟩ := Table.mem_values.1 member
    have known := (rest h).kept.symm.trans here
    obtain ⟨key, registered, rfl⟩ := Option.map_eq_some_iff.1 known
    obtain ⟨call, -, rfl, completed⟩ := (rest h).created key registered
    exact ⟨key, completed.name.symm ▸ registered, rfl⟩
  · rintro ⟨key, registered, rfl⟩
    let k : KeptPod := { pod := (s.books.sandbox key).pod }
    have here : kept.get? (s.books.sandbox key).pod.name = some k := by
      rw [(rest _).kept, registered]
      rfl
    exact ⟨k, Table.mem_values.2 ⟨_, here⟩, rfl⟩

/-- The kept pods have their handles as names. -/
theorem Mirrored.names_kept (mirrored : s.Mirrored client loads kept) (idle : s.Idle) :
    (kept.values.map (·.pod)).map Pod.name = kept.keys := by
  have rest := mirrored.at_rest idle
  rw [Table.values, Table.keys, List.map_map, List.map_map]
  apply List.map_congr_left
  intro e member
  have here := Table.mem_entries.1 member
  have known := (rest e.1).kept.symm.trans here
  obtain ⟨key, registered, same⟩ := Option.map_eq_some_iff.1 known
  obtain ⟨call, -, handle, completed⟩ := (rest e.1).created key registered
  change e.2.pod.name = e.1
  rw [← same, completed.name, handle]

/-- The properties of a sandbox that was returned. -/
theorem Completed.properties_eq {b : Books} {call : CreateCall}
    (completed : Completed client loads b call key) :
    b.properties.all call.spec.handle =
      call.spec.properties.insert Sandbox.stateProperty Sandbox.stateCreated := by
  rw [completed.properties, CreateCall.ownProperties, completed.finished]

/-- The owner of a sandbox that was returned shows on its pod. -/
theorem Completed.label {b : Books} {call : CreateCall}
    (completed : Completed client loads b call key) :
    (b.sandbox key).pod.metadata.labels.get? ownerLabel =
      call.spec.properties.get? ownerProperty := by
  rw [completed.metadata]
  exact podLabels_owner _

/-- What the second client has for a registered sandbox of the first. -/
structure Twin (s : Interleaving) (after : Books) (h : String) (key : Nat) (call : CreateCall)
    (key' : Nat) : Prop where
  registered : after.registry.get? h = some key'
  pod : (after.sandbox key').pod = (s.books.sandbox key).pod
  tasks : (after.sandbox key').tasks = (s.books.sandbox key).tasks
  member : .create call ∈ s.calls
  finished : call.stage = .finished (.ok key)
  properties : s.books.properties.all h =
    call.spec.properties.insert Sandbox.stateProperty Sandbox.stateCreated
  owner : (after.properties.all h).get? ownerProperty =
    some ((call.spec.properties.get? ownerProperty).getD "")
  state : (after.properties.all h).get? Sandbox.stateProperty = some Sandbox.stateCreated

/-- Between the calls of one client another has taken up the kept pods. -/
structure Rebuilt (client : Client) (loads : TaskLoader) (s : Interleaving) (kept : Kept)
    (listed : List Pod) (after : Books) : Prop where
  mirrored : s.Mirrored client loads kept
  idle : s.Idle
  complete : ∀ pod, pod ∈ listed ↔ pod ∈ kept.values.map (·.pod)
  restored : ConnectCall.Restored loads listed after

theorem Rebuilt.mem_listed (rebuilt : s.Rebuilt client loads kept listed after) {pod : Pod} :
    pod ∈ listed ↔ ∃ key, s.books.registry.get? pod.name = some key ∧
      (s.books.sandbox key).pod = pod :=
  (rebuilt.complete pod).trans (rebuilt.mirrored.mem_kept rebuilt.idle)

/-- The pod of a registered sandbox is listed. -/
theorem Rebuilt.listed_of_get? (rebuilt : s.Rebuilt client loads kept listed after)
    (registered : s.books.registry.get? h = some key) :
    (s.books.sandbox key).pod ∈ listed ∧ (s.books.sandbox key).pod.name = h := by
  have rest := rebuilt.mirrored.at_rest rebuilt.idle h
  obtain ⟨call, -, rfl, completed⟩ := rest.created key registered
  have name := completed.name
  exact ⟨rebuilt.mem_listed.2 ⟨key, name.symm ▸ registered, rfl⟩, name⟩

theorem Rebuilt.exists_twin (rebuilt : s.Rebuilt client loads kept listed after)
    (registered : s.books.registry.get? h = some key) :
    ∃ call key', call.spec.handle = h ∧ s.Twin after h key call key' := by
  have rest := rebuilt.mirrored.at_rest rebuilt.idle h
  have restored := rebuilt.restored
  obtain ⟨listed, name⟩ := rebuilt.listed_of_get? registered
  obtain ⟨call, member, rfl, completed⟩ := rest.created key registered
  obtain ⟨key', found, pod⟩ := restored.registered _ listed
  have noted := restored.properties _ listed
  rw [name] at found noted
  refine ⟨call, key', rfl, found, pod, ?_, member, completed.finished, completed.properties_eq,
    ?_, ?_⟩
  · rw [restored.tasks _ key' found, pod, ConnectCall.reattached, completed.tasks]
  · rw [noted, ConnectCall.get?_noted_owner, completed.label]
  · rw [noted, ConnectCall.get?_noted_state]

theorem Rebuilt.handles_eq (rebuilt : s.Rebuilt client loads kept listed after) :
    after.registry.keys = s.books.registry.keys := by
  apply Table.keys_eq
  intro h
  constructor
  · intro found
    obtain ⟨key', found⟩ := Option.ne_none_iff_exists'.1 found
    obtain ⟨-, member, rfl⟩ := rebuilt.restored.entries h key' found
    obtain ⟨key, registered, -⟩ := rebuilt.mem_listed.1 member
    rw [registered]
    exact Option.some_ne_none key
  · intro found
    obtain ⟨key, registered⟩ := Option.ne_none_iff_exists'.1 found
    obtain ⟨call, key', -, twin⟩ := rebuilt.exists_twin registered
    rw [twin.registered]
    exact Option.some_ne_none key'

/-- Once every call has returned the held ports are those of the kept pods. -/
theorem Rebuilt.ports_eq (rebuilt : s.Rebuilt client loads kept listed after) :
    after.ports = s.books.ports := by
  have accounts := rebuilt.mirrored.accounts
  have range := accounts.range
  apply PortPool.eq_of_mem_held (rebuilt.restored.range.trans range.symm)
  intro p
  rw [rebuilt.restored.held p, accounts.ledger.held p]
  constructor
  · rintro ⟨inside, pod, member, declared⟩
    obtain ⟨key, registered, rfl⟩ := rebuilt.mem_listed.1 member
    rw [← range.contains_eq] at inside
    exact ⟨some (.sandbox _), (Books.mem_declared registered).2 ⟨declared, inside⟩⟩
  · rintro ⟨o, share⟩
    match o with
    | none => cases share
    | some (.creation i) =>
        have vacant : s.claims i = none :=
          claims_of_returned fun call found => rebuilt.idle call (List.mem_of_getElem? found)
        change p ∈ claimedAt s.claims i at share
        rw [claimedAt_none vacant] at share
        cases share
    | some (.sandbox h) =>
        change p ∈ s.books.declared h at share
        cases registered : s.books.registry.get? h with
        | none =>
            rw [Books.declared_of_absent registered] at share
            cases share
        | some key =>
            obtain ⟨declared, inside⟩ := (Books.mem_declared registered).1 share
            rw [range.contains_eq] at inside
            exact ⟨inside, _, (rebuilt.listed_of_get? registered).1, declared⟩

/-- An owner's sandboxes are listed alike. -/
theorem Rebuilt.listing_eq (rebuilt : s.Rebuilt client loads kept listed after) {owner : String}
    (named : owner ≠ "") :
    after.handlesMatching (ownedBy owner) = s.books.handlesMatching (ownedBy owner) := by
  have names (h : String) (key : Nat) (registered : s.books.registry.get? h = some key) :
      (s.books.sandbox key).handle = h := by
    have rest := rebuilt.mirrored.at_rest rebuilt.idle h
    obtain ⟨call, -, rfl, completed⟩ := rest.created key registered
    exact completed.handle
  rw [Books.handlesMatching_eq _ rebuilt.restored.handle, Books.handlesMatching_eq _ names,
    rebuilt.handles_eq]
  apply List.filter_congr
  intro h member
  obtain ⟨key, registered⟩ := Option.ne_none_iff_exists'.1 (Table.mem_keys.1 member)
  obtain ⟨call, key', -, twin⟩ := rebuilt.exists_twin registered
  have other : ownerProperty ≠ Sandbox.stateProperty := by decide
  rw [Bool.eq_iff_iff, PropertyStore.matches_ownedBy, PropertyStore.matches_ownedBy, twin.owner,
    twin.state, twin.properties, Table.get?_insert_self, Table.get?_insert_ne _ _ other]
  -- A sandbox without an owner is noted with the empty one, which nobody asks for.
  cases call.spec.properties.get? ownerProperty with
  | none => simp [named.symm]
  | some value => simp

/-- A client that has taken up the kept pods has the books of the client that created them. -/
theorem Rebuilt.reproduces (rebuilt : s.Rebuilt client loads kept listed after)
    (owned : s.Owned) : s.Reproduces after := by
  refine ⟨rebuilt.handles_eq, rebuilt.ports_eq, ?_, ?_, fun owner named => rebuilt.listing_eq named⟩
  · intro h key registered
    obtain ⟨call, key', -, twin⟩ := rebuilt.exists_twin registered
    refine ⟨key', twin.registered, ?_, twin.tasks⟩
    simp only [Sandbox.info, twin.pod]
  · intro call key owner member finished registered owns
    obtain ⟨creation, key', -, twin⟩ := rebuilt.exists_twin registered
    obtain rfl := owned.eq_of_finished member twin.member finished twin.finished
    have other : ownerProperty ≠ Sandbox.stateProperty := by decide
    constructor
    · rw [PropertyStore.get?, twin.properties, Table.get?_insert_ne _ _ other, owns]
    · rw [PropertyStore.get?, twin.owner, owns]
      rfl

/-! ## Connecting again -/

/-- The first client's calls were made one after another and all of them succeeded, against a
cluster that keeps its pods. A second client with the same configuration that the same cluster
tells of its node and of its pods connects, and reproduces the books of the first. -/
theorem restart_reproduces {partner : Ask → Answer} {node : ClusterNode}
    (connected : Connected [] client books) (run : Deployed client loads books s kept)
    (succeeded : ∀ call ∈ s.calls, call.isSuccess = true)
    (same : ∀ ask, ask.changesPods = false →
      Answers client.settings.podNamespace loads kept ask (partner ask) kept)
    (known : partner (.cluster (.getNode client.nodeName)) = .node (.ok node))
    (lists : partner (.cluster (.listPods client.settings.podNamespace {})) = .pods (.ok listed)) :
    ∃ n after, ((ConnectCall.answeredBy partner)^[n]
        (.start client.settings client.nodeName)).stage =
          .finished (.ok ({ client with node }, after)) ∧
      s.Reproduces after := by
  have idle : s.Idle := fun call member => (Call.isSuccess_iff.1 (succeeded call member)).1
  have unlost : ¬ s.Lost := by
    rintro ⟨call, member, fails⟩
    rw [(Call.isSuccess_iff.1 (succeeded call member)).2] at fails
    cases fails
  have mirrored := run.mirrored connected unlost
  have perm : listed.Perm (kept.values.map (·.pod)) := by
    have answers := same (.cluster (.listPods client.settings.podNamespace {})) rfl
    rw [lists] at answers
    exact answers.of_listed
  have loaded (statuses : List ContainerStatus) :
      partner (.loadTasks statuses) = .tasks (loads statuses) :=
    (same (.loadTasks statuses) rfl).of_loaded.1
  have running : ∀ pod ∈ listed, pod.isRunning = true := by
    intro pod member
    obtain ⟨key, registered, rfl⟩ := (mirrored.mem_kept idle).1 (perm.mem_iff.1 member)
    obtain ⟨call, -, -, completed⟩ := (mirrored.at_rest idle _).created key registered
    exact completed.running
  have distinct : (listed.map Pod.name).Nodup := by
    rw [(perm.map Pod.name).nodup_iff, mirrored.names_kept idle]
    exact kept.ascending_keys.imp fun lt => String.ne_of_lt lt
  obtain ⟨after, ended, restored⟩ :=
    ConnectCall.start_answered known lists loaded running distinct
  have rebuilt : s.Rebuilt client loads kept listed after :=
    ⟨mirrored, idle, fun pod => perm.mem_iff, restored⟩
  exact ⟨_, after, ended, rebuilt.reproduces run.reaches.owned⟩

/-- A cluster that answers every question about the pods that it keeps, whatever these are, and a
runtime that has no images. -/
def tells (podNamespace : String) (node : ClusterNode) (loads : TaskLoader) (kept : Kept) :
    Ask → Answer
  | .cluster (.getNode _) => .node (.ok node)
  | .cluster (.getPod _ name) =>
    match kept.get? name with
    | some k => .pod (.ok k.pod)
    | none => .pod (.error (.notFound .pod name))
  | .cluster (.createPod pod) => .pod (.error (.alreadyExists .pod pod.name))
  | .cluster (.deletePod _ name _) => .deleted (.error (.notFound .pod name))
  | .cluster (.listPods ns selector) =>
    if ns ≠ podNamespace then .pods (.ok [])
    else if selector = {} then .pods (.ok (kept.values.map (·.pod)))
    else .pods (.error (.api 400 "unsupported selector"))
  | .pull reference _ => .pulled (.error (.pullFailed reference.display))
  | .deleteImage _ => .imageDeleted (.ok ())
  | .loadTasks statuses => .tasks (loads statuses)

theorem answers_tells (podNamespace : String) (node : ClusterNode) (loads : TaskLoader)
    (kept : Kept) {ask : Ask} (asks : ask.changesPods = false) :
    Answers podNamespace loads kept ask (tells podNamespace node loads kept ask) kept := by
  cases ask with
  | cluster call =>
      cases call with
      | getNode name => exact .elsewhere (by simp [ClusterCall.podNamespace?])
      | getPod ns name =>
          by_cases here : ns = podNamespace
          · subst here
            cases found : kept.get? name with
            | some k =>
                simp only [tells, found]
                exact .shows found
            | none =>
                simp only [tells, found]
                refine .misses rfl fun k there => ?_
                rw [found] at there
                cases there
          · exact .elsewhere (by simpa [ClusterCall.podNamespace?] using here)
      | createPod pod => cases asks
      | deletePod ns name grace => cases asks
      | listPods ns selector =>
          by_cases here : ns = podNamespace
          · subst here
            by_cases every : selector = {}
            · simp only [tells, every, ne_eq, not_true_eq_false, if_false, if_true]
              exact .lists (.refl _)
            · simp only [tells, every, ne_eq, not_true_eq_false, if_false]
              exact .fails rfl
          · exact .elsewhere (by simpa [ClusterCall.podNamespace?] using here)
  | pull reference credentials => exact .pulls
  | deleteImage id => exact .discards
  | loadTasks statuses => exact .loads

/-- A sandbox of a tenant with one port, which the pool chooses, and a sidecar. -/
def tenantSpec : SandboxSpec :=
  { SandboxSpec.plain "web" with
    ports := [⟨0, 80⟩]
    properties := .ofList [(ownerProperty, "tenant"), (workloadProperty, Role.app)] }

def tenantClient : Client := ⟨{}, "node", {}⟩

def tenantTasks : Tasks := .ofList [(Role.app, ⟨⟨"c1"⟩, 42⟩)]

/-- The tenant's sandbox is registered, and its pod is submitted. -/
def tenantSubmits : Interleaving := step tenantClient { books := {} } (.create tenantSpec 10)

def tenantPod (status : PodStatus) : Pod := { (tenantSubmits.books.sandbox 0).pod with status }

def tenantRunning : Pod :=
  tenantPod { phase := some .running, hostIp := "10.0.0.1", podIp := "10.1.0.5" }

/-- The pod is stored. -/
def tenantStored : Interleaving :=
  step tenantClient tenantSubmits (.event 0 0 (.answered (.pod (.ok (tenantPod {})))))

/-- The pod has come to run and is read. -/
def tenantReads : Interleaving :=
  step tenantClient tenantStored (.event 0 0 (.answered (.pod (.ok tenantRunning))))

/-- The tasks are loaded. -/
def tenantCreated : Interleaving :=
  step tenantClient tenantReads (.event 0 0 (.answered (.tasks (.ok tenantTasks))))

def tenantKept (pod : Pod) : Kept := .ofList [("web", { pod })]

theorem deployed_tenant : Deployed tenantClient (fun _ => .ok tenantTasks) {} tenantCreated
    (tenantKept tenantRunning) := by
  have submits : Deployed tenantClient (fun _ => .ok tenantTasks) {} tenantSubmits {} :=
    .moves .start trivial (by intro call member; cases member) rfl
  have stored : Deployed tenantClient (fun _ => .ok tenantTasks) {} tenantStored
      (tenantKept (tenantPod {})) :=
    .moves submits ⟨_, rfl, rfl⟩ trivial ⟨_, rfl, _, rfl, .creates rfl rfl rfl rfl⟩
  have runs : Deployed tenantClient (fun _ => .ok tenantTasks) {} tenantStored
      (tenantKept tenantRunning) :=
    stored.changes (Table.get?_insert_self ..) rfl
  have reads : Deployed tenantClient (fun _ => .ok tenantTasks) {} tenantReads
      (tenantKept tenantRunning) :=
    .moves runs ⟨_, rfl, rfl⟩ trivial ⟨_, rfl, _, rfl, .shows (Table.get?_insert_self ..)⟩
  exact .moves reads ⟨_, rfl, rfl⟩ trivial ⟨_, rfl, _, rfl, .loads⟩

/-- The tenant's client starts again. -/
theorem tenant_survives_restart : tenantCreated.books.registry.keys = ["web"] ∧
    tenantCreated.books.ports.held = [62000] ∧
    tenantCreated.books.handlesMatching (ownedBy "tenant") = ["web"] ∧
    ∃ n after, ((ConnectCall.answeredBy (tells tenantClient.settings.podNamespace {}
        (fun _ => .ok tenantTasks) (tenantKept tenantRunning)))^[n]
        (.start tenantClient.settings "node")).stage = .finished (.ok (tenantClient, after)) ∧
      tenantCreated.Reproduces after := by
  have connected : Connected [] tenantClient {} := ⟨{}, "node", {}, [], rfl⟩
  have succeeded : ∀ call ∈ tenantCreated.calls, call.isSuccess = true := by
    intro call member
    cases List.mem_singleton.1 member
    rfl
  refine ⟨rfl, rfl, rfl, ?_⟩
  exact restart_reproduces connected deployed_tenant succeeded
    (fun ask asks => answers_tells _ _ _ _ asks) rfl rfl

end Interleaving
end SandboxPods
