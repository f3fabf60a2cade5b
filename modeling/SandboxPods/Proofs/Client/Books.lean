import SandboxPods.Client.Create
import SandboxPods.Client.Destroy
import SandboxPods.Proofs.Pod.Layout
import SandboxPods.Proofs.PortClaim
import SandboxPods.Proofs.Stores

/-!
# Entries of the books

A sandbox is registered under the next free position and its properties are stored
with it; both steps happen at one instant and are one change of the books here.
The pod that is registered declares the claimed ports, whichever of its containers
carries them. What is known of a sandbox is changed only at its own position.
-/
namespace SandboxPods

theorem Pod.hostPorts_congr {a b : Pod} (h : a.spec = b.spec) : a.hostPorts = b.hostPorts := by
  unfold Pod.hostPorts Pod.ports
  rw [h]

namespace Books

/-- The books with one more sandbox, its handle registered and its properties stored. -/
def enrol (b : Books) (x : Sandbox) (properties : Properties) : Books where
  ports := b.ports
  registry := b.registry.insert x.handle b.sandboxes.length
  properties := b.properties.setAll x.handle properties
  sandboxes := b.sandboxes ++ [x]

theorem register_free {b : Books} {x : Sandbox} (h : b.registry.contains x.handle = false) :
    b.register x = .ok ({ b with
      registry := b.registry.insert x.handle b.sandboxes.length
      sandboxes := b.sandboxes ++ [x] }, b.sandboxes.length) := by
  simp [register, Registry.add, h, bind, Except.bind, pure, Except.pure]

theorem register_taken {b : Books} {x : Sandbox} (h : b.registry.contains x.handle = true) :
    b.register x = .error (.alreadyExists x.handle) := by
  simp [register, Registry.add, h, bind, Except.bind]

/-- A sandbox that is made takes the next position. -/
theorem sandbox_append_self {b after : Books} {x : Sandbox}
    (h : after.sandboxes = b.sandboxes ++ [x]) : after.sandbox b.sandboxes.length = x := by
  simp [sandbox, h]

theorem sandbox_append {b after : Books} {l : List Sandbox} {key : Nat}
    (h : after.sandboxes = b.sandboxes ++ l) (lt : key < b.sandboxes.length) :
    after.sandbox key = b.sandbox key := by
  simp [sandbox, h, List.getD, List.getElem?_append_left lt]

theorem sandbox_enrol_self (b : Books) (x : Sandbox) (properties : Properties) :
    (b.enrol x properties).sandbox b.sandboxes.length = x := sandbox_append_self rfl

theorem sandbox_enrol {b : Books} {key : Nat} (lt : key < b.sandboxes.length) (x : Sandbox)
    (properties : Properties) : (b.enrol x properties).sandbox key = b.sandbox key :=
  sandbox_append rfl lt

theorem get?_enrol (b : Books) (x : Sandbox) (properties : Properties) (k : String) :
    (b.enrol x properties).registry.get? k =
      if k = x.handle then some b.sandboxes.length else b.registry.get? k :=
  Table.get?_insert ..

theorem get?_forget_of_some {b : Books} {handle k : String} {pod : Pod} {key : Nat}
    (h : (b.forget handle pod).registry.get? k = some key) :
    k ≠ handle ∧ b.registry.get? k = some key := by
  change (b.registry.erase handle).get? k = some key at h
  by_cases hk : k = handle
  · rw [hk, Table.get?_erase_self] at h
    cases h
  · rw [Table.get?_erase_ne _ hk] at h
    exact ⟨hk, h⟩

/-- Only registered handles have properties. -/
def Known (b : Books) : Prop :=
  ∀ h, b.properties.spaces.get? h ≠ none → b.registry.get? h ≠ none

/-- A handle that is not registered has no properties. -/
theorem Known.all_eq {b : Books} {handle : String} (h : b.Known)
    (free : b.registry.get? handle = none) : b.properties.all handle = {} := by
  have absent : b.properties.spaces.get? handle = none := by
    by_contra space
    exact h handle space free
  rw [PropertyStore.all, absent]
  rfl

theorem Known.enrol {b : Books} (h : b.Known) (x : Sandbox) (properties : Properties) :
    (b.enrol x properties).Known := by
  intro k space
  rw [get?_enrol]
  by_cases hk : k = x.handle
  · rw [if_pos hk]
    exact Option.some_ne_none _
  · rw [if_neg hk]
    apply h k
    rw [← PropertyStore.spaces_setAll b.properties properties hk]
    exact space

theorem Known.forget {b : Books} (h : b.Known) (handle : String) (pod : Pod) :
    (b.forget handle pod).Known := by
  intro k space
  change (b.properties.spaces.erase handle).get? k ≠ none at space
  change (b.registry.erase handle).get? k ≠ none
  by_cases hk : k = handle
  · rw [hk, Table.get?_erase_self] at space
    exact (space rfl).elim
  · rw [Table.get?_erase_ne _ hk] at space ⊢
    exact h k space

theorem Known.setProperty {b : Books} (h : b.Known) {handle : String}
    (registered : b.registry.get? handle ≠ none) (name value : String) :
    (b.setProperty handle name value).Known := by
  intro k space
  by_cases hk : k = handle
  · exact hk ▸ registered
  · apply h k
    rw [← PropertyStore.spaces_set b.properties name value hk]
    exact space

/-- Every registered handle stands for a sandbox that was made. -/
def Keyed (b : Books) : Prop :=
  ∀ h key, b.registry.get? h = some key → key < b.sandboxes.length

theorem Keyed.enrol {b : Books} (h : b.Keyed) (x : Sandbox) (properties : Properties) :
    (b.enrol x properties).Keyed := by
  intro k key found
  rw [get?_enrol] at found
  change key < (b.sandboxes ++ [x]).length
  rw [List.length_append, List.length_singleton]
  by_cases hk : k = x.handle
  · rw [if_pos hk] at found
    cases found
    omega
  · rw [if_neg hk] at found
    have := h k key found
    omega

theorem Keyed.forget {b : Books} (h : b.Keyed) (handle : String) (pod : Pod) :
    (b.forget handle pod).Keyed :=
  fun k key found => h k key (get?_forget_of_some found).2

theorem sandbox_modify_self {b : Books} {key : Nat} (h : key < b.sandboxes.length)
    (f : Sandbox → Sandbox) : (b.modify key f).sandbox key = f (b.sandbox key) := by
  simp [sandbox, modify, List.getD, List.getElem?_eq_getElem h]

theorem sandbox_modify_ne {b : Books} {key j : Nat} (h : key ≠ j) (f : Sandbox → Sandbox) :
    (b.modify key f).sandbox j = b.sandbox j := by
  simp [sandbox, modify, List.getD, h]

theorem modify_last (l : List Sandbox) (x : Sandbox) (f : Sandbox → Sandbox) :
    (l ++ [x]).modify l.length f = l ++ [f x] := by
  induction l with
  | nil => rfl
  | cons y l ih => exact congrArg (y :: ·) ih

theorem length_modify (b : Books) (key : Nat) (f : Sandbox → Sandbox) :
    (b.modify key f).sandboxes.length = b.sandboxes.length := by
  simp [modify]

end Books

namespace CreateCall
variable {client : Client} {books : Books} {call : CreateCall} {claim : PortClaim}

theorem hostPorts_draft (client : Client) (spec : SandboxSpec) (claim : PortClaim)
    (image : String) (env : List String) (rootfsSize : UInt64) :
    (draft client spec claim image env rootfsSize).pod.hostPorts = claim.hostPorts := by
  change (PodPlan.pod _).ports.filterMap (·.hostPort) = claim.ports.filterMap (·.hostPort)
  rw [PodPlan.ports_pod]

/-- A handle that is still free is registered and the pod is to be submitted next. -/
theorem register_free (free : books.registry.contains call.spec.handle = false)
    (image : String) (env : List String) (rootfsSize : UInt64) :
    register client books call claim image env rootfsSize =
      (books.enrol (draft client call.spec claim image env rootfsSize) call.spec.properties,
        { call with stage := .submitting books.sandboxes.length }) := by
  have h : books.register (draft client call.spec claim image env rootfsSize) = _ :=
    Books.register_free (x := draft client call.spec claim image env rootfsSize) free
  unfold register
  rw [h]
  rfl

/-- The loser of a race for the handle gives its claim back. -/
theorem register_taken (taken : books.registry.contains call.spec.handle = true)
    (image : String) (env : List String) (rootfsSize : UInt64) :
    register client books call claim image env rootfsSize =
      call.abandon books claim (.alreadyExists call.spec.handle) := by
  have h : books.register (draft client call.spec claim image env rootfsSize) = _ :=
    Books.register_taken (x := draft client call.spec claim image env rootfsSize) taken
  unfold register
  rw [h]
  rfl

/-- A handle with a fault ends its creation at once. -/
theorem start_faulty {spec : SandboxSpec} {fault : HandleError}
    (h : Handle.fault? spec.handle = some fault) (client : Client) (books : Books)
    (deadline : Instant) : start client books spec deadline =
      (books, ⟨spec, deadline, .finished (.error (.invalidSpec (.handle spec.handle fault)))⟩) := by
  unfold start
  simp only [h]
  rfl

/-- A description that nothing is wrong with, whose image need not be pulled, is registered at
once. -/
theorem start_preloaded {spec : SandboxSpec} {deadline : Instant} {ports : PortPool}
    {name : String} (valid : Handle.fault? spec.handle = none)
    (free : books.registry.contains spec.handle = false)
    (made : PortClaim.make books.ports spec.ports = .ok (ports, claim))
    (preloaded : ImageSource.parse spec.image.uri = .ok (.preloaded name)) :
    start client books spec deadline =
      (Books.enrol { books with ports } (draft client spec claim name spec.env 0) spec.properties,
        { spec, deadline, stage := .submitting books.sandboxes.length }) := by
  unfold start
  simp only [valid, free, made, resolveImage, preloaded]
  have registered : register client { books with ports } { spec, deadline } claim name spec.env 0 =
      _ := register_free (by exact free) name spec.env 0
  exact registered

end CreateCall
end SandboxPods
