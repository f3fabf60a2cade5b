import SandboxPods.Error

/-!
# What is kept by handle

In a registry each handle is claimed at most once. Claiming a handle that is taken
fails and changes nothing; giving up a handle that is not claimed is no failure.

In a property store every handle has a key space of its own, which comes into being
with its first property. A handle without a key space has no properties.
-/
namespace SandboxPods

/-! ## Handles -/

abbrev Registry (α : Type) := Table α

namespace Registry
variable {α : Type}

/-- Claims a handle. -/
def add (r : Registry α) (handle : String) (a : α) : Except LifecycleError (Registry α) :=
  if r.contains handle then .error (.alreadyExists handle) else .ok (r.insert handle a)

/-- What was registered under a handle. -/
def get (r : Registry α) (handle : String) : Except LifecycleError α :=
  match r.get? handle with
  | some a => .ok a
  | none => .error (.notFound handle)

end Registry

/-! ## Properties -/

/-- The properties of one handle. -/
abbrev Properties := Table String

structure PropertyStore where
  spaces : Table Properties := {}
  deriving DecidableEq, Repr, Inhabited

namespace PropertyStore

/-- Every property of a handle. -/
def all (s : PropertyStore) (handle : String) : Properties := (s.spaces.get? handle).getD {}

def get? (s : PropertyStore) (handle name : String) : Option String := (s.all handle).get? name

def set (s : PropertyStore) (handle name value : String) : PropertyStore :=
  ⟨s.spaces.insert handle ((s.all handle).insert name value)⟩

def setAll (s : PropertyStore) (handle : String) (properties : Properties) : PropertyStore :=
  properties.toList.foldl (fun s e => s.set handle e.1 e.2) s

/-- Removes a property that exists. -/
def remove (s : PropertyStore) (handle name : String) : Except LifecycleError PropertyStore :=
  if (s.get? handle name).isSome then
    .ok ⟨s.spaces.insert handle ((s.all handle).erase name)⟩
  else .error (.propertyNotFound name)

/-- The handle has every property of the filter, with an equal value. -/
def matchesAll (s : PropertyStore) (handle : String) (filter : Properties) : Bool :=
  (s.all handle).includes filter

/-- Forgets a handle's key space. -/
def destroy (s : PropertyStore) (handle : String) : PropertyStore := ⟨s.spaces.erase handle⟩

end PropertyStore
end SandboxPods
