import SandboxPods.Stores

/-!
# What callers ask for

The description of a sandbox to create and of a process to run in one.
-/
namespace SandboxPods

/-- A root filesystem image with credentials for its registry. -/
structure ImageSpec where
  uri : String := ""
  username : String := ""
  password : String := ""
  deriving DecidableEq, Repr, Inhabited

namespace ImageSpec

def ofUri (uri : String) : ImageSpec := { uri }

def isEmpty (s : ImageSpec) : Bool := s.uri.isEmpty

/-- The password is not shown. -/
def rendered (s : ImageSpec) : String :=
  "ImageSpec \x7b uri: " ++ Text.quoted s.uri ++ ", username: " ++ Text.quoted s.username ++
    ", .. \x7d"

end ImageSpec

/-- A host directory that every role sees read-only. -/
structure BindMount where
  source : String
  destination : String
  deriving DecidableEq, Repr

/-- A published port; host port zero leaves the choice to the pool. -/
structure PortRequest where
  hostPort : UInt16
  containerPort : UInt16
  deriving DecidableEq, Repr

structure SandboxSpec where
  handle : String := ""
  image : ImageSpec := {}
  env : List String := []
  bindMounts : List BindMount := []
  ports : List PortRequest := []
  /-- The memory limit in bytes. -/
  memory : UInt64 := 0
  /-- The disk limit in bytes, which a pulled image must stay below; zero limits nothing else. -/
  disk : UInt64 := 0
  properties : Properties := {}
  deriving DecidableEq, Repr, Inhabited

structure ExecutionRequest where
  /-- Made up when it is missing or empty. -/
  id : Option String := none
  path : String := ""
  args : List String := []
  env : List String := []
  /-- The user's home when empty. -/
  dir : String := ""
  user : String := ""
  /-- Any image selects the sidecar. -/
  image : ImageSpec := {}
  deriving DecidableEq, Repr, Inhabited

/-- A tar stream to unpack, as far as it can be shown. -/
structure StreamTarget where
  path : String
  user : String
  deriving DecidableEq, Repr

def StreamTarget.rendered (t : StreamTarget) : String :=
  "StreamInSpec \x7b path: " ++ Text.quoted t.path ++ ", user: " ++ Text.quoted t.user ++
    ", .. \x7d"

end SandboxPods
