import SandboxPods.Failure

/-!
# Failures of the cluster

A call on the cluster fails because an object is absent or already there, because
the cluster answered with another status, because its answer could not be
understood, or on the way.
-/
namespace SandboxPods

inductive ObjectKind where
  | pod | node | podNamespace
  deriving DecidableEq, Repr

def ObjectKind.name : ObjectKind → String
  | .pod => "pod"
  | .node => "node"
  | .podNamespace => "namespace"

inductive ClusterError where
  | notFound (kind : ObjectKind) (name : String)
  | alreadyExists (kind : ObjectKind) (name : String)
  | api (status : Nat) (message : String)
  | decode (reason : String)
  | transport (reason : String)
  deriving DecidableEq, Repr

/-- The name by which programs tell these failures apart. -/
def ClusterError.kind : ClusterError → String
  | .notFound .. => "NotFound"
  | .alreadyExists .. => "AlreadyExists"
  | .api .. => "Api"
  | .decode _ => "Decode"
  | .transport _ => "Transport"

namespace ClusterError

def message : ClusterError → String
  | .notFound kind name => kind.name ++ " " ++ Text.quoted name ++ " not found"
  | .alreadyExists kind name => kind.name ++ " " ++ Text.quoted name ++ " already exists"
  | .api status message => "cluster API returned " ++ toString status ++ ": " ++ message
  | .decode reason => "failed to decode cluster response: " ++ reason
  | .transport reason => "transport error: " ++ reason

def isNotFound : ClusterError → Bool
  | .notFound _ _ => true
  | _ => false

end ClusterError

instance : Failure ClusterError := ⟨ClusterError.kind, ClusterError.message⟩

end SandboxPods
