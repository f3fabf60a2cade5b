import SandboxPods.Failure

/-!
# Sandbox handles

A caller chooses a sandbox's handle, and the handle is also the name of its pod.
It is not empty, at most 253 bytes long, made of lower-case ASCII letters, digits,
hyphens and full stops, and it starts and ends with a letter or a digit. The
faults are looked for in that order.
-/
namespace SandboxPods

inductive HandleError where
  | empty
  | tooLong
  | invalidChar (c : Char)
  | badBoundary
  deriving DecidableEq, Repr

namespace Handle

def maxBytes : Nat := 253

/-- A lower-case ASCII letter or a digit. -/
def isWord (c : Char) : Bool := ('a' ≤ c && c ≤ 'z') || ('0' ≤ c && c ≤ '9')

def isAllowed (c : Char) : Bool := isWord c || c == '-' || c == '.'

/-- The first fault of a text as a handle. -/
def fault? (s : String) : Option HandleError :=
  if s.isEmpty then some .empty
  else if maxBytes < s.utf8ByteSize then some .tooLong
  else match s.toList.find? (fun c => !isAllowed c) with
    | some c => some (.invalidChar c)
    | none =>
      if s.toList.head?.any isWord && s.toList.getLast?.any isWord then none
      else some .badBoundary

end Handle

/-- A text without a fault as a handle. -/
structure Handle where
  text : String
  sound : Handle.fault? text = none
  deriving DecidableEq, Repr

/-- The name by which programs tell these failures apart. -/
def HandleError.kind : HandleError → String
  | .empty => "Empty"
  | .tooLong => "TooLong"
  | .invalidChar _ => "InvalidChar"
  | .badBoundary => "BadBoundary"

def HandleError.message : HandleError → String
  | .empty => "handle cannot be empty"
  | .tooLong => "handle exceeds maximum length of 253 characters"
  | .invalidChar c => "invalid character in handle: '" ++ String.singleton c ++ "'"
  | .badBoundary => "handle must start and end with a lowercase letter or digit"

instance : Failure HandleError := ⟨HandleError.kind, HandleError.message⟩

def Handle.ofString (s : String) : Except HandleError Handle :=
  match h : Handle.fault? s with
  | none => .ok ⟨s, h⟩
  | some e => .error e

end SandboxPods
