import SandboxPods.Failure
import SandboxPods.PathEntry
import SandboxPods.Transfer.SourcePath
import SandboxPods.Text.Blank
import SandboxPods.Text.Utf8

/-!
# The copy helper

Files enter and leave a sandbox through a helper that joins the mount namespace
of a process and runs an archiver there as a user. Sending feeds the archive to
the helper and then waits for it, even when the archive could not be read to its
end; a failure to read is reported before the helper's own failure. The helper's
complaints are trimmed, with broken text replaced.
-/
namespace SandboxPods

inductive CopyError where
  | spawn (program reason : String)
  | input (reason stderr : String)
  | failed (code : Option Int) (stderr : String)
  deriving DecidableEq, Repr

/-- The name by which programs tell these failures apart. -/
def CopyError.kind : CopyError → String
  | .spawn .. => "Spawn"
  | .input .. => "Input"
  | .failed .. => "Failed"

def CopyError.message : CopyError → String
  | .spawn program reason => "failed to spawn " ++ program ++ ": " ++ reason
  | .input reason stderr => "failed to send tar stream: " ++ reason ++ ": " ++ stderr
  | .failed code stderr =>
    "exit status " ++ (match code with
      | some n => "Some(" ++ toString n ++ ")"
      | none => "None") ++ ": " ++ stderr

instance : Failure CopyError := ⟨CopyError.kind, CopyError.message⟩

/-- How the helper ended. -/
structure HelperEnd where
  /-- No code when a signal ended it. -/
  code : Option Int
  stderr : List UInt8
  deriving DecidableEq, Repr

namespace Helper

/-- The arguments after the archiver that every use starts with. -/
def commonArgs (pid : UInt32) (user : String) : List String := [toString pid.toNat, user]

def sendArgs (pid : UInt32) (path user : String) : List String := commonArgs pid user ++ [path]

def fetchArgs (pid : UInt32) (path user : String) : List String :=
  let (directory, entry) := SourcePath.split path
  commonArgs pid user ++ [directory, entry]

/-- The failure to start a program with some arguments. A null character in the program or in an
argument is found before anything else that stands in the way. -/
def startFailure? (program : String) (args : List String) (obstacle : Option String) :
    Option CopyError :=
  let reason? :=
    if (program :: args).any (fun t => t.toList.contains '\x00') then some PathEntry.nullReason
    else obstacle
  reason?.map (.spawn program ·)

/-- The result of sending, from the failure to read the archive and the helper's end. -/
def sendResult (readFailure : Option String) (helper : HelperEnd) : Except CopyError Unit :=
  let stderr := String.ofList (Text.trim (Utf8.decodeLenient helper.stderr))
  match readFailure with
  | some reason => .error (.input reason stderr)
  | none => if helper.code = some 0 then .ok () else .error (.failed helper.code stderr)

end Helper
end SandboxPods
