import SandboxPods.Failure
import SandboxPods.Text.Blank
import SandboxPods.Text.Split
import SandboxPods.Number.Decimal
import SandboxPods.PathEntry

/-!
# Users inside a sandbox

A user name is resolved by the password file of the sandbox's own root
filesystem. The first line of that user decides, whatever other lines hold;
blank lines and comments do not count. Root is known even without a file or a
line, and the empty name means root.
-/
namespace SandboxPods

/-- A user as the sandbox knows it. -/
structure SandboxUser where
  uid : UInt32
  gid : UInt32
  home : String
  deriving DecidableEq, Repr

def SandboxUser.root : SandboxUser := ⟨0, 0, "/root"⟩

inductive IdentityError where
  | unknownUser (username : String)
  | read (path reason : String)
  | malformed (username : String)
  deriving DecidableEq, Repr

/-- The name by which programs tell these failures apart. -/
def IdentityError.kind : IdentityError → String
  | .unknownUser _ => "UnknownUser"
  | .read .. => "Read"
  | .malformed _ => "Malformed"

def IdentityError.message : IdentityError → String
  | .unknownUser username => "unable to find user " ++ username
  | .read path reason => "failed to read " ++ path ++ ": " ++ reason
  | .malformed username => "malformed passwd entry for " ++ username

instance : Failure IdentityError := ⟨IdentityError.kind, IdentityError.message⟩

namespace Passwd

def rootName : String := "root"

/-- The root filesystem of a process as the host sees it. -/
def processRoot (pid : UInt32) : String := "/proc/" ++ toString pid.toNat ++ "/root"

def filePath (root : String) : String := root ++ "/etc/passwd"

/-- A user or group number: an optional plus sign and digits, within thirty-two bits. -/
def number? (cs : List Char) : Option UInt32 :=
  let digits := match cs with
    | '+' :: rest => rest
    | cs => cs
  let n := Decimal.natOfDigits digits
  if digits ≠ [] ∧ digits.all Decimal.isDigit ∧ n < 4294967296 then some (UInt32.ofNat n) else none

/-- The fields of a line that says something about a user. -/
def fields? (line : List Char) : Option (List (List Char)) :=
  let line := Text.trim line
  if line.isEmpty || line.head? == some '#' then none else some (Text.splitAll ':' line)

/-- The user a line describes: name, password, user, group, comment, home and more. -/
def userOfFields (username : String) (fields : List (List Char)) :
    Except IdentityError SandboxUser :=
  match fields with
  | _ :: _ :: uid :: gid :: _ :: home :: _ =>
    match number? uid, number? gid with
    | some uid, some gid => .ok ⟨uid, gid, String.ofList home⟩
    | _, _ => .error (.malformed username)
  | _ => .error (.malformed username)

/-- The line describes the user. -/
def isLineOf (username : String) (fields : List (List Char)) : Bool :=
  fields.head? == some username.toList

/-- What the text says about a user, if anything. -/
def find (text : String) (username : String) : Option (Except IdentityError SandboxUser) :=
  (((Text.lines text.toList).filterMap fields?).find? (isLineOf username)).map
    (userOfFields username)

def lookup (root : String) (entry : PathEntry) (username : String) :
    Except IdentityError SandboxUser :=
  let username := if username.isEmpty then rootName else username
  match entry with
  | .absent =>
    if username = rootName then .ok .root
    else .error (.read (filePath root) PathEntry.absentReason)
  | .unreadable reason => .error (.read (filePath root) reason)
  | .file text =>
    match find text username with
    | some result => result
    | none => if username = rootName then .ok .root else .error (.unknownUser username)

end Passwd
end SandboxPods
