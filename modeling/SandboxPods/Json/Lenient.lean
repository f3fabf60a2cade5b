import SandboxPods.Json.Record

/-!
# Reading members leniently

What a member of an object holds, taken as far as it has the expected type. A
member that is missing or has another type is empty, so nothing fails here; of
members with one name the first counts.
-/
namespace SandboxPods.Json

def membersOf : Value → List (String × Value)
  | .object ms => ms
  | _ => []

def itemsOf : Value → List Value
  | .array l => l
  | _ => []

def member (v : Value) (name : String) : Value := (valueOf name (membersOf v)).getD .null

def textAt? (v : Value) (name : String) : Option String := text (member v name)

def textAt (v : Value) (name : String) : String := (textAt? v name).getD ""

def intOf? : Value → Option Int
  | .int n => some n
  | _ => none

def intAt? (v : Value) (name : String) : Option Int := intOf? (member v name)

def natAt (v : Value) (name : String) : Nat := ((intAt? v name).getD 0).toNat

def listAt (v : Value) (name : String) : List Value := itemsOf (member v name)

/-- Items that are no text are empty texts. -/
def textsAt (v : Value) (name : String) : List String :=
  (listAt v name).map (fun x => (text x).getD "")

def tableAt (v : Value) (name : String) : Table String :=
  Table.ofList ((membersOf (member v name)).map (fun m => (m.1, (text m.2).getD "")))

def portAt (v : Value) (name : String) : UInt16 := UInt16.ofNat (natAt v name)

def word32At (v : Value) (name : String) : UInt32 := UInt32.ofNat (natAt v name)

def word64At (v : Value) (name : String) : UInt64 := UInt64.ofNat (natAt v name)

end SandboxPods.Json
