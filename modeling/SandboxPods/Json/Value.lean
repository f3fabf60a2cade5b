import SandboxPods.Table

/-!
# JSON values

A number that is written as an integer is kept as one, whatever its size; every
other number, minus zero included, is kept as written, because no record here
has a field that accepts it. A string whose escapes or bytes spell no Unicode
text is a value too: it may stand in a member nobody reads, and it is refused
wherever text is expected. An object with such a key is refused and passed over
in the same way.
-/
namespace SandboxPods.Json

inductive Value where
  | null
  | bool (b : Bool)
  | int (n : Int)
  | real (written : String)
  | string (s : String)
  | garbled
  | array (items : List Value)
  | object (members : List (String × Value))
  deriving Repr, BEq, Inhabited

/-- A member, present only when there is a value. -/
def optionalMember {α : Type} (name : String) (write : α → Value) : Option α → List (String × Value)
  | none => []
  | some a => [(name, write a)]

/-- A member, present only when the list has items. -/
def listMember {α : Type} (name : String) (write : α → Value) : List α → List (String × Value)
  | [] => []
  | items => [(name, .array (items.map write))]

def ofTable {α : Type} (write : α → Value) (t : Table α) : Value :=
  .object (t.entries.map (fun e => (e.1, write e.2)))

/-- A member, present only when the table has entries. -/
def tableMember {α : Type} (name : String) (write : α → Value) (t : Table α) :
    List (String × Value) :=
  if t.isEmpty then [] else [(name, ofTable write t)]

/-- A member, present only when the text is not empty. -/
def textMember (name s : String) : List (String × Value) :=
  if s.isEmpty then [] else [(name, .string s)]

def ofOption {α : Type} (write : α → Value) : Option α → Value
  | none => .null
  | some a => write a

def ofNat (n : Nat) : Value := .int n

def ofWord64 (n : UInt64) : Value := ofNat n.toNat

def ofStrings (l : List String) : Value := .array (l.map .string)

end SandboxPods.Json
