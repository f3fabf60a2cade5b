import SandboxPods.Json.Value

/-!
# Records in JSON

A record is read from an object by field name or from an array by field position.
In an object unknown members are passed over and a known member may stand only
once; an array may be shorter than the record but not longer. A field that is
left out takes its default if it has one.
-/
namespace SandboxPods.Json

structure Fields where
  find : String → Option Value
  /-- The record was written as an object. -/
  named : Bool

def valueOf (name : String) : List (String × Value) → Option Value
  | [] => none
  | m :: rest => if m.1 = name then some m.2 else valueOf name rest

/-- The fields of a record with the given names, in declaration order. -/
def fields (names : List String) : Value → Option Fields
  | .object members =>
    if names.all (fun n => (members.filter (fun m => m.1 == n)).length ≤ 1) then
      some ⟨fun n => valueOf n members, true⟩
    else none
  | .array items =>
    if items.length ≤ names.length then
      some ⟨fun n => valueOf n (names.zip items), false⟩
    else none
  | _ => none

/-- A field that must be given. -/
def Fields.required {α : Type} (f : Fields) (name : String) (read : Value → Option α) : Option α :=
  (f.find name).bind read

/-- A field that takes a default when it is left out. -/
def Fields.withDefault {α : Type} (f : Fields) (name : String) (default : α)
    (read : Value → Option α) : Option α :=
  match f.find name with
  | none => some default
  | some v => read v

/-- A value that may be null. -/
def nullable {α : Type} (read : Value → Option α) : Value → Option (Option α)
  | .null => some none
  | v => (read v).map some

/-- A field that may be null or left out. -/
def Fields.optional {α : Type} (f : Fields) (name : String) (read : Value → Option α) :
    Option (Option α) :=
  f.withDefault name none (nullable read)

/-- A field that may be null, and left out of an object but not of an array. -/
def Fields.optionalByName {α : Type} (f : Fields) (name : String) (read : Value → Option α) :
    Option (Option α) :=
  if f.named then f.optional name read else f.required name (nullable read)

/-! ## Field types -/

def text : Value → Option String
  | .string s => some s
  | _ => none

def boolean : Value → Option Bool
  | .bool b => some b
  | _ => none

/-- An integer between the bounds. -/
def integer (low high : Int) : Value → Option Int
  | .int n => if low ≤ n ∧ n ≤ high then some n else none
  | _ => none

def port : Value → Option UInt16
  | .int n => if 0 ≤ n ∧ n ≤ 65535 then some (UInt16.ofNat n.toNat) else none
  | _ => none

def word64 : Value → Option UInt64
  | .int n => if 0 ≤ n ∧ n < 18446744073709551616 then some (UInt64.ofNat n.toNat) else none
  | _ => none

def listOf {α : Type} (read : Value → Option α) : Value → Option (List α)
  | .array items => items.mapM read
  | _ => none

/-- A table; of members with one key the last one counts. -/
def tableOf {α : Type} (read : Value → Option α) : Value → Option (Table α)
  | .object members =>
    (members.mapM (fun m => (read m.2).map (fun a => (m.1, a)))).map Table.ofList
  | _ => none

end SandboxPods.Json
