import SandboxPods.Text.Blank
import SandboxPods.Number.Decimal

/-!
# Timestamps

A timestamp is a calendar date, a letter T or a blank, a time of day with an
optional fraction, and an offset from universal time, which is required. Fields
have at most their usual number of digits, the year may be signed, blanks may
stand before a field or a separator, and fraction digits past the ninth are
dropped. A sixtieth second is a leap second and is kept in the fraction.
-/
namespace SandboxPods

/-- Seconds of universal time since 1970 and nanoseconds, at least `10 ^ 9` of them within a
leap second. -/
structure Timestamp where
  seconds : Int
  nanos : Nat
  deriving DecidableEq, Repr

namespace Timestamp

abbrev Cut (α : Type) := Option (α × List Char)

/-- A natural number of one to `width` digits; blanks may precede it. -/
def field (width : Nat) (cs : List Char) : Cut Nat :=
  let cs := Text.trimStart cs
  let digits := (cs.takeWhile Decimal.isDigit).take width
  if digits.isEmpty then none else some (Decimal.natOfDigits digits, cs.drop digits.length)

/-- The year: four digits at most, or a sign and any number of them. -/
def year (cs : List Char) : Cut Int :=
  match Text.trimStart cs with
  | '-' :: rest =>
    let digits := rest.takeWhile Decimal.isDigit
    if digits.isEmpty then none
    else some (-(Decimal.natOfDigits digits : Int), rest.drop digits.length)
  | '+' :: rest =>
    let digits := rest.takeWhile Decimal.isDigit
    if digits.isEmpty then none
    else some ((Decimal.natOfDigits digits : Int), rest.drop digits.length)
  | cs => (field 4 cs).map (fun p => ((p.1 : Int), p.2))

/-- What follows a separator; blanks may precede it. -/
def after (sep : Char) (cs : List Char) : Option (List Char) :=
  match Text.trimStart cs with
  | c :: rest => if c = sep then some rest else none
  | [] => none

def between (low high : Nat) (p : Nat × List Char) : Cut Nat :=
  if low ≤ p.1 ∧ p.1 ≤ high then some p else none

/-- Nanoseconds of an optional fraction. -/
def fraction : List Char → Cut Nat
  | '.' :: rest =>
    let digits := rest.takeWhile Decimal.isDigit
    if digits.isEmpty then none
    else
      let kept := digits.take 9
      some (Decimal.natOfDigits kept * Nat.pow 10 (9 - kept.length), rest.drop digits.length)
  | cs => some (0, cs)

def twoDigits : List Char → Cut Nat
  | a :: b :: rest =>
    if Decimal.isDigit a && Decimal.isDigit b then
      some (Decimal.natOfDigits [a, b], rest)
    else none
  | _ => none

/-- Hours and minutes after the sign of an offset, in seconds. -/
def offsetSize (cs : List Char) : Option (Nat × List Char) := do
  let (hours, rest) ← twoDigits cs
  let rest := rest.dropWhile (fun c => c == ':' || Text.isBlank c)
  let (minutes, rest) ← twoDigits rest
  if minutes ≤ 59 then some (hours * 3600 + minutes * 60, rest) else none

def lettersUtc (cs : List Char) : Bool :=
  (cs.take 3).map Decimal.lowerAscii == ['u', 't', 'c']

/-- The offset from universal time in seconds. -/
def offset (cs : List Char) : Cut Int :=
  if lettersUtc cs then some (0, cs.drop 3)
  else match cs with
    | c :: rest =>
      if c = 'Z' ∨ c = 'z' then some (0, rest)
      else if c = '+' then (offsetSize rest).map (fun p => ((p.1 : Int), p.2))
      else if c = '-' ∨ c = '\u2212' then (offsetSize rest).map (fun p => (-(p.1 : Int), p.2))
      else none
    | [] => none

def isLeapYear (y : Int) : Bool := y % 4 == 0 && (y % 100 != 0 || y % 400 == 0)

def daysInMonth (y : Int) (m : Nat) : Nat :=
  if m = 2 then (if isLeapYear y then 29 else 28)
  else if m = 4 ∨ m = 6 ∨ m = 9 ∨ m = 11 then 30
  else 31

/-- Days from 1970-01-01 to a date, counting years from March. -/
def daysOfDate (y : Int) (m d : Nat) : Int :=
  let y := if m ≤ 2 then y - 1 else y
  let era := Int.fdiv y 400
  let yearOfEra := y - era * 400
  let monthFromMarch : Int := (((m + 9) % 12 : Nat) : Int)
  let dayOfYear := (153 * monthFromMarch + 2) / 5 + d - 1
  let dayOfEra := yearOfEra * 365 + yearOfEra / 4 - yearOfEra / 100 + dayOfYear
  era * 146097 + dayOfEra - 719468

/-- Years that a date can have. -/
def hasYear (y : Int) : Bool := decide (-262143 ≤ y ∧ y ≤ 262142)

/-- The date by universal time has such a year. -/
def inRange (seconds : Int) : Bool :=
  decide (daysOfDate (-262143) 1 1 * 86400 ≤ seconds ∧
    seconds < (daysOfDate 262142 12 31 + 1) * 86400)

def read? (s : String) : Option Timestamp := do
  let (y, cs) ← year s.toList
  let cs ← after '-' cs
  let (month, cs) ← (field 2 cs).bind (between 1 12)
  let cs ← after '-' cs
  let (day, cs) ← (field 2 cs).bind (between 1 31)
  let cs ← match cs with
    | c :: rest => if c = 'T' ∨ c = 't' ∨ c = ' ' then some rest else none
    | [] => none
  let (hour, cs) ← (field 2 cs).bind (between 0 23)
  let cs ← after ':' cs
  let (minute, cs) ← (field 2 cs).bind (between 0 59)
  let cs ← after ':' cs
  let (sec, cs) ← (field 2 cs).bind (between 0 60)
  let (nanos, cs) ← fraction cs
  let (shift, cs) ← offset (Text.trimStart cs)
  if !(Text.trimStart cs).isEmpty || decide (daysInMonth y month < day) ||
      decide (86400 ≤ shift.natAbs) then none
  else
    let leap := sec = 60
    let ofDay : Nat := hour * 3600 + minute * 60 + (if leap then 59 else sec)
    let seconds := daysOfDate y month day * 86400 + ofDay - shift
    if hasYear y && inRange seconds then
      some ⟨seconds, if leap then nanos + 1000000000 else nanos⟩
    else none

/-- Nanoseconds from `earlier` to `later`; a leap second passed in full counts. -/
def nanosSince (later earlier : Timestamp) : Int :=
  let ofDay (t : Timestamp) : Int := t.seconds % 86400
  let leap : Int :=
    if ofDay earlier < ofDay later then (if 1000000000 ≤ earlier.nanos then 1 else 0)
    else if ofDay later < ofDay earlier then (if 1000000000 ≤ later.nanos then -1 else 0)
    else 0
  (later.seconds - earlier.seconds + leap) * 1000000000 + later.nanos - earlier.nanos

end Timestamp
end SandboxPods
