import SandboxPods.Text.Blank
import SandboxPods.Number.Decimal

/-!
# Spans of time

A span is a whole number of nanoseconds. Its text is one or more numbers, each
with a unit; blanks may stand around and inside numbers, one may follow a unit,
and a bare zero needs no unit. A number may carry a fraction with at least one
digit, provided the fraction of the unit comes out exact: in nanoseconds for
units from the microsecond to the minute, in seconds for longer units, and never
for nanoseconds. All intermediate results must fit sixty-four bits.
-/
namespace SandboxPods

/-- A span of time in nanoseconds. -/
abbrev Span := Nat

namespace Span

def second : Span := 1000000000

def millisecond : Span := 1000000

def wordLimit : Nat := 18446744073709551616

/-- A unit: how many of its base a unit is, and whether the base is the second. -/
structure Scale where
  factor : Nat
  inSeconds : Bool
  deriving DecidableEq, Repr

/-- The units by name. -/
def scale? (name : String) : Option Scale :=
  if name ∈ ["nanos", "nsec", "ns"] then some ⟨1, false⟩
  else if name ∈ ["usec", "us", "\u00b5s"] then some ⟨1000, false⟩
  else if name ∈ ["millis", "msec", "ms"] then some ⟨1000000, false⟩
  else if name ∈ ["seconds", "second", "secs", "sec", "s"] then some ⟨1, true⟩
  else if name ∈ ["minutes", "minute", "min", "mins", "m"] then some ⟨60, true⟩
  else if name ∈ ["hours", "hour", "hr", "hrs", "h"] then some ⟨3600, true⟩
  else if name ∈ ["days", "day", "d"] then some ⟨86400, true⟩
  else if name ∈ ["weeks", "week", "wk", "wks", "w"] then some ⟨604800, true⟩
  else if name ∈ ["months", "month", "M"] then some ⟨2630016, true⟩
  else if name ∈ ["years", "year", "yr", "yrs", "y"] then some ⟨31557600, true⟩
  else none

/-- A number that fits sixty-four bits. -/
def fits (n : Nat) : Option Nat := if n < wordLimit then some n else none

/-- The sum of a span and further seconds and nanoseconds, as far as the seconds and the
pending nanoseconds each fit. -/
def add? (t : Span) (seconds nanos : Nat) : Option Span := do
  let pending ← fits (t % second + nanos)
  let carried ← fits (seconds + pending / second)
  let total ← fits (t / second + carried)
  return total * second + pending % second

/-- Numerator over a power of ten. -/
structure Fraction where
  numerator : Nat
  denominator : Nat
  deriving DecidableEq, Repr

/-- The exact part of a unit that a fraction denotes, in seconds and nanoseconds. -/
def Scale.part? (u : Scale) (f : Fraction) : Option (Nat × Nat) :=
  let fine := !u.inSeconds || u.factor ≤ 60
  let factor := if u.inSeconds && fine then u.factor * second else u.factor
  if factor = 1 then none
  else (fits (f.numerator * factor)).bind (fun n =>
    if n % f.denominator = 0 then
      some (if fine then (0, n / f.denominator) else (n / f.denominator, 0))
    else none)

/-- Adds a number of units to a span. -/
def addUnits? (t : Span) (whole : Nat) (fraction : Option Fraction) (unit : String) :
    Option Span := do
  let u ← scale? unit
  let n ← fits (whole * u.factor)
  let t ← if u.inSeconds then add? t n 0 else add? t 0 n
  match fraction with
  | none => return t
  | some f =>
    let (seconds, nanos) ← u.part? f
    add? t seconds nanos

def isUnitChar (c : Char) : Bool :=
  ('a' ≤ c && c ≤ 'z') || ('A' ≤ c && c ≤ 'Z') || c == '\u00b5'

/-- Digits with blanks among them: their value, how many there are, and what follows. -/
def takeDigits (cs : List Char) : List Char × List Char :=
  let run := cs.takeWhile (fun c => Decimal.isDigit c || Text.isBlank c)
  (run.filter Decimal.isDigit, cs.dropWhile (fun c => Decimal.isDigit c || Text.isBlank c))

/-- A fraction after its point; it must have a digit. -/
def takeFraction? (cs : List Char) : Option (Fraction × List Char) := do
  let (digits, rest) := takeDigits cs
  if digits.isEmpty then none
  else
    let denominator ← fits (Nat.pow 10 digits.length)
    return (⟨Decimal.natOfDigits digits, denominator⟩, rest)

/-- One number and its unit from the front, added to a span; the number must have a digit. -/
def takeTerm? (t : Span) (cs : List Char) : Option (Span × List Char) := do
  match Text.trimStart cs with
  | [] => none
  | c :: more =>
    if !Decimal.isDigit c then none
    else
      let (digits, rest) := takeDigits (c :: more)
      let whole ← fits (Decimal.natOfDigits digits)
      let (fraction, rest) ← match rest with
        | '.' :: after => (takeFraction? after).map (fun p => (some p.1, p.2))
        | _ => some (none, rest)
      let unit := rest.takeWhile isUnitChar
      let t ← addUnits? t whole fraction (String.ofList unit)
      match rest.dropWhile isUnitChar with
      | [] => return (t, [])
      | d :: after =>
        if Decimal.isDigit d then return (t, d :: after)
        else if Text.isBlank d then return (t, after)
        else none

/-- All terms to the end of the text; each takes at least one character. -/
def takeTerms? : Nat → Span → List Char → Option Span
  | 0, _, _ => none
  | fuel + 1, t, cs =>
    match takeTerm? t cs with
    | none => none
    | some (t, rest) => if (Text.trimStart rest).isEmpty then some t else takeTerms? fuel t rest

/-- The span a text denotes. -/
def read? (s : String) : Option Span :=
  if s = "0" then some 0 else takeTerms? (s.length + 1) 0 s.toList

end Span
end SandboxPods
