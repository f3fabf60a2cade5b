import SandboxPods.Number.Binary64

/-!
# Shortest decimal text of a binary64 value

Among the decimals that round to a value, the shortest is the one with the
fewest digits, and of those the nearest to the value. For each number of digits
from one to seventeen only the value's two neighbours on that decimal grid can
round to it, so both are tested in exact arithmetic; the interval of numbers that
round to the value holds its ends exactly when the significand is even. The text
is positional from one ten-thousandth up to ten to the sixteenth, always with a
fraction, and scientific outside that range.
-/
namespace SandboxPods.Shortest

/-- `n / d` compared with `a * 10 ^ k` for a candidate `a`. -/
structure Target where
  /-- Numerator of the value. -/
  num : Nat
  /-- Half the distance to the next value above. -/
  halfUp : Nat
  /-- Half the distance to the next value below. -/
  halfDown : Nat
  /-- Common denominator of the three. -/
  den : Nat
  /-- The ends of the interval round to the value too. -/
  closed : Bool
  deriving Repr

/-- The target of the finite value with significand `m` and exponent `q`. -/
def Target.of (m : Nat) (q : Int) : Target :=
  let up := if 0 ≤ q then Nat.pow 2 q.toNat else 1
  let den := if 0 ≤ q then 1 else Nat.pow 2 (-q).toNat
  let narrow := m = Nat.pow 2 52 ∧ -1074 < q
  ⟨4 * m * up, 2 * up, if narrow then up else 2 * up, 4 * den, m % 2 = 0⟩

/-- The decimal `a * 10 ^ k` rounds to the target. -/
def Target.holds (t : Target) (a : Nat) (k : Int) : Bool :=
  let x := if 0 ≤ k then a * Nat.pow 10 k.toNat * t.den else a * t.den
  let scale := if 0 ≤ k then 1 else Nat.pow 10 (-k).toNat
  let low := (t.num - t.halfDown) * scale
  let high := (t.num + t.halfUp) * scale
  if t.closed then low ≤ x && x ≤ high else low < x && x < high

/-- The largest grid point `a` with `a * 10 ^ k` not above the target, and twice the rest
against one grid step: is the upper neighbour at least as near. -/
def Target.floorAt (t : Target) (k : Int) : Nat × Bool :=
  let n := if 0 ≤ k then t.num else t.num * Nat.pow 10 (-k).toNat
  let d := if 0 ≤ k then t.den * Nat.pow 10 k.toNat else t.den
  (n / d, d ≤ 2 * (n % d))

/-- The better neighbour on the grid of step `10 ^ k` that rounds to the target. -/
def Target.onGrid (t : Target) (k : Int) : Option Nat :=
  let (a, upperNearer) := t.floorAt k
  let (first, second) := if upperNearer then (a + 1, a) else (a, a + 1)
  if t.holds first k && first != 0 then some first
  else if t.holds second k && second != 0 then some second
  else none

/-- The exponent `e` with `10 ^ e ≤ num / den < 10 ^ (e + 1)`, searched from an estimate. -/
def decimalExponent (num den : Nat) : Int :=
  let estimate : Int := ((Nat.log2 num : Int) - (Nat.log2 den : Int)) * 30103 / 100000 - 1
  let reaches (e : Int) : Bool :=
    if 0 ≤ e then den * Nat.pow 10 e.toNat ≤ num else den ≤ num * Nat.pow 10 (-e).toNat
  if reaches (estimate + 2) then estimate + 2
  else if reaches (estimate + 1) then estimate + 1
  else estimate

/-- Tries one more digit at a time. -/
def search (t : Target) (top : Int) : Nat → Nat → Nat × Int
  | 0, _ => (0, 0)
  | fuel + 1, count =>
    let k := top - (count : Int) + 1
    match t.onGrid k with
    | some a => (a, k)
    | none => search t top fuel (count + 1)

/-- Digits and exponent of ten of the shortest decimal, without trailing zeros. -/
def digits (m : Nat) (q : Int) : Nat × Int :=
  let t := Target.of m q
  search t (decimalExponent t.num t.den) 17 1

def stripZeros : Nat → Nat × Int → Nat × Int
  | 0, p => p
  | fuel + 1, (a, k) => if a ≠ 0 ∧ a % 10 = 0 then stripZeros fuel (a / 10, k + 1) else (a, k)

def zeros (n : Nat) : List Char := List.replicate n '0'

/-- Positional text with at least one fraction digit. -/
def positional (ds : List Char) (point : Int) : List Char :=
  if point ≤ 0 then ['0', '.'] ++ zeros (-point).toNat ++ ds
  else if ds.length ≤ point.toNat then ds ++ zeros (point.toNat - ds.length) ++ ['.', '0']
  else ds.take point.toNat ++ '.' :: ds.drop point.toNat

/-- One digit, the other digits as a fraction if there are any, and the exponent. -/
def scientific (ds : List Char) (point : Int) : List Char :=
  let fraction := if ds.length ≤ 1 then [] else '.' :: ds.drop 1
  ds.take 1 ++ fraction ++ 'e' :: (toString (point - 1)).toList

def render (x : Float) : String :=
  let bits := x.toBits.toNat
  let negative := Binary64.signBit ≤ bits
  let magnitude := bits % Binary64.signBit
  let sign := if negative then "-" else ""
  if Binary64.infinityBits < magnitude then "NaN"
  else if magnitude = Binary64.infinityBits then sign ++ "inf"
  else if magnitude = 0 then sign ++ "0.0"
  else
    let (m, q) := Binary64.significand magnitude
    let (a, k) := stripZeros 20 (digits m q)
    let ds := (toString a).toList
    let point : Int := ds.length + k
    let text := if -4 < point ∧ point ≤ 16 then positional ds point else scientific ds point
    sign ++ String.ofList text

end SandboxPods.Shortest
