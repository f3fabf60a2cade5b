import SandboxPods.Text.Blank
import SandboxPods.Number.Decimal

/-!
# Resource quantities

A quantity is text: a numeral, perhaps with a suffix that scales it. Sub-unit
suffixes divide, so that 3800m is exactly 3.8. Blanks around the text do not
count. The whole number of a quantity is rounded up and clamped to sixty-four
signed bits.
-/
namespace SandboxPods

structure Quantity where
  text : String
  deriving DecidableEq, Repr, Inhabited

namespace Quantity

/-- A suffix with the factor and the divisor it stands for. -/
structure Suffix where
  letters : List Char
  factor : Float
  divisor : Float

/-- Binary, sub-unit and decimal suffixes, in the order in which they are tried. -/
def suffixes : List Suffix := [
  ⟨['K', 'i'], 1024, 1⟩,
  ⟨['M', 'i'], 1048576, 1⟩,
  ⟨['G', 'i'], 1073741824, 1⟩,
  ⟨['T', 'i'], 1099511627776, 1⟩,
  ⟨['P', 'i'], 1125899906842624, 1⟩,
  ⟨['E', 'i'], 1152921504606846976, 1⟩,
  ⟨['n'], 1, 1e9⟩,
  ⟨['u'], 1, 1e6⟩,
  ⟨['m'], 1, 1e3⟩,
  ⟨['k'], 1e3, 1⟩,
  ⟨['M'], 1e6, 1⟩,
  ⟨['G'], 1e9, 1⟩,
  ⟨['T'], 1e12, 1⟩,
  ⟨['P'], 1e15, 1⟩,
  ⟨['E'], 1e18, 1⟩]

/-- A plain amount. -/
def ofUnits (n : UInt64) : Quantity := ⟨toString n.toNat⟩

/-- An amount in thousandths. -/
def ofMillis (n : UInt64) : Quantity := ⟨toString n.toNat ++ "m"⟩

/-- The amount that a numeral before a suffix stands for. -/
def scaled? (cs : List Char) (s : Suffix) : Option Float :=
  (List.isSuffixOf? s.letters cs).bind (fun number =>
    (Decimal.toFloat? number).map (fun x => x * s.factor / s.divisor))

/-- The amount, none when the text is no quantity. -/
def amount? (q : Quantity) : Option Float :=
  let cs := Text.trim q.text.toList
  if cs.isEmpty then none
  else (suffixes.findSome? (scaled? cs)).or (Decimal.toFloat? cs)

/-- The amount rounded up to a whole number. -/
def whole? (q : Quantity) : Option Int64 := q.amount?.map (fun x => x.ceil.toInt64)

/-- The amount as a count: nothing readable counts as zero, and so does a negative amount. -/
def count (q : Option Quantity) : UInt64 :=
  match q.bind whole? with
  | some n => if n < 0 then 0 else n.toUInt64
  | none => 0

end Quantity
end SandboxPods
