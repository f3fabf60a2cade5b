/-!
# Rounding to binary64

A positive rational is rounded to the nearest binary64 value, halves to the even
neighbour, gradually below the normal range and to infinity above it. All the
work is on natural numbers: a value is `m * 2 ^ q`, and the bit pattern of a
finite value is the significand plus the exponent step times `2 ^ 52`, so a
significand that rounds up to `2 ^ 53` carries into the exponent by itself.
-/
namespace SandboxPods.Binary64

/-- The quotient rounded to the nearest natural number, halves to the even one. -/
def roundHalfEven (n d : Nat) : Nat :=
  let q := n / d
  let r := n % d
  if 2 * r < d then q
  else if d < 2 * r then q + 1
  else if q % 2 = 0 then q else q + 1

/-- The exponent `e` with `2 ^ e ≤ n / d < 2 ^ (e + 1)`, for positive `n` and `d`. -/
def exponentOf (n d : Nat) : Int :=
  let e : Int := (Nat.log2 n : Int) - (Nat.log2 d : Int)
  if (if 0 ≤ e then n < d * Nat.pow 2 e.toNat else n * Nat.pow 2 (-e).toNat < d) then e - 1 else e

def infinityBits : Nat := 0x7ff0000000000000

/-- The bit pattern of `n / d` rounded to binary64. -/
def bitsOfRatio (n d : Nat) : Nat :=
  if n = 0 ∨ d = 0 then 0
  else
    let q := max (exponentOf n d - 52) (-1074)
    let m :=
      if 0 ≤ q then roundHalfEven n (d * Nat.pow 2 q.toNat)
      else roundHalfEven (n * Nat.pow 2 (-q).toNat) d
    min ((q + 1074).toNat * Nat.pow 2 52 + m) infinityBits

def signBit : Nat := 0x8000000000000000

def ofParts (negative : Bool) (bits : Nat) : Float :=
  Float.ofBits (UInt64.ofNat (if negative then signBit + bits else bits))

/-- A finite value's magnitude as a significand and an exponent of two. -/
def significand (bits : Nat) : Nat × Int :=
  let e : Nat := bits / Nat.pow 2 52 % 2048
  let f : Nat := bits % Nat.pow 2 52
  if e = 0 then (f, -1074) else (f + Nat.pow 2 52, (e : Int) - 1075)

end SandboxPods.Binary64
