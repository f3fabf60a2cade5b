import SandboxPods.Number.Binary64

/-!
# Decimal numerals

A numeral is an optional sign followed by decimal digits with at most one point
and at least one digit, and an optional exponent, a letter e of either case, an
optional sign and at least one digit; or by one of the words inf, infinity and
nan in any case. Nothing may stand before, inside or after it. A numeral denotes
the nearest binary64 value.
-/
namespace SandboxPods.Decimal

/-- A numeral's value: `digits * 10 ^ scale` when it is finite. -/
inductive Magnitude where
  | finite (digits : Nat) (scale : Int)
  | infinite
  | notANumber
  deriving DecidableEq, Repr

structure Numeral where
  negative : Bool
  magnitude : Magnitude
  deriving DecidableEq, Repr

def isDigit (c : Char) : Bool := '0' ≤ c && c ≤ '9'

def digitValue (c : Char) : Nat := c.toNat - '0'.toNat

/-- The natural number that decimal digits spell. -/
def natOfDigits (cs : List Char) : Nat := cs.foldl (fun n c => n * 10 + digitValue c) 0

/-- An optional sign, true for minus, and what follows it. -/
def takeSign : List Char → Bool × List Char
  | '-' :: rest => (true, rest)
  | '+' :: rest => (false, rest)
  | cs => (false, cs)

/-- An exponent that must fill the rest of the text; an empty rest is exponent zero. -/
def exponent? : List Char → Option Int
  | [] => some 0
  | c :: rest =>
    if c = 'e' ∨ c = 'E' then
      let (negative, ds) := takeSign rest
      if ds ≠ [] ∧ ds.all isDigit then
        some (if negative then -(natOfDigits ds : Int) else natOfDigits ds)
      else none
    else none

/-- Digits with at most one point, then an exponent. -/
def finite? (cs : List Char) : Option Magnitude :=
  let whole := cs.takeWhile isDigit
  let afterWhole := cs.dropWhile isDigit
  let (fraction, rest) :=
    match afterWhole with
    | '.' :: more => (more.takeWhile isDigit, more.dropWhile isDigit)
    | _ => ([], afterWhole)
  if whole = [] ∧ fraction = [] then none
  else (exponent? rest).map (fun e =>
    .finite (natOfDigits (whole ++ fraction)) (e - fraction.length))

def lowerAscii (c : Char) : Char :=
  if 'A' ≤ c ∧ c ≤ 'Z' then Char.ofNat (c.toNat + 32) else c

def word? (cs : List Char) : Option Magnitude :=
  let w := String.ofList (cs.map lowerAscii)
  if w = "inf" ∨ w = "infinity" then some .infinite
  else if w = "nan" then some .notANumber
  else none

def read? (cs : List Char) : Option Numeral :=
  let (negative, rest) := takeSign cs
  ((word? rest).or (finite? rest)).map (fun m => ⟨negative, m⟩)

/-- The bit pattern of `digits * 10 ^ scale`; magnitudes far outside the range of
binary64 are settled by their number of digits. -/
def bitsOfDecimal (digits : Nat) (scale : Int) : Nat :=
  let size : Int := (Nat.log2 digits : Int) * 30103 / 100000 + scale
  if digits = 0 ∨ size < -400 then 0
  else if 400 < size then Binary64.infinityBits
  else if 0 ≤ scale then Binary64.bitsOfRatio (digits * Nat.pow 10 scale.toNat) 1
  else Binary64.bitsOfRatio digits (Nat.pow 10 (-scale).toNat)

def Numeral.toFloat (x : Numeral) : Float :=
  match x.magnitude with
  | .finite digits scale => Binary64.ofParts x.negative (bitsOfDecimal digits scale)
  | .infinite => Binary64.ofParts x.negative Binary64.infinityBits
  | .notANumber => Float.ofBits 0x7ff8000000000000

/-- The value of a numeral, none when the text is not one. -/
def toFloat? (cs : List Char) : Option Float := (read? cs).map Numeral.toFloat

end SandboxPods.Decimal
