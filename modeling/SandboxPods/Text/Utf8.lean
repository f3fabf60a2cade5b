/-!
# Bytes as UTF-8 text

Bytes are read by a machine that owes, after a leading byte, a number of
continuation bytes; the bounds on the next one exclude overlong forms,
surrogates and values above the last code point. A byte that breaks a character
off ends a broken sequence and is read again as a start, so each broken sequence
is as long as a well-formed beginning can be. Strict reading fails on a broken
sequence, lenient reading puts one replacement character in its place.
-/
namespace SandboxPods.Utf8

/-- A character under way: bytes still owed, bounds on the next, bits so far. -/
structure Pending where
  owed : Nat
  low : Nat
  high : Nat
  value : Nat
  deriving DecidableEq, Repr

/-- What a byte between characters settles at once and what it leaves under way. -/
def start (b : Nat) : List (Option Char) × Option Pending :=
  if b < 0x80 then ([some (Char.ofNat b)], none)
  else if 0xc2 ≤ b ∧ b ≤ 0xdf then ([], some ⟨1, 0x80, 0xbf, b - 0xc0⟩)
  else if b = 0xe0 then ([], some ⟨2, 0xa0, 0xbf, 0⟩)
  else if b = 0xed then ([], some ⟨2, 0x80, 0x9f, 0xd⟩)
  else if 0xe1 ≤ b ∧ b ≤ 0xef then ([], some ⟨2, 0x80, 0xbf, b - 0xe0⟩)
  else if b = 0xf0 then ([], some ⟨3, 0x90, 0xbf, 0⟩)
  else if 0xf1 ≤ b ∧ b ≤ 0xf3 then ([], some ⟨3, 0x80, 0xbf, b - 0xf0⟩)
  else if b = 0xf4 then ([], some ⟨3, 0x80, 0x8f, 4⟩)
  else ([none], none)

/-- One byte after what is under way. -/
def step : Option Pending → Nat → List (Option Char) × Option Pending
  | none, b => start b
  | some p, b =>
    if p.low ≤ b ∧ b ≤ p.high then
      let value := p.value * 64 + (b - 0x80)
      if p.owed = 1 then ([some (Char.ofNat value)], none)
      else ([], some ⟨p.owed - 1, 0x80, 0xbf, value⟩)
    else (none :: (start b).1, (start b).2)

/-- Characters in order, none for each broken sequence. -/
def scan : Option Pending → List UInt8 → List (Option Char)
  | none, [] => []
  | some _, [] => [none]
  | under, b :: rest => (step under b.toNat).1 ++ scan (step under b.toNat).2 rest

/-- The text, none when some sequence is broken. -/
def decode? (bytes : List UInt8) : Option (List Char) :=
  (scan none bytes).mapM id

/-- The text with a replacement character for each broken sequence. -/
def decodeLenient (bytes : List UInt8) : List Char :=
  (scan none bytes).map (fun c => c.getD '\ufffd')

def encode (s : String) : List UInt8 := s.toUTF8.toList

end SandboxPods.Utf8
