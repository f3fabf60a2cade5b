import SandboxPods.Text.Utf8

/-!
# Percent-encoding

A byte stands as itself when it is an ASCII letter, a digit or one of hyphen,
underscore, full stop and tilde; every other byte is a percent sign and two
upper-case hexadecimal digits. Decoding takes digits of either case, so encoded
text decodes to the bytes it came from and the encoding of a text holds none of
the characters that structure a request path.
-/
namespace SandboxPods.Percent

def isUnreserved (b : UInt8) : Bool :=
  (0x30 ≤ b && b ≤ 0x39) || (0x41 ≤ b && b ≤ 0x5a) || (0x61 ≤ b && b ≤ 0x7a) ||
  b == 0x2d || b == 0x2e || b == 0x5f || b == 0x7e

def upperHexDigit (n : Nat) : Char :=
  if n < 10 then Char.ofNat (48 + n) else Char.ofNat (55 + n)

def hexValue? (c : Char) : Option Nat :=
  let n := c.toNat
  if 48 ≤ n ∧ n ≤ 57 then some (n - 48)
  else if 65 ≤ n ∧ n ≤ 70 then some (n - 55)
  else if 97 ≤ n ∧ n ≤ 102 then some (n - 87)
  else none

def encodeByte (b : UInt8) : List Char :=
  if isUnreserved b then [Char.ofNat b.toNat]
  else ['%', upperHexDigit (b.toNat / 16), upperHexDigit (b.toNat % 16)]

def encodeBytes (bytes : List UInt8) : List Char := bytes.flatMap encodeByte

def encode (s : String) : List Char := encodeBytes (Utf8.encode s)

/-- A byte of a form's value: a blank is a plus sign, and of the signs an asterisk stands as
itself but a tilde does not. -/
def encodeFormByte (b : UInt8) : List Char :=
  if b = 0x20 then ['+']
  else if b = 0x2a then ['*']
  else if b = 0x7e then ['%', '7', 'E']
  else encodeByte b

def encodeForm (s : String) : List Char := (Utf8.encode s).flatMap encodeFormByte

/-- The bytes a text stands for; none when a percent sign lacks its digits or a
character is not ASCII. -/
def decodeBytes? : List Char → Option (List UInt8)
  | [] => some []
  | '%' :: a :: b :: rest =>
    match hexValue? a, hexValue? b, decodeBytes? rest with
    | some x, some y, some bytes => some (UInt8.ofNat (x * 16 + y) :: bytes)
    | _, _, _ => none
  | c :: rest =>
    if c = '%' ∨ 128 ≤ c.toNat then none
    else (decodeBytes? rest).map (UInt8.ofNat c.toNat :: ·)

end SandboxPods.Percent
