import SandboxPods.Text.Plain

/-!
# Failures and their messages

Every failure of this library has a kind, by which programs tell it from others,
and a message for people.

Messages show caller-supplied text between double quotes. A quote and a
backslash are written with a backslash in front, tab, line feed, carriage return
and the null character have letters of their own, and every other character
that is not plain is written as its code point in lower-case hexadecimal. An
apostrophe stands as itself.
-/
namespace SandboxPods

class Failure (ε : Type) where
  kind : ε → String
  message : ε → String

namespace Text

/-- Lower-case hexadecimal without leading zeros. -/
def hexText (n : Nat) : List Char :=
  Nat.toDigits 16 n

/-- How one character is written inside quoted text. -/
def escapeChar (c : Char) : List Char :=
  if c = '"' then ['\\', '"']
  else if c = '\\' then ['\\', '\\']
  else if c = '\t' then ['\\', 't']
  else if c = '\n' then ['\\', 'n']
  else if c = '\r' then ['\\', 'r']
  else if c = '\x00' then ['\\', '0']
  else if isPlain c then [c]
  else ['\\', 'u', '{'] ++ hexText c.toNat ++ ['}']

def quoted (s : String) : String :=
  String.ofList ('"' :: s.toList.flatMap escapeChar ++ ['"'])

end Text
end SandboxPods
