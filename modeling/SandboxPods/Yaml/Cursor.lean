/-!
# Positions in a YAML document

A cursor is the text still to be read with its line, its column and its index, the
number of octets of UTF-8 before it. Line breaks are line feed, carriage return,
the two together, next line, line separator and paragraph separator; a break that
is kept is read as a line feed, except that the two separators keep their own
character.
-/
namespace SandboxPods.Yaml

structure Cursor where
  rest : List Char
  index : Nat
  line : Nat
  column : Nat
  deriving Repr

def isBreak (c : Char) : Bool :=
  c == '\n' || c == '\r' || c == '\u0085' || c == '\u2028' || c == '\u2029'

/-- A space or a tab. -/
def isSpace (c : Char) : Bool := c == ' ' || c == '\t'

/-- A space, a tab or a line break. -/
def isGap (c : Char) : Bool := isSpace c || isBreak c

/-- Nothing, a gap character, comes next. -/
def gapOrEnd : List Char → Bool
  | [] => true
  | c :: _ => isGap c

def breakOrEnd : List Char → Bool
  | [] => true
  | c :: _ => isBreak c

/-- A letter, a digit, a hyphen or an underscore. -/
def isWordChar (c : Char) : Bool :=
  ('0' ≤ c && c ≤ '9') || ('A' ≤ c && c ≤ 'Z') || ('a' ≤ c && c ≤ 'z') || c == '_' || c == '-'

/-- The text starts with three times `mark` and then a gap or its end. -/
def isDocumentMark (mark : Char) : List Char → Bool
  | a :: b :: c :: rest => a == mark && b == mark && c == mark && gapOrEnd rest
  | _ => false

/-- Characters that a document may hold at all. -/
def isAllowed (c : Char) : Bool :=
  let n := c.toNat
  n == 0x09 || n == 0x0a || n == 0x0d || (0x20 ≤ n && n ≤ 0x7e) || n == 0x85 ||
  (0xa0 ≤ n && n ≤ 0xd7ff) || (0xe000 ≤ n && n ≤ 0xfffd) || 0x10000 ≤ n

namespace Cursor

def start (cs : List Char) : Cursor := ⟨cs, 0, 0, 0⟩

def octets (cs : List Char) : Nat := cs.foldr (fun c n => c.utf8Size + n) 0

/-- Past `n` characters of the same line. -/
def skip (k : Cursor) (n : Nat) : Cursor :=
  ⟨k.rest.drop n, k.index + octets (k.rest.take n), k.line, k.column + n⟩

/-- Past a line break, with the text the break stands for; nothing without one. -/
def takeBreak (k : Cursor) : List Char × Cursor :=
  match k.rest with
  | '\r' :: '\n' :: rest => (['\n'], ⟨rest, k.index + 2, k.line + 1, 0⟩)
  | c :: rest =>
    if isBreak c then
      ([if c = '\u2028' ∨ c = '\u2029' then c else '\n'],
        ⟨rest, k.index + c.utf8Size, k.line + 1, 0⟩)
    else ([], k)
  | [] => ([], k)

def skipBreak (k : Cursor) : Cursor := k.takeBreak.2

/-- The characters of the line that satisfy `p`, and the cursor past them. -/
def takeWhile (k : Cursor) (p : Char → Bool) : List Char × Cursor :=
  let taken := k.rest.takeWhile p
  (taken, k.skip taken.length)

def skipWhile (k : Cursor) (p : Char → Bool) : Cursor := (k.takeWhile p).2

/-- Past a comment, up to the end of its line. -/
def skipComment (k : Cursor) : Cursor :=
  match k.rest with
  | '#' :: _ => k.skipWhile (fun c => !isBreak c)
  | _ => k

/-- A document mark at the start of a line. -/
def atDocumentMark (k : Cursor) : Bool :=
  k.column == 0 && (isDocumentMark '-' k.rest || isDocumentMark '.' k.rest)

end Cursor

end SandboxPods.Yaml
