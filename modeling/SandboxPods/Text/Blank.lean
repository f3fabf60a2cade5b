/-!
# Blanks and lines

A blank is a character with the Unicode property White_Space; a no-break space
and an ideographic space are blanks, a zero-width space is not. Trimming removes
blanks at both ends. A text is cut into lines at line feeds, one carriage return
before the line feed belongs to the ending, and a final line feed opens no
further line.
-/
namespace SandboxPods.Text

/-- Unicode White_Space. -/
def isBlank (c : Char) : Bool :=
  let n := c.toNat
  (0x09 ≤ n && n ≤ 0x0d) || n == 0x20 || n == 0x85 || n == 0xa0 || n == 0x1680 ||
  (0x2000 ≤ n && n ≤ 0x200a) || n == 0x2028 || n == 0x2029 || n == 0x202f ||
  n == 0x205f || n == 0x3000

def trimStart (cs : List Char) : List Char := cs.dropWhile isBlank

def trimEnd (cs : List Char) : List Char := (cs.reverse.dropWhile isBlank).reverse

/-- The text without the blanks at its two ends. -/
def trim (cs : List Char) : List Char := trimEnd (trimStart cs)

/-- Pieces between line feeds, with a flag telling whether a line feed ended the piece. -/
def cutAtLineFeeds : List Char → List Char → List (List Char × Bool)
  | [], [] => []
  | [], acc => [(acc.reverse, false)]
  | c :: rest, acc =>
    if c = '\n' then (acc.reverse, true) :: cutAtLineFeeds rest []
    else cutAtLineFeeds rest (c :: acc)

def dropCarriageReturn (cs : List Char) : List Char :=
  if cs.getLast? = some '\r' then cs.dropLast else cs

def lines (cs : List Char) : List (List Char) :=
  (cutAtLineFeeds cs []).map (fun p => if p.2 then dropCarriageReturn p.1 else p.1)

end SandboxPods.Text
