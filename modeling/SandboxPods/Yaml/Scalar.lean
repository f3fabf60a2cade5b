import SandboxPods.Yaml.Cursor
import SandboxPods.Text.Percent

/-!
# YAML scalars

The five ways to write a scalar. Plain and quoted scalars fold the line breaks
inside them: a single break is a space, and each further break is kept. Block
scalars keep or fold the breaks between lines of equal indentation and chomp the
breaks at their end. Every function gives the text of the scalar and the cursor
past it, or nothing when the text is malformed. Every round of a loop takes at
least one character, so the loops are given the length of the text as a bound.
-/
namespace SandboxPods.Yaml

inductive Style where
  | plain | single | double | literal | folded
  deriving DecidableEq, Repr

/-- What stands between two runs of characters: blanks on one line, or line breaks. -/
structure Gap where
  /-- A line break was passed, so blanks no longer count. -/
  broken : Bool
  spaces : List Char
  first : List Char
  further : List Char
  deriving Repr

def Gap.empty : Gap := ⟨false, [], [], []⟩

/-- The text a gap contributes between two runs. -/
def Gap.join (g : Gap) : List Char :=
  if g.broken then
    if g.first.head? = some '\n' then (if g.further.isEmpty then [' '] else g.further)
    else g.first ++ g.further
  else g.spaces

/-- Blanks and breaks at the cursor. Within `indent` columns a tab after a break is refused. -/
def takeGap (indent : Option Int) : Nat → Gap → Cursor → Option (Gap × Cursor)
  | 0, g, k => some (g, k)
  | fuel + 1, g, k =>
    match k.rest with
    | [] => some (g, k)
    | c :: _ =>
      if isSpace c then
        if g.broken && c == '\t' && indent.any (fun i => decide ((k.column : Int) < i)) then none
        else
          let g := if g.broken then g else { g with spaces := g.spaces ++ [c] }
          takeGap indent fuel g (k.skip 1)
      else if isBreak c then
        let (line, k) := k.takeBreak
        if g.broken then takeGap indent fuel { g with further := g.further ++ line } k
        else takeGap indent fuel ⟨true, [], line, g.further⟩ k
      else some (g, k)

/-! ## Plain scalars -/

def isFlowMark (c : Char) : Bool :=
  c == ',' || c == '[' || c == ']' || c == '\x7b' || c == '\x7d'

/-- Characters of a plain scalar up to a gap or an indicator that ends it. -/
def plainRun (flow : Bool) : List Char → Option (List Char)
  | [] => some []
  | c :: rest =>
    if isGap c then some []
    else if flow && c == ':' && rest.head?.any (fun d => isFlowMark d || d == '?') then none
    else if c == ':' && gapOrEnd rest then some []
    else if flow && isFlowMark c then some []
    else (plainRun flow rest).map (c :: ·)

/-- The pieces of a plain scalar; the flag tells whether a line break was passed after it. -/
def takePlain (flow : Bool) (indent : Int) :
    Nat → Gap → Cursor → Option (List (List Char) × Bool × Cursor)
  | 0, g, k => some ([], g.broken, k)
  | fuel + 1, g, k =>
    if k.atDocumentMark || k.rest.head? == some '#' then some ([], g.broken, k)
    else
      match plainRun flow k.rest with
      | none => none
      | some [] => some ([], g.broken, k)
      | some run =>
        let k := k.skip run.length
        let more :=
          if !k.rest.head?.any isGap then some ([], false, k)
          else match takeGap (some indent) fuel .empty k with
            | none => none
            | some (g, k) =>
              if !flow && decide ((k.column : Int) < indent) then some ([], g.broken, k)
              else takePlain flow indent fuel g k
        more.map (fun p => (g.join :: run :: p.1, p.2))

/-! ## Quoted scalars -/

def hexNumber? (cs : List Char) : Option Nat :=
  cs.foldl (fun n c => n.bind (fun n => (Percent.hexValue? c).map (n * 16 + ·))) (some 0)

/-- The character with a code point written in `width` hexadecimal digits. -/
def codePoint? (width : Nat) (cs : List Char) : Option (Char × Nat) :=
  let digits := cs.take width
  if digits.length < width then none
  else (hexNumber? digits).bind (fun n =>
    if n.isValidChar then some (Char.ofNat n, width + 1) else none)

/-- The character an escape stands for, and how many characters it takes after its backslash. -/
def escape? : List Char → Option (Char × Nat)
  | [] => none
  | c :: rest =>
    match c with
    | '0' => some ('\x00', 1)
    | 'a' => some ('\x07', 1)
    | 'b' => some ('\x08', 1)
    | 't' => some ('\t', 1)
    | '\t' => some ('\t', 1)
    | 'n' => some ('\n', 1)
    | 'v' => some ('\x0b', 1)
    | 'f' => some ('\x0c', 1)
    | 'r' => some ('\r', 1)
    | 'e' => some ('\x1b', 1)
    | ' ' => some (' ', 1)
    | '"' => some ('"', 1)
    | '/' => some ('/', 1)
    | '\\' => some ('\\', 1)
    | 'N' => some ('\u0085', 1)
    | '_' => some ('\u00a0', 1)
    | 'L' => some ('\u2028', 1)
    | 'P' => some ('\u2029', 1)
    | 'x' => codePoint? 2 rest
    | 'u' => codePoint? 4 rest
    | 'U' => codePoint? 8 rest
    | _ => none

/-- What starts a quoted scalar's text as one character, with what that character stands for and
how many characters it takes; none at a gap, the closing quote or an escaped line break. -/
def quotedChar? (single : Bool) : List Char → Option (Option (Char × Nat))
  | [] => some none
  | c :: rest =>
    if isGap c then some none
    else if single then
      if c ≠ '\'' then some (some (c, 1))
      else if rest.head? = some '\'' then some (some ('\'', 2))
      else some none
    else if c = '"' then some none
    else if c ≠ '\\' then some (some (c, 1))
    else if rest.head?.any isBreak then some none
    else (escape? rest).map (fun e => some (e.1, e.2 + 1))

/-- The text up to a gap, the closing quote or an escaped line break. -/
def quotedRun (single : Bool) : Nat → Cursor → Option (List Char × Cursor)
  | 0, k => some ([], k)
  | fuel + 1, k =>
    match quotedChar? single k.rest with
    | none => none
    | some none => some ([], k)
    | some (some (c, n)) =>
      (quotedRun single fuel (k.skip n)).map (fun p => (c :: p.1, p.2))

/-- The pieces of a quoted scalar after its opening quote. -/
def takeQuoted (single : Bool) : Nat → Cursor → Option (List (List Char) × Cursor)
  | 0, _ => none
  | fuel + 1, k =>
    if k.atDocumentMark then none
    else
      match quotedRun single fuel k with
      | none => none
      | some (run, k) =>
        match k.rest with
        | [] => none
        | c :: _ =>
          if c = (if single then '\'' else '"') then some ([run], k.skip 1)
          else
            let (g, k) :=
              if c = '\\' then ((⟨true, [], [], []⟩ : Gap), (k.skip 1).skipBreak)
              else (Gap.empty, k)
            match takeGap none fuel g k with
            | none => none
            | some (g, k) =>
              (takeQuoted single fuel k).map (fun p => (run :: g.join :: p.1, p.2))

/-! ## Block scalars -/

/-- What becomes of the line breaks at the end of a block scalar. -/
inductive Chomp where
  | strip | clip | keep
  deriving DecidableEq, Repr

/-- The header of a block scalar after its indicator: chomping and explicit indentation, in either
order. -/
def blockHeader (k : Cursor) : Option (Chomp × Nat × Cursor) :=
  let chomp (k : Cursor) : Chomp × Cursor :=
    match k.rest with
    | '+' :: _ => (.keep, k.skip 1)
    | '-' :: _ => (.strip, k.skip 1)
    | _ => (.clip, k)
  let digit (k : Cursor) : Option (Nat × Cursor) :=
    match k.rest with
    | c :: _ =>
      if c = '0' then none
      else if '1' ≤ c ∧ c ≤ '9' then some (c.toNat - 48, k.skip 1)
      else some (0, k)
    | [] => some (0, k)
  match chomp k with
  | (.clip, k) => (digit k).map (fun p => if p.1 = 0 then (.clip, p) else
      let (c, k) := chomp p.2
      (c, p.1, k))
  | (c, k) => (digit k).map (fun p => (c, p))

/-- Indentation and empty lines: the breaks passed, the widest column seen, and the cursor.
With `indent` zero the indentation is still to be found. -/
def takeIndentation (indent : Nat) :
    Nat → List Char → Nat → Cursor → Option (List Char × Nat × Cursor)
  | 0, breaks, widest, k => some (breaks, widest, k)
  | fuel + 1, breaks, widest, k =>
    let blanks := k.rest.takeWhile (· == ' ')
    let k := k.skip (if indent = 0 then blanks.length else min blanks.length (indent - k.column))
    let widest := max widest k.column
    if (indent = 0 || k.column < indent) && k.rest.head? == some '\t' then none
    else if k.rest.head?.any isBreak then
      let (line, k) := k.takeBreak
      takeIndentation indent fuel (breaks ++ line) widest k
    else some (breaks, widest, k)

/-- The pieces of a block scalar with the break and the empty lines after them; given are those
before the next line and whether the line before it starts with a blank. -/
def takeLines (literal : Bool) (indent : Nat) :
    Nat → List Char → List Char → Bool → Cursor →
      Option (List (List Char) × List Char × List Char × Cursor)
  | 0, pending, breaks, _, k => some ([], pending, breaks, k)
  | fuel + 1, pending, breaks, blankBefore, k =>
    if k.column = indent ∧ k.rest ≠ [] then
      let blank := k.rest.head?.any isSpace
      let glue :=
        if !literal && pending.head? == some '\n' && !blankBefore && !blank then
          (if breaks.isEmpty then [' '] else []) ++ breaks
        else pending ++ breaks
      let (line, k) := k.takeWhile (fun c => !isBreak c)
      let (pending, k) := k.takeBreak
      match takeIndentation indent fuel [] 0 k with
      | none => none
      | some (breaks, _, k) =>
        (takeLines literal indent fuel pending breaks blank k).map (fun p =>
          (glue :: line :: p.1, p.2))
    else some ([], pending, breaks, k)

/-- The pieces of a block scalar after its indicator, inside a block at column `parent`. -/
def takeBlock (literal : Bool) (parent : Int) (fuel : Nat) (k : Cursor) :
    Option (List (List Char) × Cursor) := do
  let (chomp, increment, k) ← blockHeader k
  let k := (k.skipWhile isSpace).skipComment
  if !breakOrEnd k.rest then none
  let k := k.skipBreak
  let given : Nat := if increment = 0 then 0 else (max parent 0).toNat + increment
  let (breaks, widest, k) ← takeIndentation given fuel [] 0 k
  let indent := if given = 0 then max (max widest (parent + 1).toNat) 1 else given
  let (pieces, pending, breaks, k) ← takeLines literal indent fuel [] breaks false k
  return (pieces ++ [if chomp = .strip then [] else pending,
    if chomp = .keep then breaks else []], k)

end SandboxPods.Yaml
