import SandboxPods.Yaml.Scalar

/-!
# YAML tokens

A document is a list of tokens in which indentation has become explicit block
starts and ends. A scalar turns out to be a mapping key only when its colon
follows, so the scanner remembers where a key could have started, at most one
place for the block context and for each open flow collection, and puts the key
token there when the colon comes. Such a key must stand on one line and within 1024
octets of its colon. A byte order mark may start any line.
-/
namespace SandboxPods.Yaml

inductive Token where
  | version (major minor : Nat)
  | tagShorthand (handle start : String)
  | documentStart
  | documentEnd
  | blockSequenceStart
  | blockMappingStart
  | blockEnd
  | flowSequenceStart
  | flowSequenceEnd
  | flowMappingStart
  | flowMappingEnd
  | blockEntry
  | flowEntry
  | key
  | value
  | alias (name : String)
  | anchor (name : String)
  | tag (handle suffix : String)
  | scalar (style : Style) (text : String)
  deriving DecidableEq, Repr

/-- A place where a mapping key may have started. -/
structure PossibleKey where
  /-- Number of flow collections open around it. -/
  flow : Nat
  /-- The place is where the block's keys stand, so it must turn out to be a key. -/
  required : Bool
  /-- Number of tokens before it. -/
  position : Nat
  mark : Cursor

structure Scan where
  cursor : Cursor
  tokens : Array Token
  indent : Int
  indents : List Int
  /-- Number of open flow collections. -/
  flow : Nat
  keyAllowed : Bool
  /-- The possible keys, innermost first, no two with the same number of collections around. -/
  keys : List PossibleKey

namespace Scan

def start (cs : List Char) : Scan := ⟨Cursor.start cs, #[], -1, [], 0, true, []⟩

def emit (s : Scan) (t : Token) : Scan := { s with tokens := s.tokens.push t }

def insertAt (s : Scan) (position : Nat) (t : Token) : Scan :=
  { s with tokens := s.tokens.insertIdxIfInBounds position t }

def skip (s : Scan) (n : Nat) : Scan := { s with cursor := s.cursor.skip n }

def column (s : Scan) : Int := s.cursor.column

/-- The possible key of the innermost open collection, and the keys outside it. -/
def innermostKey (s : Scan) : Option (PossibleKey × List PossibleKey) :=
  match s.keys with
  | k :: outer => if k.flow = s.flow then some (k, outer) else none
  | [] => none

/-- Forgets the innermost possible key, unless it is required. -/
def removeKey (s : Scan) : Option Scan :=
  match s.innermostKey with
  | some (k, outer) => if k.required then none else some { s with keys := outer }
  | none => some s

/-- Notes that a key may start here. -/
def saveKey (s : Scan) : Option Scan :=
  if s.keyAllowed then
    s.removeKey.map (fun s =>
      let required := s.flow == 0 && decide (s.indent = s.column)
      { s with keys := ⟨s.flow, required, s.tokens.size, s.cursor⟩ :: s.keys })
  else some s

/-- Drops the possible keys that are no longer on this line and within reach. -/
def dropStaleKeys (s : Scan) : Option Scan :=
  let stale (k : PossibleKey) : Bool :=
    k.mark.line < s.cursor.line || k.mark.index + 1024 < s.cursor.index
  if s.keys.any (fun k => stale k && k.required) then none
  else some { s with keys := s.keys.filter (fun k => !stale k) }

/-- Opens a block at a column that is further in than the current one. -/
def openBlock (s : Scan) (column : Int) (position : Option Nat) (t : Token) : Scan :=
  if s.flow == 0 && decide (s.indent < column) then
    let s := match position with
      | none => s.emit t
      | some n => s.insertAt n t
    { s with indent := column, indents := s.indent :: s.indents }
  else s

/-- How many blocks further in than `column` are open, and what encloses them. -/
def blocksInside (column : Int) : Int → List Int → Nat × Int × List Int
  | indent, [] => (0, indent, [])
  | indent, outer :: rest =>
    if column < indent then
      let (n, i, is) := blocksInside column outer rest
      (n + 1, i, is)
    else (0, indent, outer :: rest)

/-- Closes the blocks that are further in than `column`. -/
def closeBlocks (s : Scan) (column : Int) : Scan :=
  if s.flow == 0 then
    let (n, indent, indents) := blocksInside column s.indent s.indents
    { s with indent, indents, tokens := s.tokens ++ Array.replicate n Token.blockEnd }
  else s

/-- Past blanks, comments and line breaks. Tabs count as blanks where no key may start. -/
def skipToToken : Nat → Scan → Scan
  | 0, s => s
  | fuel + 1, s =>
    let k := s.cursor
    let k := if k.column == 0 && k.rest.head? == some '\ufeff' then k.skip 1 else k
    let tabs := s.flow != 0 || !s.keyAllowed
    let k := (k.skipWhile (fun c => c == ' ' || (tabs && c == '\t'))).skipComment
    if k.rest.head?.any isBreak then
      skipToToken fuel { s with cursor := k.skipBreak, keyAllowed := s.keyAllowed || s.flow == 0 }
    else { s with cursor := k }

/-! ## Directives, tags and anchors -/

def natOf (cs : List Char) : Nat := cs.foldl (fun n c => n * 10 + (c.toNat - 48)) 0

def isDigit (c : Char) : Bool := '0' ≤ c && c ≤ '9'

/-- A version number of one to nine digits. -/
def versionNumber (k : Cursor) : Option (Nat × Cursor) :=
  let (digits, k) := k.takeWhile isDigit
  if digits.isEmpty || 9 < digits.length then none else some (natOf digits, k)

/-- An exclamation mark, word characters and perhaps another mark. -/
def tagHandle (directive : Bool) (k : Cursor) : Option (List Char × Cursor) :=
  match k.rest with
  | '!' :: _ =>
    let (word, k) := (k.skip 1).takeWhile isWordChar
    match k.rest with
    | '!' :: _ => some ('!' :: word ++ ['!'], k.skip 1)
    | _ => if directive && !word.isEmpty then none else some ('!' :: word, k)
  | _ => none

def isUriChar (brackets : Bool) (c : Char) : Bool :=
  isWordChar c || ";/?:@&=+$.!~*'()".toList.contains c ||
  (brackets && (c == ',' || c == '[' || c == ']'))

/-- How many octets follow a leading octet, read off its first bits. -/
def octetsAfter? (n : Nat) : Option Nat :=
  if n < 0x80 then some 0
  else if n < 0xc0 then none
  else if n < 0xe0 then some 1
  else if n < 0xf0 then some 2
  else if n < 0xf8 then some 3
  else none

/-- One octet of a tag as a character, and how many characters it takes; `owed` counts the octets
that an escape before it asks for. None where the tag ends. -/
def uriOctet? (brackets : Bool) (owed : Nat) : List Char → Option (Option (Char × Nat × Nat))
  | '%' :: rest =>
    match rest.take 2 with
    | [a, b] =>
      match Percent.hexValue? a, Percent.hexValue? b with
      | some x, some y =>
        let n := x * 16 + y
        let more? :=
          if owed = 0 then octetsAfter? n
          else if 0x80 ≤ n ∧ n < 0xc0 then some (owed - 1)
          else none
        more?.map (fun more => some (Char.ofNat n, 3, more))
      | _, _ => none
    | _ => none
  | cs =>
    if owed ≠ 0 then none
    else some ((cs.head?.filter (isUriChar brackets)).map (fun c => (c, 1, 0)))

/-- The octets of a tag as characters. Only the first bits of an escaped octet are looked at, so
overlong forms and surrogates pass. -/
def tagUri (brackets : Bool) : Nat → Nat → Cursor → Option (List Char × Cursor)
  | 0, _, k => some ([], k)
  | fuel + 1, owed, k =>
    match uriOctet? brackets owed k.rest with
    | none => none
    | some none => some ([], k)
    | some (some (c, n, owed)) =>
      (tagUri brackets fuel owed (k.skip n)).map (fun p => (c :: p.1, p.2))

/-- The text of a tag or of its start, which ends before a null character. -/
def uriText (cs : List Char) : String := String.ofList (cs.takeWhile (· ≠ '\x00'))

def takeDirective (fuel : Nat) (k : Cursor) : Option (Token × Cursor) := do
  let (name, k) := (k.skip 1).takeWhile isWordChar
  if name.isEmpty || !gapOrEnd k.rest then none
  let k := k.skipWhile isSpace
  let (token, k) ←
    if name = "YAML".toList then do
      let (major, k) ← versionNumber k
      if k.rest.head? ≠ some '.' then none
      let (minor, k) ← versionNumber (k.skip 1)
      some (Token.version major minor, k)
    else if name = "TAG".toList then do
      let (handle, k) ← tagHandle true k
      if !k.rest.head?.any isSpace then none
      let (start, k) ← tagUri true fuel 0 (k.skipWhile isSpace)
      if start.isEmpty || !gapOrEnd k.rest then none
      some (Token.tagShorthand (String.ofList handle) (uriText start), k)
    else none
  let k := (k.skipWhile isSpace).skipComment
  if !breakOrEnd k.rest then none
  return (token, k.skipBreak)

def takeTag (flow : Bool) (fuel : Nat) (k : Cursor) : Option (Token × Cursor) := do
  let (token, k) ← match k.rest with
    | '!' :: '<' :: _ => do
      let (uri, k) ← tagUri true fuel 0 (k.skip 2)
      if uri.isEmpty || k.rest.head? ≠ some '>' then none
      some (Token.tag "" (uriText uri), k.skip 1)
    | _ => do
      let (handle, k) ← tagHandle false k
      let (uri, k) ← tagUri false fuel 0 k
      if 2 ≤ handle.length ∧ handle.getLast? = some '!' then
        if uri.isEmpty then none
        some (Token.tag (String.ofList handle) (uriText uri), k)
      else
        let suffix := uriText (handle.drop 1 ++ uri)
        if suffix.isEmpty then some (Token.tag "" "!", k)
        else some (Token.tag "!" suffix, k)
  if gapOrEnd k.rest || (flow && k.rest.head? == some ',') then return (token, k) else none

/-- The name of an anchor or an alias, after its indicator. -/
def takeName (k : Cursor) : Option (String × Cursor) :=
  let (name, k) := (k.skip 1).takeWhile isWordChar
  if !name.isEmpty && (gapOrEnd k.rest ||
      k.rest.head?.any (fun c => "?:,]\x7d%@`".toList.contains c)) then
    some (String.ofList name, k)
  else none

/-! ## One token -/

/-- Notes a possible key and takes a token at which no other key can start. -/
def fetchNode (s : Scan) (take : Cursor → Option (Token × Cursor)) : Option Scan := do
  let s ← s.saveKey
  let (token, k) ← take s.cursor
  return { s with cursor := k, keyAllowed := false }.emit token

def scalarOf (style : Style) (pieces : List (List Char)) : Token :=
  .scalar style (String.ofList pieces.flatten)

def fetchPlain (s : Scan) (fuel : Nat) : Option Scan := do
  let s ← s.saveKey
  let (pieces, broken, k) ← takePlain (s.flow != 0) (s.indent + 1) fuel .empty s.cursor
  return { s with cursor := k, keyAllowed := broken }.emit (scalarOf .plain pieces)

def fetchBlockScalar (s : Scan) (fuel : Nat) (literal : Bool) : Option Scan := do
  let s ← s.removeKey
  let (pieces, k) ← takeBlock literal s.indent fuel (s.cursor.skip 1)
  return { s with cursor := k, keyAllowed := true }.emit
    (scalarOf (if literal then .literal else .folded) pieces)

def fetchQuoted (s : Scan) (fuel : Nat) (single : Bool) : Option Scan :=
  s.fetchNode (fun k => (takeQuoted single fuel (k.skip 1)).map (fun p =>
    (scalarOf (if single then .single else .double) p.1, p.2)))

def fetchValue (s : Scan) : Option Scan := do
  let s ← match s.innermostKey with
    | some (k, outer) =>
      let s := { s with keys := outer, keyAllowed := false }
      let s := s.insertAt k.position .key
      some (s.openBlock k.mark.column (some k.position) .blockMappingStart)
    | none =>
      if s.flow == 0 then
        if !s.keyAllowed then none
        else some (s.openBlock s.column none .blockMappingStart)
      else some { s with keyAllowed := false }
  return (s.skip 1).emit .value

def fetchKey (s : Scan) : Option Scan := do
  if s.flow == 0 && !s.keyAllowed then none
  let s := s.openBlock s.column none .blockMappingStart
  let s ← s.removeKey
  return ({ s with keyAllowed := s.flow == 0 }.skip 1).emit .key

def fetchBlockEntry (s : Scan) : Option Scan := do
  if s.flow == 0 && !s.keyAllowed then none
  let s := s.openBlock s.column none .blockSequenceStart
  let s ← s.removeKey
  return ({ s with keyAllowed := true }.skip 1).emit .blockEntry

def fetchFlowStart (s : Scan) (t : Token) : Option Scan := do
  let s ← s.saveKey
  return ({ s with keyAllowed := true, flow := s.flow + 1 }.skip 1).emit t

def fetchFlowEnd (s : Scan) (t : Token) : Option Scan := do
  let s ← s.removeKey
  return ({ s with keyAllowed := false, flow := s.flow - 1 }.skip 1).emit t

def fetchFlowEntry (s : Scan) : Option Scan := do
  let s ← s.removeKey
  return ({ s with keyAllowed := true }.skip 1).emit .flowEntry

def fetchDocumentMark (s : Scan) (t : Token) : Option Scan := do
  let s ← (s.closeBlocks (-1)).removeKey
  return ({ s with keyAllowed := false }.skip 3).emit t

def fetchDirective (s : Scan) (fuel : Nat) : Option Scan := do
  let s ← (s.closeBlocks (-1)).removeKey
  let (token, k) ← takeDirective fuel s.cursor
  return { s with cursor := k, keyAllowed := false }.emit token

/-- A plain scalar may start with `c` before `rest`. -/
def startsPlain (flow : Bool) (c : Char) (rest : List Char) : Bool :=
  !(isGap c || "-?:,[]\x7b\x7d#&*!|>'\"%@`".toList.contains c) ||
  (c == '-' && !rest.head?.any isSpace) ||
  (!flow && (c == '?' || c == ':') && !gapOrEnd rest)

/-- The token at the cursor, where `c` stands before `rest`; `fuel` is more than their number. -/
def fetchAt (s : Scan) (fuel : Nat) (c : Char) (rest : List Char) : Option Scan :=
  let flow := s.flow != 0
  if s.cursor.column == 0 && c == '%' then s.fetchDirective fuel
  else if s.cursor.column == 0 && isDocumentMark '-' (c :: rest) then
    s.fetchDocumentMark .documentStart
  else if s.cursor.column == 0 && isDocumentMark '.' (c :: rest) then
    s.fetchDocumentMark .documentEnd
  else if c == '[' then s.fetchFlowStart .flowSequenceStart
  else if c == '\x7b' then s.fetchFlowStart .flowMappingStart
  else if c == ']' then s.fetchFlowEnd .flowSequenceEnd
  else if c == '\x7d' then s.fetchFlowEnd .flowMappingEnd
  else if c == ',' then s.fetchFlowEntry
  else if c == '-' && gapOrEnd rest then s.fetchBlockEntry
  else if c == '?' && (flow || gapOrEnd rest) then s.fetchKey
  else if c == ':' && (flow || gapOrEnd rest) then s.fetchValue
  else if c == '*' then s.fetchNode (fun k => (takeName k).map (fun p => (.alias p.1, p.2)))
  else if c == '&' then s.fetchNode (fun k => (takeName k).map (fun p => (.anchor p.1, p.2)))
  else if c == '!' then s.fetchNode (takeTag flow fuel)
  else if c == '|' && !flow then s.fetchBlockScalar fuel true
  else if c == '>' && !flow then s.fetchBlockScalar fuel false
  else if c == '\'' then s.fetchQuoted fuel true
  else if c == '"' then s.fetchQuoted fuel false
  else if startsPlain flow c rest then s.fetchPlain fuel
  else none

/-- The end of the stream: open blocks close and no key may be pending. -/
def finish (s : Scan) : Option (List Token) := do
  let s ← (s.closeBlocks (-1)).removeKey
  return s.tokens.toList

/-- All tokens; each takes at least one character, so `fuel` is never less than what is left. -/
def run : Nat → Scan → Option (List Token)
  | 0, _ => none
  | fuel + 1, s => do
    let s ← (skipToToken (fuel + 1) s).dropStaleKeys
    let s := s.closeBlocks s.column
    match s.cursor.rest with
    | [] =>
      let atLineStart := s.cursor.column == 0
      let k := s.cursor
      let s := if atLineStart then s else { s with cursor := ⟨[], k.index, k.line + 1, 0⟩ }
      s.finish
    | c :: rest => run fuel (← s.fetchAt (fuel + 1) c rest)

end Scan

/-- The tokens of a stream of documents. -/
def Token.scan? (text : String) : Option (List Token) :=
  let cs := text.toList
  if cs.all isAllowed then Scan.run (cs.length + 1) (Scan.start cs) else none

end SandboxPods.Yaml
