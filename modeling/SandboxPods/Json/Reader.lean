import SandboxPods.Json.Value
import SandboxPods.Text.Utf8
import SandboxPods.Text.Percent

/-!
# Reading JSON

The reader takes the bytes of one document and accepts exactly one value with
nothing but white space around it: no trailing commas, no comments, no byte order
mark, no leading zeros and no raw control characters in strings. An escaped
surrogate pair is one character; an unpaired surrogate garbles its string. The
reader recurses on a bound that the length of the document supplies, since each
nested value takes at least one byte and two steps.
-/
namespace SandboxPods.Json

abbrev Bytes := List UInt8

def isSpace (b : UInt8) : Bool := b == 0x20 || b == 0x0a || b == 0x0d || b == 0x09

def skipSpace (bytes : Bytes) : Bytes := bytes.dropWhile isSpace

def isDigitByte (b : UInt8) : Bool := 0x30 ≤ b && b ≤ 0x39

/-- What follows `word` at the front, if it is there. -/
def expect (word : String) (bytes : Bytes) : Option Bytes :=
  List.isPrefixOf? (Utf8.encode word) bytes

/-! ## Numbers -/

def natOfBytes (digits : Bytes) : Nat := digits.foldl (fun n b => n * 10 + (b.toNat - 48)) 0

/-- The integer part: a zero alone or digits that do not start with one. -/
def takeWhole (bytes : Bytes) : Option (Bytes × Bytes) :=
  match bytes with
  | [] => none
  | b :: rest =>
    if b = 0x30 then
      (match rest with
      | c :: _ => if isDigitByte c then none else some ([b], rest)
      | [] => some ([b], rest))
    else if isDigitByte b then some (bytes.takeWhile isDigitByte, bytes.dropWhile isDigitByte)
    else none

/-- A fraction: empty, or a point and at least one digit. -/
def takeFraction (bytes : Bytes) : Option (Bytes × Bytes) :=
  match bytes with
  | 0x2e :: rest =>
    let digits := rest.takeWhile isDigitByte
    if digits.isEmpty then none else some (0x2e :: digits, rest.dropWhile isDigitByte)
  | _ => some ([], bytes)

def splitSign (bytes : Bytes) : Bytes × Bytes :=
  match bytes with
  | b :: rest => if b = 0x2b ∨ b = 0x2d then ([b], rest) else ([], bytes)
  | [] => ([], [])

/-- An exponent: empty, or the letter e, an optional sign and at least one digit. -/
def takeExponent (bytes : Bytes) : Option (Bytes × Bytes) :=
  match bytes with
  | b :: rest =>
    if b = 0x65 ∨ b = 0x45 then
      let (sign, more) := splitSign rest
      let digits := more.takeWhile isDigitByte
      if digits.isEmpty then none else some (b :: sign ++ digits, more.dropWhile isDigitByte)
    else some ([], bytes)
  | [] => some ([], [])

def asciiText (bytes : Bytes) : String := String.ofList (bytes.map (fun b => Char.ofNat b.toNat))

def number (bytes : Bytes) : Option (Value × Bytes) := do
  let (negative, unsigned) := match bytes with
    | 0x2d :: rest => (true, rest)
    | _ => (false, bytes)
  let (whole, afterWhole) ← takeWhole unsigned
  let (fraction, afterFraction) ← takeFraction afterWhole
  let (exponent, rest) ← takeExponent afterFraction
  let n := natOfBytes whole
  let integral := fraction.isEmpty && exponent.isEmpty && !(negative && n == 0)
  if integral then return (.int (if negative then -(n : Int) else n), rest)
  else
    let sign : Bytes := if negative then [0x2d] else []
    return (.real (asciiText (sign ++ whole ++ fraction ++ exponent)), rest)

/-! ## Strings -/

/-- A piece of a string literal: a byte as it stands, or an escaped code unit. -/
inductive Piece where
  | byte (b : UInt8)
  | unit (n : Nat)
  deriving DecidableEq, Repr

def hexByte? (b : UInt8) : Option Nat := Percent.hexValue? (Char.ofNat b.toNat)

def simpleEscape? (b : UInt8) : Option Nat :=
  if b = 0x22 ∨ b = 0x5c ∨ b = 0x2f then some b.toNat
  else if b = 0x62 then some 8
  else if b = 0x66 then some 12
  else if b = 0x6e then some 10
  else if b = 0x72 then some 13
  else if b = 0x74 then some 9
  else none

/-- The pieces up to the closing quote and what follows it. -/
def pieces : Bytes → Option (List Piece × Bytes)
  | [] => none
  | 0x22 :: rest => some ([], rest)
  | 0x5c :: 0x75 :: a :: b :: c :: d :: rest =>
    match hexByte? a, hexByte? b, hexByte? c, hexByte? d, pieces rest with
    | some a, some b, some c, some d, some (ps, more) =>
      some (.unit (((a * 16 + b) * 16 + c) * 16 + d) :: ps, more)
    | _, _, _, _, _ => none
  | 0x5c :: e :: rest =>
    match simpleEscape? e, pieces rest with
    | some n, some (ps, more) => some (.byte (UInt8.ofNat n) :: ps, more)
    | _, _ => none
  | b :: rest =>
    if b < 0x20 ∨ b = 0x5c then none
    else (pieces rest).map (fun p => (.byte b :: p.1, p.2))

def isHighSurrogate (n : Nat) : Bool := 0xd800 ≤ n && n ≤ 0xdbff

def isLowSurrogate (n : Nat) : Bool := 0xdc00 ≤ n && n ≤ 0xdfff

def pairValue (high low : Nat) : Nat := 0x10000 + (high - 0xd800) * 0x400 + (low - 0xdc00)

def bytesOfCodePoint (n : Nat) : Bytes := Utf8.encode (String.singleton (Char.ofNat n))

/-- The bytes a literal denotes, none when a surrogate has no partner. -/
def bytesOfPieces : List Piece → Option Bytes
  | [] => some []
  | .byte b :: rest => (bytesOfPieces rest).map (b :: ·)
  | .unit high :: .unit low :: rest =>
    if isHighSurrogate high && isLowSurrogate low then
      (bytesOfPieces rest).map (bytesOfCodePoint (pairValue high low) ++ ·)
    else if isHighSurrogate high || isLowSurrogate high then none
    else (bytesOfPieces (.unit low :: rest)).map (bytesOfCodePoint high ++ ·)
  | .unit n :: rest =>
    if isHighSurrogate n || isLowSurrogate n then none
    else (bytesOfPieces rest).map (bytesOfCodePoint n ++ ·)

def textOfPieces (ps : List Piece) : Option String :=
  ((bytesOfPieces ps).bind Utf8.decode?).map String.ofList

/-- A string after its opening quote; no text when it is garbled. -/
def literal (bytes : Bytes) : Option (Option String × Bytes) :=
  (pieces bytes).map (fun p => (textOfPieces p.1, p.2))

/-! ## Values -/

/-- The object with these members, garbled when some key is. -/
def objectOf (members : List (Option String × Value)) : Value :=
  match members.mapM (fun m => m.1.map (fun k => (k, m.2))) with
  | some ms => .object ms
  | none => .garbled

mutual

/-- A value at the front of the bytes. -/
def value : Nat → Bytes → Option (Value × Bytes)
  | 0, _ => none
  | fuel + 1, bytes =>
    match bytes with
    | 0x22 :: rest => (literal rest).map (fun p => (p.1.elim .garbled .string, p.2))
    | 0x5b :: rest =>
      match skipSpace rest with
      | 0x5d :: more => some (.array [], more)
      | more => (elements fuel more).map (fun p => (.array p.1, p.2))
    | 0x7b :: rest =>
      match skipSpace rest with
      | 0x7d :: more => some (.object [], more)
      | more => (members fuel more).map (fun p => (objectOf p.1, p.2))
    | 0x6e :: _ => (expect "null" bytes).map (fun rest => (.null, rest))
    | 0x74 :: _ => (expect "true" bytes).map (fun rest => (.bool true, rest))
    | 0x66 :: _ => (expect "false" bytes).map (fun rest => (.bool false, rest))
    | _ => number bytes

/-- The items of an array, up to its closing bracket. -/
def elements : Nat → Bytes → Option (List Value × Bytes)
  | 0, _ => none
  | fuel + 1, bytes =>
    match value fuel (skipSpace bytes) with
    | none => none
    | some (v, rest) =>
      match skipSpace rest with
      | 0x2c :: more => (elements fuel more).map (fun p => (v :: p.1, p.2))
      | 0x5d :: more => some ([v], more)
      | _ => none

/-- The members of an object, up to its closing brace. -/
def members : Nat → Bytes → Option (List (Option String × Value) × Bytes)
  | 0, _ => none
  | fuel + 1, bytes =>
    match skipSpace bytes with
    | 0x22 :: afterQuote =>
      match literal afterQuote with
      | none => none
      | some (key, afterKey) =>
        match skipSpace afterKey with
        | 0x3a :: afterColon =>
          match value fuel (skipSpace afterColon) with
          | none => none
          | some (v, rest) =>
            match skipSpace rest with
            | 0x2c :: more => (members fuel more).map (fun p => ((key, v) :: p.1, p.2))
            | 0x7d :: more => some ([(key, v)], more)
            | _ => none
        | _ => none
    | _ => none

end

/-- The only value of a document, none when the bytes are not one JSON document. -/
def read? (bytes : Bytes) : Option Value :=
  match value (2 * bytes.length + 2) (skipSpace bytes) with
  | some (v, rest) => if (skipSpace rest).isEmpty then some v else none
  | none => none

def readText? (s : String) : Option Value := read? (Utf8.encode s)

end SandboxPods.Json
