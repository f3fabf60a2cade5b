import SandboxPods.Http.Endpoint
import SandboxPods.Number.Decimal
import SandboxPods.Text.Blank
import SandboxPods.Text.Percent

/-!
# HTTP messages

A request as it is written to a connection that serves it alone, and a reply as it
is read from all the bytes that the connection brought. A reply's body comes in
chunks, or has a stated length, or goes up to the end.
-/
namespace SandboxPods.Http

abbrev Bytes := List UInt8

def lineEnd : Bytes := [13, 10]

/-- A line in front of a message's body. -/
def line (s : String) : Bytes := Utf8.encode s ++ lineEnd

def writeRequest (authority : String) (r : HttpRequest) : Bytes :=
  let body := r.body.getD []
  line (r.method ++ " " ++ r.path ++ " HTTP/1.1") ++
    line ("Host: " ++ authority) ++
    line "Accept: application/json" ++
    line "Connection: close" ++
    (if r.body.isSome then line "Content-Type: application/json" else []) ++
    line ("Content-Length: " ++ toString body.length) ++
    lineEnd ++ body

/-- The first line and what comes after it. -/
def takeLine : Bytes → Option (Bytes × Bytes)
  | [] => none
  | 13 :: 10 :: rest => some ([], rest)
  | b :: rest => (takeLine rest).map (fun (l, after) => (b :: l, after))

def asciiOf (bytes : Bytes) : List Char := bytes.map (fun b => Char.ofNat b.toNat)

/-- The status in a reply's first line. -/
def status? (first : Bytes) : Option Nat := do
  let (version, rest) ← Text.splitFirst ' ' (asciiOf first)
  let code := rest.take 3
  if "HTTP/".toList.isPrefixOf version && code.length == 3 && code.all Decimal.isDigit then
    some (Decimal.natOfDigits code)
  else none

/-- The fields between the first line and the body, with names in lower case. -/
def takeFields : Nat → Bytes → Option (List (List Char × List Char) × Bytes)
  | 0, _ => none
  | fuel + 1, bytes => do
    let (l, rest) ← takeLine bytes
    if l.isEmpty then return ([], rest)
    let (name, value) ← Text.splitFirst ':' (asciiOf l)
    let (others, body) ← takeFields fuel rest
    return ((name.map Decimal.lowerAscii, Text.trim value) :: others, body)

def hexSize? (digits : List Char) : Option Nat :=
  if digits.isEmpty then none
  else digits.foldlM (fun n c => (Percent.hexValue? c).map (n * 16 + ·)) 0

/-- A body that comes in chunks, each after its size. -/
def takeChunks : Nat → Bytes → Option Bytes
  | 0, _ => none
  | fuel + 1, bytes => do
    let (l, rest) ← takeLine bytes
    let size ← hexSize? ((asciiOf l).takeWhile (fun c => c != ';' && !Text.isBlank c))
    if size = 0 then return []
    else if rest.length < size then none
    else return rest.take size ++ (← takeChunks fuel (rest.drop (size + 2)))

def bodyOf (fields : List (List Char × List Char)) (bytes : Bytes) : Option Bytes :=
  if fields.lookup "transfer-encoding".toList == some "chunked".toList then
    takeChunks (bytes.length + 1) bytes
  else match fields.lookup "content-length".toList with
    | none => some bytes
    | some digits =>
      let size := Decimal.natOfDigits digits
      if digits.all Decimal.isDigit && size ≤ bytes.length then some (bytes.take size) else none

/-- A whole reply. -/
def readReply? (bytes : Bytes) : Option HttpReply := do
  let (first, rest) ← takeLine bytes
  let status ← status? first
  let (fields, body) ← takeFields (rest.length + 1) rest
  return { status, body := ← bodyOf fields body }

end SandboxPods.Http
