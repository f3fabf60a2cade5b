import SandboxPods.Json.Value
import SandboxPods.Failure

/-!
# Writing JSON

Two layouts of one grammar: compact, with no white space at all, and indented by
two spaces a level, with empty arrays and objects on one line. Control
characters are escaped, by a letter where there is one; all other characters
stand as themselves.
-/
namespace SandboxPods.Json

def escapeText (c : Char) : List Char :=
  if c = '"' then ['\\', '"']
  else if c = '\\' then ['\\', '\\']
  else if c = '\x08' then ['\\', 'b']
  else if c = '\x0c' then ['\\', 'f']
  else if c = '\n' then ['\\', 'n']
  else if c = '\r' then ['\\', 'r']
  else if c = '\t' then ['\\', 't']
  else if c.toNat < 0x20 then
    ['\\', 'u', '0', '0'] ++ (if c.toNat < 16 then ['0'] else []) ++ Text.hexText c.toNat
  else [c]

def textLiteral (s : String) : String :=
  String.ofList ('"' :: s.toList.flatMap escapeText ++ ['"'])

/-- Pieces separated by commas and, in the indented layout, line breaks. -/
def enclose (opening closing : String) (break? : Option String) (outer : String)
    (parts : List String) : String :=
  if parts.isEmpty then opening ++ closing
  else match break? with
    | none => opening ++ String.intercalate "," parts ++ closing
    | some line => opening ++ line ++ String.intercalate ("," ++ line) parts ++ outer ++ closing

mutual

/-- The text of a value; `indent` is the line break and blanks of its own level, none for
the compact layout. -/
def write (indent : Option String) : Value → String
  | .null => "null"
  | .bool b => if b then "true" else "false"
  | .int n => toString n
  | .real written => written
  | .string s => textLiteral s
  | .garbled => "null"
  | .array items =>
    enclose "[" "]" (indent.map (· ++ "  ")) (indent.getD "")
      (writeItems (indent.map (· ++ "  ")) items)
  | .object members =>
    enclose "\x7b" "\x7d" (indent.map (· ++ "  ")) (indent.getD "")
      (writeMembers (indent.map (· ++ "  ")) members)

def writeItems (indent : Option String) : List Value → List String
  | [] => []
  | v :: rest => write indent v :: writeItems indent rest

def writeMembers (indent : Option String) : List (String × Value) → List String
  | [] => []
  | (k, v) :: rest =>
    (textLiteral k ++ (if indent.isSome then ": " else ":") ++ write indent v) ::
      writeMembers indent rest

end

def compact (v : Value) : String := write none v

def indented (v : Value) : String := write (some "\n") v

end SandboxPods.Json
