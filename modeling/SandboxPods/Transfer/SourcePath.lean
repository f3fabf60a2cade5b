import SandboxPods.Text.Split

/-!
# The source of a transfer

To archive a path the helper enters a directory and archives one entry of it. A
path that ends in a slash is itself the directory and its contents are archived.
Otherwise the last component is the entry and what stands before it the
directory. Empty components and full stops are no components, except a full stop
at the start of a relative path; two full stops name no entry; and what is
missing is the current directory.
-/
namespace SandboxPods.SourcePath

/-- A full stop alone or before the first slash. -/
def startsWithDot : List Char → Bool
  | ['.'] => true
  | '.' :: '/' :: _ => true
  | _ => false

/-- Number of characters before the components: a root slash or a full stop. -/
def anchorLength (path : List Char) : Nat :=
  if path.head? == some '/' || startsWithDot path then 1 else 0

def isNoComponent (piece : List Char) : Bool := piece == [] || piece == ['.']

/-- The pieces without those at the end that are no components. -/
def trimPieces (pieces : List (List Char)) : List (List Char) :=
  (pieces.reverse.dropWhile isNoComponent).reverse

/-- The directory that holds the last component, and that component; none without one. -/
def parentAndName (path : List Char) : Option (List Char × List Char) :=
  let n := anchorLength path
  let pieces := trimPieces (Text.splitAll '/' (path.drop n))
  pieces.getLast?.map (fun name =>
    (path.take n ++ Text.joinWith '/' (trimPieces pieces.dropLast), name))

def orHere (cs : List Char) : List Char := if cs.isEmpty then ['.'] else cs

def splitChars (path : List Char) : List Char × List Char :=
  if path.getLast? = some '/' then (path, ['.'])
  else match parentAndName path with
    | none => (['.'], ['.'])
    | some (parent, name) => (orHere parent, if name = ['.', '.'] then ['.'] else name)

/-- The directory to enter and the entry to archive. -/
def split (path : String) : String × String :=
  let (directory, entry) := splitChars path.toList
  (String.ofList directory, String.ofList entry)

end SandboxPods.SourcePath
