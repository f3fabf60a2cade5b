import SandboxPods.Text.Split
import SandboxPods.Text.Utf8

/-!
# What stands at a path

File access is outside this library; a file that is needed is handed in as what
an attempt to read it found. A set of files by path stands for a small file system
with the directories that its paths name. A path is followed name by name: each
name but the last has to lead to a directory, an empty name and a full stop stay
where they are, and two full stops lead back.
-/
namespace SandboxPods

inductive PathEntry where
  | absent
  /-- Something whose text cannot be had, with the reason. -/
  | unreadable (reason : String)
  | file (text : String)
  deriving DecidableEq, Repr

namespace PathEntry

/-- The reason an absent path cannot be read. -/
def absentReason : String := "No such file or directory (os error 2)"

/-- A file with some content, which has to be text. -/
def ofBytes (bytes : List UInt8) : PathEntry :=
  match Utf8.decode? bytes with
  | some text => .file (String.ofList text)
  | none => .unreadable "stream did not contain valid UTF-8"

/-- Why text with a null character cannot be handed to the system. -/
def nullReason : String := "nul byte found in provided data"

/-- The names of a path; a leading slash counts as a name of its own. -/
def names (path : String) : List String :=
  (if "/".isPrefixOf path then ["/"] else []) ++
    (Text.splitAll '/' path.toList).map String.ofList

/-- Where names lead from a place, whatever stands on the way. -/
def follow (place : List String) : List String → List String
  | [] => place
  | name :: rest =>
    if name.isEmpty || name == "." then follow place rest
    else if name == ".." then follow place.dropLast rest
    else follow (place ++ [name]) rest

/-- What names lead to from a place among files. -/
def walk (files : List (List String × String)) (place : List String) : List String → PathEntry
  | [] =>
    match files.lookup place with
    | some text => .file text
    | none =>
      if files.any (fun f => place.isPrefixOf f.1) then .unreadable "Is a directory (os error 21)"
      else .absent
  | name :: rest =>
    if (files.lookup place).isSome then .unreadable "Not a directory (os error 20)"
    else if !place.isEmpty && !files.any (fun f => place.isPrefixOf f.1) then .absent
    else walk files (follow place [name]) rest

/-- What stands at a path of a set of files. -/
def inFiles (files : List (String × String)) (path : String) : PathEntry :=
  if path.isEmpty then .absent
  else walk (files.map (fun f => (follow [] (names f.1), f.2))) [] (names path)

end PathEntry
end SandboxPods
