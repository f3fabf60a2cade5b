import SandboxPods.Failure
import SandboxPods.Text.Blank
import SandboxPods.Text.Split

/-!
# Image references

A reference is written `registry/name:tag@digest`, and only the name is required.
The digest follows the first at sign. The tag follows the last colon, unless a
slash comes after that colon, which then belongs to the registry's port. What
stands before the first slash is a registry when it holds a full stop or a colon
or is `localhost`. Without tag and digest the tag is `latest`. Blanks around a
reference do not count. The qualified form always names a registry, and official
images of the default registry live under `library`.

A sandbox's root filesystem is addressed by a URI. Under the scheme `docker:` it
is an image that is pulled and measured first, with a number sign for the tag's
colon and any number of slashes after the scheme; every other text is handed to
the cluster as it stands.
-/
namespace SandboxPods

structure ImageReference where
  registry : Option String
  name : String
  tag : Option String
  digest : Option String
  deriving DecidableEq, Repr

inductive ImageReferenceError where
  | empty
  | invalidChar (c : Char)
  | invalidFormat (written : String)
  deriving DecidableEq, Repr

/-- The name by which programs tell these failures apart. -/
def ImageReferenceError.kind : ImageReferenceError → String
  | .empty => "Empty"
  | .invalidChar _ => "InvalidChar"
  | .invalidFormat _ => "InvalidFormat"

def ImageReferenceError.message : ImageReferenceError → String
  | .empty => "image reference cannot be empty"
  | .invalidChar c => "invalid character in image reference: " ++ String.singleton c
  | .invalidFormat written => "invalid image reference format: " ++ written

instance : Failure ImageReferenceError := ⟨ImageReferenceError.kind, ImageReferenceError.message⟩

namespace ImageReference

def defaultRegistry : String := "docker.io"

def defaultTag : String := "latest"

def isAllowed (c : Char) : Bool := c.isAlphanum || ['/', ':', '.', '-', '_', '@'].contains c

/-- What stands before the digest, and the digest. -/
def cutDigest (cs : List Char) : List Char × Option (List Char) :=
  match Text.splitFirst '@' cs with
  | some (before, digest) => (before, some digest)
  | none => (cs, none)

/-- What stands before the tag, and the tag. -/
def cutTag (cs : List Char) : List Char × Option (List Char) :=
  match Text.splitLast ':' cs with
  | some (before, tag) => if tag.contains '/' then (cs, none) else (before, some tag)
  | none => (cs, none)

def isRegistry (cs : List Char) : Bool :=
  cs.contains '.' || cs.contains ':' || cs == "localhost".toList

/-- The registry, and what stands after it. -/
def cutRegistry (cs : List Char) : Option (List Char) × List Char :=
  match Text.splitFirst '/' cs with
  | some (first, rest) => if isRegistry first then (some first, rest) else (none, cs)
  | none => (none, cs)

/-- Neither empty nor with a slash at an end. -/
def isName (cs : List Char) : Bool :=
  !cs.isEmpty && cs.head? != some '/' && cs.getLast? != some '/'

def parseChars (cs : List Char) : Except ImageReferenceError ImageReference :=
  if cs.isEmpty then .error .empty
  else match cs.find? (fun c => !isAllowed c) with
    | some c => .error (.invalidChar c)
    | none =>
      let (reference, digest) := cutDigest cs
      let (path, tag) := cutTag reference
      let (registry, name) := cutRegistry path
      if !isName name then .error (.invalidFormat (String.ofList cs))
      else .ok {
        registry := registry.map String.ofList
        name := String.ofList name
        tag := (tag.map String.ofList).or (if digest.isNone then some defaultTag else none)
        digest := digest.map String.ofList }

def parse (s : String) : Except ImageReferenceError ImageReference :=
  parseChars (Text.trim s.toList)

/-- A component with its separator in front. -/
def suffix (separator : String) : Option String → String
  | none => ""
  | some s => separator ++ s

/-- The reference as written, with the default tag where neither tag nor digest is given. -/
def display (r : ImageReference) : String :=
  (r.registry.map (· ++ "/")).getD "" ++ r.name ++ suffix ":" r.tag ++ suffix "@" r.digest

/-- The name under which the node's image store knows the image. -/
def qualified (r : ImageReference) : String :=
  let registry := r.registry.getD defaultRegistry
  let name :=
    if registry = defaultRegistry ∧ ¬ r.name.toList.contains '/' then "library/" ++ r.name
    else r.name
  registry ++ "/" ++ name ++ suffix ":" r.tag ++ suffix "@" r.digest

end ImageReference

/-! ## Root filesystem sources -/

inductive ImageSource where
  | managed (reference : ImageReference)
  | preloaded (name : String)
  deriving DecidableEq, Repr

namespace ImageSource

def scheme : List Char := "docker:".toList

def parse (uri : String) : Except ImageReferenceError ImageSource :=
  match List.isPrefixOf? scheme uri.toList with
  | none => .ok (.preloaded uri)
  | some rest =>
    let reference := rest.map (fun c => if c = '#' then ':' else c)
    (ImageReference.parse (String.ofList (reference.dropWhile (· == '/')))).map .managed

def isManaged : ImageSource → Bool
  | .managed _ => true
  | .preloaded _ => false

end ImageSource
end SandboxPods
