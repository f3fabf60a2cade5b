import SandboxPods.Table
import SandboxPods.Yaml.Token

/-!
# YAML documents

A stream of tokens is a list of documents, each with one root node. A node that
is left out is an empty plain scalar. Directives hold for one document: at most
one version, which is 1.1 or 1.2, and each tag shorthand once.

An anchored node has a number, which is how many different names were anchored
before it in its document. An alias has the number that its name last took before
it, and stands for the last node of the document that has this number. So a name
that is anchored again moves to the next number and shares it with the next new
name. Aliases stay in the tree, for the node of an alias may come later or hold
the alias itself.
-/
namespace SandboxPods.Yaml

inductive Node where
  | scalar (tag : Option String) (style : Style) (text : String)
  | sequence (tag : Option String) (items : List Node)
  | mapping (tag : Option String) (members : List (Node × Node))
  | alias (number : Nat)
  deriving Repr, Inhabited

def Node.missing : Node := .scalar none .plain ""

structure Document where
  root : Node
  /-- The anchored nodes with their numbers, in the order in which they start. -/
  anchored : Array (Nat × Node)

/-- The node itself, or the one an alias stands for. -/
def Document.resolve (d : Document) : Node → Node
  | .alias number => ((d.anchored.findRev? (fun a => a.1 == number)).map (·.2)).getD .missing
  | n => n

structure Reading where
  rest : List Token
  /-- The number that each anchored name last took. -/
  names : Table Nat
  /-- Anchored nodes with their numbers, without a node while it is being read. -/
  anchored : Array (Nat × Node)
  /-- Tag shorthands of the document. -/
  shorthands : List (String × String)

namespace Reading

def peek (r : Reading) : Option Token := r.rest.head?

def skip (r : Reading) : Reading := { r with rest := r.rest.drop 1 }

/-- Gives a name the number of the node that starts here. -/
def anchor (r : Reading) (name : String) : Reading :=
  let number := r.names.size
  { r with names := r.names.insert name number, anchored := r.anchored.push (number, .missing) }

/-- The full tag of a node, none when its shorthand is not declared. -/
def resolve (r : Reading) (handle suffix : String) : Option String :=
  if handle.isEmpty then some suffix
  else ((r.shorthands ++ [("!", "!"), ("!!", "tag:yaml.org,2002:")]).find?
    (fun p => p.1 == handle)).map (fun p => p.2 ++ suffix)

end Reading

/-- An anchor and a tag in either order, each at most once. -/
def properties (r : Reading) : Option String × Option (String × String) × Reading :=
  match r.rest with
  | .anchor a :: .tag h s :: rest => (some a, some (h, s), { r with rest })
  | .anchor a :: rest => (some a, none, { r with rest })
  | .tag h s :: .anchor a :: rest => (some a, some (h, s), { r with rest })
  | .tag h s :: rest => (none, some (h, s), { r with rest })
  | _ => (none, none, r)

def isOneOf (t : Option Token) (l : List Token) : Bool :=
  match t with
  | none => true
  | some t => l.contains t

abbrev Taken (α : Type) := Option (α × Reading)

mutual

/-- A node; `block` admits block collections, `loose` a sequence without its own indentation. -/
def node : Nat → Bool → Bool → Reading → Taken Node
  | 0, _, _, _ => none
  | fuel + 1, block, loose, r =>
    match r.rest with
    | .alias name :: _ => (r.names.get? name).map (fun number => (.alias number, r.skip))
    | _ =>
      let (anchor, tagged, r) := properties r
      let tag? : Option (Option String) := match tagged with
        | none => some none
        | some (h, s) => (r.resolve h s).map some
      match tag? with
      | none => none
      | some tag =>
        let place := r.anchored.size
        let r := match anchor with
          | none => r
          | some name => r.anchor name
        let read : Taken Node := match r.peek with
          | some (.scalar style text) =>
            some (.scalar (tag.filter (· ≠ "!")) style text, r.skip)
          | some .blockEntry =>
            if loose then (looseItems fuel r).map (fun p => (.sequence tag p.1, p.2))
            else if anchor.isSome || tagged.isSome then some (.scalar tag .plain "", r) else none
          | some .flowSequenceStart =>
            (flowItems fuel true r.skip).map (fun p => (.sequence tag p.1, p.2))
          | some .flowMappingStart =>
            (flowMembers fuel true r.skip).map (fun p => (.mapping tag p.1, p.2))
          | some .blockSequenceStart =>
            if block then (blockItems fuel r.skip).map (fun p => (.sequence tag p.1, p.2))
            else if anchor.isSome || tagged.isSome then some (.scalar tag .plain "", r) else none
          | some .blockMappingStart =>
            if block then (blockMembers fuel r.skip).map (fun p => (.mapping tag p.1, p.2))
            else if anchor.isSome || tagged.isSome then some (.scalar tag .plain "", r) else none
          | _ => if anchor.isSome || tagged.isSome then some (.scalar tag .plain "", r) else none
        match anchor, read with
        | some _, some (n, r) =>
          some (n, { r with anchored := r.anchored.modify place (fun a => (a.1, n)) })
        | _, read => read

/-- A node unless one of `ends` comes first. -/
def nodeOrMissing : Nat → Bool → Bool → List Token → Reading → Taken Node
  | 0, _, _, _, _ => none
  | fuel + 1, block, loose, ends, r =>
    if isOneOf r.peek ends then some (.missing, r) else node fuel block loose r

def blockItems : Nat → Reading → Taken (List Node)
  | 0, _ => none
  | fuel + 1, r =>
    match r.peek with
    | some .blockEntry =>
      match nodeOrMissing fuel true false [.blockEntry, .blockEnd] r.skip with
      | none => none
      | some (n, r) => (blockItems fuel r).map (fun p => (n :: p.1, p.2))
    | some .blockEnd => some ([], r.skip)
    | _ => none

def looseItems : Nat → Reading → Taken (List Node)
  | 0, _ => none
  | fuel + 1, r =>
    match r.peek with
    | some .blockEntry =>
      match nodeOrMissing fuel true false [.blockEntry, .key, .value, .blockEnd] r.skip with
      | none => none
      | some (n, r) => (looseItems fuel r).map (fun p => (n :: p.1, p.2))
    | _ => some ([], r)

def blockMembers : Nat → Reading → Taken (List (Node × Node))
  | 0, _ => none
  | fuel + 1, r =>
    match r.peek with
    | some .key =>
      match nodeOrMissing fuel true true [.key, .value, .blockEnd] r.skip with
      | none => none
      | some (k, r) =>
        let v? : Taken Node := match r.peek with
          | some .value => nodeOrMissing fuel true true [.key, .value, .blockEnd] r.skip
          | _ => some (.missing, r)
        match v? with
        | none => none
        | some (v, r) => (blockMembers fuel r).map (fun p => ((k, v) :: p.1, p.2))
    | some .blockEnd => some ([], r.skip)
    | _ => none

def flowItems : Nat → Bool → Reading → Taken (List Node)
  | 0, _, _ => none
  | fuel + 1, first, r =>
    if r.peek == some .flowSequenceEnd then some ([], r.skip)
    else
      let start? : Option Reading :=
        if first then some r
        else if r.peek == some .flowEntry then some r.skip else none
      match start? with
      | none => none
      | some r =>
        match r.peek with
        | some .key =>
          match flowPair fuel r.skip with
          | none => none
          | some (n, r) => (flowItems fuel false r).map (fun p => (n :: p.1, p.2))
        | some .flowSequenceEnd => some ([], r.skip)
        | _ =>
          match node fuel false false r with
          | none => none
          | some (n, r) => (flowItems fuel false r).map (fun p => (n :: p.1, p.2))

/-- A mapping of one member that stands as an item of a flow sequence. -/
def flowPair : Nat → Reading → Taken Node
  | 0, _ => none
  | fuel + 1, r =>
    let key? : Taken Node :=
      if isOneOf r.peek [.value, .flowEntry, .flowSequenceEnd] then some (.missing, r.skip)
      else node fuel false false r
    match key? with
    | none => none
    | some (k, r) =>
      let v? : Taken Node := match r.peek with
        | some .value => nodeOrMissing fuel false false [.flowEntry, .flowSequenceEnd] r.skip
        | _ => some (.missing, r)
      v?.map (fun p => (.mapping none [(k, p.1)], p.2))

def flowMembers : Nat → Bool → Reading → Taken (List (Node × Node))
  | 0, _, _ => none
  | fuel + 1, first, r =>
    if r.peek == some .flowMappingEnd then some ([], r.skip)
    else
      let start? : Option Reading :=
        if first then some r
        else if r.peek == some .flowEntry then some r.skip else none
      match start? with
      | none => none
      | some r =>
        match r.peek with
        | some .key =>
          match nodeOrMissing fuel false false [.value, .flowEntry, .flowMappingEnd] r.skip with
          | none => none
          | some (k, r) =>
            let v? : Taken Node := match r.peek with
              | some .value => nodeOrMissing fuel false false [.flowEntry, .flowMappingEnd] r.skip
              | _ => some (.missing, r)
            match v? with
            | none => none
            | some (v, r) => (flowMembers fuel false r).map (fun p => ((k, v) :: p.1, p.2))
        | some .flowMappingEnd => some ([], r.skip)
        | _ =>
          match node fuel false false r with
          | none => none
          | some (k, r) => (flowMembers fuel false r).map (fun p => ((k, .missing) :: p.1, p.2))

end

/-- The directives of a document and the tokens after them. -/
def directives : List Token → Bool → List (String × String) →
    Option (List (String × String) × List Token)
  | .version major minor :: rest, seen, shorthands =>
    if seen || major != 1 || (minor != 1 && minor != 2) then none
    else directives rest true shorthands
  | .tagShorthand handle start :: rest, seen, shorthands =>
    if shorthands.any (fun p => p.1 == handle) then none
    else directives rest seen ((handle, start) :: shorthands)
  | rest, _, shorthands => some (shorthands, rest)

/-- A document after its start mark and the tokens after its end mark. -/
def document (tokens : List Token) (shorthands : List (String × String)) (mayMiss : Bool) :
    Option (Document × List Token) := do
  let missing := match tokens with
    | [] | .version .. :: _ | .tagShorthand .. :: _ => true
    | .documentStart :: _ | .documentEnd :: _ => true
    | _ => false
  let (d, rest) ←
    if mayMiss && missing then some (⟨.missing, #[]⟩, tokens)
    else do
      let (n, r) ← node (4 * tokens.length + 4) true false ⟨tokens, {}, #[], shorthands⟩
      some (⟨n, r.anchored⟩, r.rest)
  match rest with
  | .documentEnd :: rest => return (d, rest)
  | rest => return (d, rest)

/-- The documents of a token stream; only the first may do without a start mark. -/
def documents : Nat → Bool → List Token → Option (List Document)
  | 0, _, _ => none
  | fuel + 1, first, tokens => do
    let tokens := if first then tokens else tokens.dropWhile (· == .documentEnd)
    match tokens with
    | [] => return []
    | t :: _ =>
      let implicit := first && (match t with
        | .version .. | .tagShorthand .. | .documentStart => false
        | _ => true)
      let (d, rest) ←
        if implicit then document tokens [] false
        else do
          let (shorthands, rest) ← directives tokens false []
          match rest with
          | .documentStart :: rest => document rest shorthands true
          | _ => none
      return d :: (← documents fuel false rest)

def Document.readAll? (text : String) : Option (List Document) := do
  let tokens ← Token.scan? text
  documents (tokens.length + 2) true tokens

end SandboxPods.Yaml
