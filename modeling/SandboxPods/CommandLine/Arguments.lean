import SandboxPods.Stores
import SandboxPods.Text.Split

/-!
# Command-line arguments

An operator names one command. The configuration and verbosity options may stand
before it and after it, each at most once in either place, and the one after it
counts; filters belong to the command `list`. A long option takes its value after
an equals sign or as the next argument, a short one also directly after its letter,
and letters without values may be joined. An argument that starts with a hyphen is
no value, and two hyphens end the options. The first argument that asks for help or
is out of place decides.
-/
namespace SandboxPods

inductive Command where
  | ping
  | capacity
  | list (filter : Properties)
  | destroy (handle : String)
  | metrics (handles : List String)

structure Invocation where
  /-- Where the settings are; they are looked for otherwise. -/
  settingsPath : Option String
  verbose : Bool
  command : Command

namespace Arguments

inductive CommandName where
  | ping | capacity | list | destroy | metrics | help
  deriving DecidableEq, Repr

def CommandName.ofString? : String → Option CommandName
  | "ping" => some .ping
  | "capacity" => some .capacity
  | "list" => some .list
  | "destroy" => some .destroy
  | "metrics" => some .metrics
  | "help" => some .help
  | _ => none

/-- Why arguments are no invocation. -/
inductive Stop where
  | help
  | version
  | refused
  deriving DecidableEq, Repr

inductive Setting where
  | config | filter
  deriving DecidableEq, Repr

/-- The options given in one place. -/
structure Globals where
  config : Option String := none
  verbose : Bool := false

structure Scan where
  command : Option CommandName := none
  /-- Options before the command, and after it. -/
  before : Globals := {}
  after : Globals := {}
  filters : List (String × String) := []
  operands : List String := []
  /-- The option that waits for its value. -/
  pending : Option Setting := none
  /-- Two hyphens have ended the options. -/
  ended : Bool := false

def Scan.globals (s : Scan) : Globals := if s.command.isNone then s.before else s.after

def Scan.setGlobals (s : Scan) (g : Globals) : Scan :=
  if s.command.isNone then { s with before := g } else { s with after := g }

/-- A filter is a name that is not empty, an equals sign and a value. -/
def filter? (s : String) : Option (String × String) :=
  match Text.splitFirst '=' s.toList with
  | some (key, value) =>
    if key.isEmpty then none else some (String.ofList key, String.ofList value)
  | none => none

def give (s : Scan) (setting : Setting) (value : String) : Except Stop Scan :=
  let s := { s with pending := none }
  match setting with
  | .config =>
    if s.globals.config.isSome || value.isEmpty then .error .refused
    else .ok (s.setGlobals { s.globals with config := some value })
  | .filter =>
    match filter? value with
    | some f => .ok { s with filters := s.filters ++ [f] }
    | none => .error .refused

def setVerbose (s : Scan) : Except Stop Scan :=
  if s.globals.verbose then .error .refused
  else .ok (s.setGlobals { s.globals with verbose := true })

/-- A long option, without its hyphens. -/
def long (s : Scan) (option : List Char) : Except Stop Scan :=
  let (name, value) := match Text.splitFirst '=' option with
    | some (name, value) => (String.ofList name, some (String.ofList value))
    | none => (String.ofList option, none)
  let valued (setting : Setting) : Except Stop Scan :=
    match value with
    | some v => give s setting v
    | none => .ok { s with pending := some setting }
  if name = "config" then valued .config
  else if name = "property" ∧ s.command = some .list then valued .filter
  else if value.isSome then .error .refused
  else if name = "verbose" then setVerbose s
  else if name = "help" then .error .help
  else if name = "version" ∧ s.command = none then .error .version
  else .error .refused

/-- Joined short options, without their hyphen. -/
def short (s : Scan) : List Char → Except Stop Scan
  | [] => .ok s
  | c :: rest =>
    let valued (setting : Setting) : Except Stop Scan :=
      match rest with
      | [] => .ok { s with pending := some setting }
      | '=' :: value => give s setting (String.ofList value)
      | value => give s setting (String.ofList value)
    if c = 'c' then valued .config
    else if c = 'p' ∧ s.command = some .list then valued .filter
    else if c = 'v' then do short (← setVerbose s) rest
    else if c = 'h' then .error .help
    else if c = 'V' ∧ s.command = none then .error .version
    else .error .refused

/-- How many operands a command takes, as a bound if there is one. -/
def operandLimit : CommandName → Option Nat
  | .metrics => none
  | .destroy => some 1
  | _ => some 0

/-- A word that is no option: the command, or one of its operands. -/
def word (s : Scan) (token : String) : Except Stop Scan :=
  match s.command with
  | none =>
    match CommandName.ofString? token with
    | some name => if s.ended then .error .refused else .ok { s with command := some name }
    | none => .error .refused
  | some .help =>
    if s.operands.isEmpty ∧ (CommandName.ofString? token).isSome then
      .ok { s with operands := [token] }
    else .error .refused
  | some name =>
    if (operandLimit name).any (· ≤ s.operands.length) then .error .refused
    else .ok { s with operands := s.operands ++ [token] }

def isOption (token : String) : Bool := token.toList.head? == some '-' && token != "-"

def step (s : Scan) (token : String) : Except Stop Scan :=
  if s.ended || s.command = some .help || !isOption token then
    match s.pending with
    | some setting => give s setting token
    | none => word s token
  else if s.pending.isSome then .error .refused
  else match token.toList with
    | ['-', '-'] => .ok { s with ended := true }
    | '-' :: '-' :: option => long s option
    | _ :: options => short s options
    | [] => .error .refused

def finish (s : Scan) : Except Stop Invocation :=
  let run (command : Command) : Except Stop Invocation := .ok {
    settingsPath := s.after.config.or s.before.config
    verbose := s.before.verbose || s.after.verbose
    command }
  if s.pending.isSome then .error .refused
  else match s.command, s.operands with
    | none, _ => .error .refused
    | some .help, _ => .error .help
    | some .ping, _ => run .ping
    | some .capacity, _ => run .capacity
    | some .list, _ => run (.list (Table.ofList s.filters))
    | some .destroy, [handle] => run (.destroy handle)
    | some .destroy, _ => .error .refused
    | some .metrics, [] => .error .refused
    | some .metrics, handles => run (.metrics handles)

/-- The invocation that arguments stand for. -/
def parse (args : List String) : Except Stop Invocation :=
  (args.foldlM step {}).bind finish

end Arguments
end SandboxPods
