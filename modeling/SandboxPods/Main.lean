import Std.Async.DNS
import Std.Async.TCP
import Std.Time.DateTime.Timestamp
import SandboxPods.CommandLine.Session
import SandboxPods.Http.Message

/-!
# The command line

Reads the settings and the environment, holds a session's dialogues over the
network and prints its result. The runtime's socket is looked for, but its protocol
family is not offered here, so requests to the runtime are lost.
-/
namespace SandboxPods.Main
open Std.Async Std.Net

def readEntry (path : String) : IO PathEntry := do
  try
    return .ofBytes (← IO.FS.readBinFile path).toList
  catch
    | .noFileOrDirectory .. => return .absent
    | e => return .unreadable (toString e)

/-- What stands at the paths where settings may be. -/
def look (paths : List String) : IO (String → PathEntry) := do
  let entries ← paths.mapM (fun p => do return (p, ← readEntry p))
  return fun p => (entries.lookup p).getD .absent

def machineName : IO String := do
  match ← readEntry "/proc/sys/kernel/hostname" with
  | .file text => return String.ofList (Text.trim text.toList)
  | _ => return "localhost"

def addressOf (host : String) : Async IPv4Addr := do
  match IPv4Addr.ofString host with
  | some a => return a
  | none =>
    for a in ← DNS.getAddrInfo host "" (some .ipv4) do
      if let .v4 a := a then return a
    throw (IO.userError "no address")

/-- Everything that a connection brings. -/
partial def receive (client : TCP.Socket.Client) (sofar : ByteArray) : Async ByteArray := do
  match ← client.recv? 65536 with
  | some bytes => receive client (sofar ++ bytes)
  | none => return sofar

def exchange (authority : String) (request : HttpRequest) : Async (Option HttpReply) := do
  let (host, port) := match Text.splitLast ':' authority.toList with
    | some (host, port) => (String.ofList host, UInt16.ofNat (Decimal.natOfDigits port))
    | none => (authority, 80)
  let client ← TCP.Socket.Client.mk
  client.connect (.v4 ⟨← addressOf host, port⟩)
  client.send (ByteArray.mk (Http.writeRequest authority request).toArray)
  return Http.readReply? (← receive client .empty).toList

def send (authority : String) (request : HttpRequest) : IO WireReply := do
  try
    match ← (exchange authority request).block with
    | some reply => return .ok reply
    | none => return .error (.body "the reply is cut short")
  catch e => return .error (.connect authority (toString e))

def partner (settings : Settings) : WireRequest → IO WireReply
  | .cluster request =>
    match Endpoint.parse settings.cluster.apiUrl with
    | .ok endpoint => send endpoint.authority request
    | .error e => return .error e
  | .agent request =>
    send (Endpoint.ofHostPort settings.agent.address settings.agent.port).authority request
  | .runtime _ =>
    return .error (.connect settings.runtime.socket "this kind of socket is not offered")

def now : IO Instant := IO.monoNanosNow

def wallClock : IO Timestamp := do
  let t ← Std.Time.Timestamp.now
  return ⟨t.toSecondsSinceUnixEpoch.val, 0⟩

def sleepUntil (wake : Instant) : IO Unit := do
  let rest := wake - (← now)
  IO.sleep (UInt32.ofNat ((rest + 999999) / Span.millisecond))

/-- Goes from wait to wait until the session is over. -/
partial def converse (settings : Settings) (session : Session) : IO (Except String String) := do
  match session, session.wait with
  | .finished result, _ => return result
  | _, .answer dialogue limit =>
    let answer ← dialogue.hold (partner settings)
    let time ← now
    let clock ← wallClock
    let event := if limit.any (· < time) then .expired else .answered answer clock
    converse settings (session.resume time event)
  | _, .pause wake limit =>
    sleepUntil (min wake limit)
    converse settings (session.resume (← now) (if wake ≤ limit then .woke else .expired))
  | _, .nothing => return .ok ""

def run (invocation : Invocation) : IO (Except String String) := do
  let directory := "."
  let paths := invocation.settingsPath.elim
    (Settings.fileNames.map (fun n => directory ++ "/" ++ n)) (fun p => [p])
  match Session.settings (← look paths) directory invocation.settingsPath with
  | .error e => return .error e.message
  | .ok settings =>
    let node := settings.resolveNodeName (← IO.getEnv Settings.nodeNameVariable) (← machineName)
    let hasSocket := (← readEntry settings.runtime.socket) != .absent
    converse settings (Session.start settings node hasSocket invocation.command)

def usage : String :=
  "usage: podgarden [-c FILE] [-v] " ++
    "ping | capacity | list [-p KEY=VALUE]... | destroy HANDLE | metrics HANDLE..."

end SandboxPods.Main

open SandboxPods in
def main (args : List String) : IO UInt32 := do
  match Arguments.parse args with
  | .error .help => do
    IO.println Main.usage
    return 0
  | .error .version => do
    IO.println "podgarden 0.1.0"
    return 0
  | .error .refused => do
    IO.eprintln Main.usage
    return 2
  | .ok invocation =>
    match ← Main.run invocation with
    | .ok text =>
      IO.print text
      return 0
    | .error e =>
      IO.eprintln ("Error: " ++ e)
      return 1
