import SandboxPods.Client.Connect
import SandboxPods.Client.Destroy
import SandboxPods.Client.Exchange
import SandboxPods.Client.ReportWire
import SandboxPods.CommandLine.Arguments
import SandboxPods.Json.Writer
import SandboxPods.Settings.Document

/-!
# An operator's session

A command reads the settings, connects a client, does its work and ends with a text
for the operator or with an error. In between it waits for the servers or for time
to pass.
-/
namespace SandboxPods

inductive Session where
  | connecting (command : Command) (call : ConnectCall)
  | pinging
  | measuring (books : Books) (handles : List String)
  | destroying (client : Client) (books : Books) (call : DestroyCall)
  /-- What is printed, or the error. -/
  | finished (result : Except String String)

/-- What a session learns from the servers. -/
inductive SessionAnswer where
  | client (answer : Answer)
  | serving (serving : Bool)
  | summary (result : Except TelemetryError Summary)

inductive SessionEvent where
  /-- An answer, with the wall-clock time at which it came. -/
  | answered (answer : SessionAnswer) (time : Timestamp)
  | woke
  | expired

inductive SessionWait where
  | answer (dialogue : WireDialogue SessionAnswer) (limit : Option Instant)
  | pause (wake : Instant) (limit : Instant)
  | nothing

namespace Session

def fail (e : LifecycleError) : Session := .finished (.error e.message)

def print (line : String) : Session := .finished (.ok (line ++ "\n"))

def printJson (v : Json.Value) : Session := print (Json.indented v)

/-- The settings at the named path, or those of the directory, or the defaults. -/
def settings (look : String → PathEntry) (directory : String) (path : Option String) :
    Except SettingsError Settings :=
  match path with
  | some path => Settings.load look path
  | none =>
    match Settings.discover look directory with
    | .error (.notFound _) => .ok {}
    | result => result

def connectFailure (what reason : String) : String :=
  "failed to connect to " ++ what ++ ": " ++ reason

/-- Begins with the settings; the runtime's socket has to be there. -/
def start (settings : Settings) (nodeName : String) (hasSocket : Bool) (command : Command) :
    Session :=
  match Endpoint.parse settings.cluster.apiUrl with
  | .error e =>
    .finished (.error (connectFailure "cluster API" (ClusterError.transport e.message).message))
  | .ok _ =>
    if hasSocket then .connecting command (ConnectCall.start settings nodeName)
    else
      let reason := "Socket not found: " ++ settings.runtime.socket
      .finished (.error (connectFailure "runtime engine" (EngineError.notServing reason).message))

/-- The command's own work, once its client is connected. -/
def carryOut (now : Instant) (client : Client) (books : Books) : Command → Session
  | .ping => .pinging
  | .capacity => printJson client.capacity.toJson
  | .list filter => printJson (.array ((books.sandboxesMatching filter).map books.entryToJson))
  | .destroy handle =>
    let call := DestroyCall.start books handle (DestroyCall.defaultDeadline client now)
    match call.stage with
    | .finished (.error e) => fail e
    | _ => .destroying client books call
  | .metrics handles => .measuring books handles

/-- The text for the end of a destruction. -/
def destroyed (client : Client) (books : Books) (call : DestroyCall) : Session :=
  match call.stage with
  | .finished (.ok ()) => print ("destroyed " ++ call.handle)
  | .finished (.error e) => fail e
  | _ => .destroying client books call

def connected (now : Instant) (command : Command) (call : ConnectCall) : Session :=
  match call.stage with
  | .finished (.ok (client, books)) => carryOut now client books command
  | .finished (.error e) => fail e
  | _ => .connecting command call

def resume (now : Instant) (event : SessionEvent) : Session → Session
  | .connecting command call =>
    match event with
    | .answered (.client answer) _ => connected now command (call.resume answer)
    | _ => .connecting command call
  | .pinging =>
    match event with
    | .answered (.serving true) _ => print "ok"
    | .answered (.serving false) _ => fail .notServing
    | _ => .pinging
  | .measuring books handles =>
    match event with
    | .answered (.summary result) time =>
      match books.usages (result.map (·.samples handles time)) with
      | .ok usages => printJson (Json.ofTable Usage.toJson usages)
      | .error e => fail e
    | _ => .measuring books handles
  | .destroying client books call =>
    let event : Option Event := match event with
      | .answered (.client answer) _ => some (.answered answer)
      | .woke => some .woke
      | .expired => some .expired
      | _ => none
    match event with
    | some event =>
      let (books, call) := call.resume client now books event
      destroyed client books call
    | none => .destroying client books call
  | .finished result => .finished result

/-- A client's wait as the session's own. -/
def ofAwaiting : Awaiting → SessionWait
  | .answer ask limit => .answer (ask.dialogue.bind (fun a => .done (.client a))) limit
  | .pause wake limit => .pause wake limit
  | .nothing => .nothing

/-- What the session waits for. -/
def wait : Session → SessionWait
  | .connecting _ call => ofAwaiting call.awaiting
  | .destroying _ _ call => ofAwaiting call.awaiting
  | .pinging => .answer (Runtime.ping.onWire.bind (fun b => .done (.serving b))) none
  | .measuring .. => .answer (Summary.dialogue.bind (fun r => .done (.summary r))) none
  | .finished _ => .nothing

end Session
end SandboxPods
