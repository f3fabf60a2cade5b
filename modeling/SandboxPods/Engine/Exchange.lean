import SandboxPods.Dialogue
import SandboxPods.Engine.Bridge
import SandboxPods.Json.Reader
import SandboxPods.Json.Record
import SandboxPods.Text.Utf8

/-!
# Exchanges with the runtime

The runtime is asked over its socket by HTTP requests. A reply counts as good when
its status says so, when nothing changed, and when the connection is switched to a
stream; any other status is a fault that carries the message of the reply's body,
or the body itself when it has none. What a fault means for the caller depends on
what was asked.
-/
namespace SandboxPods

/-- A login that goes with a request. -/
structure RegistryLogin where
  credentials : Credentials
  /-- The registry that an image reference names. -/
  server : Option String
  deriving DecidableEq, Repr

/-- The form in which a login travels. -/
def RegistryLogin.toJson (l : RegistryLogin) : Json.Value := .object (
  [("username", .string l.credentials.username), ("password", .string l.credentials.password)] ++
    Json.optionalMember "serveraddress" .string l.server)

structure RuntimeRequest where
  method : String
  /-- The path with its query, without the version of the interface. -/
  path : String
  login : Option RegistryLogin := none
  body : Option Json.Value := none

inductive RuntimeReply where
  | answered (status : Nat) (body : List UInt8)
  /-- The connection became a stream of frames, which ended well or for a reason. -/
  | switched (frames : List Bridge.Frame) (ending : Option String)
  /-- The connection ended without a reply. -/
  | lost (reason : String)

inductive RuntimeFault where
  | status (code : Nat) (message : String)
  /-- A failure reported within a stream. -/
  | stream (reason : String)
  | other (reason : String)
  deriving DecidableEq, Repr

def RuntimeFault.message : RuntimeFault → String
  | .status code message =>
    "Docker responded with status code " ++ toString code ++ ": " ++ message
  | .stream reason => "Docker stream error: " ++ reason
  | .other reason => reason

abbrev RuntimeDialogue (α : Type) := Dialogue RuntimeRequest RuntimeReply α

namespace RuntimeReply

def isGood (status : Nat) : Bool :=
  (200 ≤ status && status < 300) || status == 304 || status == 101

/-- The message that a body carries. -/
def faultMessage (body : List UInt8) : String :=
  let carried := do
    let f ← Json.fields ["message"] (← Json.read? body)
    f.required "message" Json.text
  carried.getD (String.ofList (Utf8.decodeLenient body))

/-- The body of a good reply. -/
def accept : RuntimeReply → Except RuntimeFault (List UInt8)
  | .lost reason => .error (.other reason)
  | .switched .. => .ok []
  | .answered status body =>
    if isGood status then .ok body else .error (.status status (faultMessage body))

def undecoded : RuntimeFault := .other "Failed to deserialize JSON"

/-- The body of a good reply, read as an object. -/
def read {α : Type} (read : Json.Value → Option α) (reply : RuntimeReply) :
    Except RuntimeFault α := do
  let body ← reply.accept
  match (Json.read? body).bind read with
  | some a => .ok a
  | none => .error undecoded

/-- The frames of a good reply and the reason for their end. -/
def stream (reply : RuntimeReply) :
    Except RuntimeFault (List Bridge.Frame × Option String) :=
  match reply with
  | .switched frames ending => .ok (frames, ending)
  | reply => reply.accept.bind (fun _ => .error (.other "no upgrade available"))

end RuntimeReply

namespace RuntimeFault

/-- A fault while an image is pulled. -/
def ofPull (image : String) (f : RuntimeFault) : EngineError :=
  .pullFailed (image ++ ": " ++ f.message)

/-- A fault about an image. -/
def ofImage (image : String) : RuntimeFault → EngineError
  | .status 404 _ => .imageNotFound image
  | f => .runtime (image ++ ": " ++ f.message)

/-- A fault about a task. -/
def ofTask : RuntimeFault → EngineError
  | .status 404 message => .taskNotFound message
  | .status 409 message => .execFailed message
  | f => .runtime f.message

/-- A fault about a process. -/
def ofExecution : RuntimeFault → EngineError
  | .status 404 message => .processNotFound message
  | f => .runtime f.message

end RuntimeFault

/-- One request, with its reply read and its faults given their meaning. -/
def RuntimeDialogue.request {α : Type} (request : RuntimeRequest)
    (read : RuntimeReply → Except RuntimeFault α) (fault : RuntimeFault → EngineError) :
    RuntimeDialogue (Except EngineError α) :=
  .send request (fun reply => .done ((read reply).mapError fault))

end SandboxPods
