import SandboxPods.Http.Endpoint
import SandboxPods.Cluster.Error
import SandboxPods.Pod.Wire
import SandboxPods.Json.Reader
import SandboxPods.Json.Writer

/-!
# Calls on the cluster

Each call is one request, whose path carries every name and selector
percent-encoded, and one reading of the reply. A reply of status 404 or 409 is
about the object the call names; any other failure carries the message of the
reply's status object, or the whole body when it is no such object.
-/
namespace SandboxPods

/-- What a list of pods is narrowed to. -/
structure PodSelector where
  field : Option String := none
  label : Option String := none
  deriving DecidableEq, Repr

/-- The pods of one name. -/
def PodSelector.byName (name : String) : PodSelector := { field := some ("metadata.name=" ++ name) }

inductive ClusterCall where
  | getNode (name : String)
  | getPod (podNamespace name : String)
  | createPod (pod : Pod)
  /-- Grace zero deletes without a graceful end. -/
  | deletePod (podNamespace name : String) (grace : Option Int)
  | listPods (podNamespace : String) (selector : PodSelector)
  deriving DecidableEq, Repr

namespace ClusterCall

def encoded (s : String) : String := String.ofList (Percent.encode s)

def nodePath (name : String) : String := "/api/v1/nodes/" ++ encoded name

def podsPath (podNamespace : String) : String :=
  "/api/v1/namespaces/" ++ encoded podNamespace ++ "/pods"

def podPath (podNamespace name : String) : String :=
  podsPath podNamespace ++ "/" ++ encoded name

/-- Parameters that are present, with a question mark in front of the first. -/
def query (parameters : List (String × Option String)) : String :=
  let present := parameters.filterMap (fun p => p.2.map (fun v => p.1 ++ "=" ++ v))
  if present.isEmpty then "" else "?" ++ String.intercalate "&" present

def path : ClusterCall → String
  | .getNode name => nodePath name
  | .getPod ns name => podPath ns name
  | .createPod pod => podsPath pod.podNamespace
  | .deletePod ns name grace =>
    podPath ns name ++ query [("gracePeriodSeconds", grace.map toString)]
  | .listPods ns selector =>
    podsPath ns ++ query [("fieldSelector", selector.field.map encoded),
      ("labelSelector", selector.label.map encoded)]

def method : ClusterCall → String
  | .createPod _ => "POST"
  | .deletePod .. => "DELETE"
  | _ => "GET"

def body : ClusterCall → Option (List UInt8)
  | .createPod pod => some (Utf8.encode (Json.compact pod.toJson))
  | _ => none

def request (c : ClusterCall) : HttpRequest := ⟨c.method, c.path, c.body⟩

/-- The object that a failure of the call is about. -/
def subject : ClusterCall → ObjectKind × String
  | .getNode name => (.node, name)
  | .getPod _ name => (.pod, name)
  | .createPod pod => (.pod, pod.name)
  | .deletePod _ name _ => (.pod, name)
  | .listPods ns _ => (.podNamespace, ns)

/-- The message of a status object. -/
def statusMessage? (body : List UInt8) : Option String := do
  let f ← Json.fields ["message"] (← Json.read? body)
  f.withDefault "message" "" Json.text

/-- The failure that an unsuccessful reply stands for. -/
def failure (c : ClusterCall) (r : HttpReply) : ClusterError :=
  let (kind, name) := c.subject
  if r.status = 404 then .notFound kind name
  else if r.status = 409 then .alreadyExists kind name
  else .api r.status ((statusMessage? r.body).getD (String.ofList (Utf8.decodeLenient r.body)))

/-- What became of the call: the body of a successful reply, or the failure. -/
def outcome (c : ClusterCall) (reply : Except HttpError HttpReply) :
    Except ClusterError (List UInt8) :=
  match reply with
  | .error e => .error (.transport e.message)
  | .ok r => if r.isSuccess then .ok r.body else .error (c.failure r)

/-- A body read as an object. -/
def decode {α : Type} (read : Json.Value → Option α) (body : List UInt8) :
    Except ClusterError α :=
  match (Json.read? body).bind read with
  | some a => .ok a
  | none => .error (.decode "not the expected object")

end ClusterCall
end SandboxPods
