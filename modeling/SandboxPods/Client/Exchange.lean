import SandboxPods.Client.Basic
import SandboxPods.Engine.Operations
import SandboxPods.Telemetry.Summary

/-!
# A client's questions on the wire

What a call asks becomes a dialogue of requests to one of three servers: the
cluster, the runtime, or the agent of the node.
-/
namespace SandboxPods

inductive WireRequest where
  | cluster (request : HttpRequest)
  | runtime (request : RuntimeRequest)
  | agent (request : HttpRequest)

abbrev WireReply := Except HttpError HttpReply

abbrev WireDialogue (α : Type) := Dialogue WireRequest WireReply α

/-- The runtime's view of a reply. -/
def RuntimeReply.ofWire : WireReply → RuntimeReply
  | .ok reply => .answered reply.status reply.body
  | .error e => .lost e.message

/-- A dialogue with the runtime alone. -/
def RuntimeDialogue.onWire {α : Type} (d : RuntimeDialogue α) : WireDialogue α :=
  d.lift .runtime .ofWire

/-- What the cluster's reply answers. -/
def ClusterCall.answer (call : ClusterCall) (reply : WireReply) : Answer :=
  let decoded {α : Type} (read : Json.Value → Option α) : Except ClusterError α :=
    (call.outcome reply).bind (ClusterCall.decode read)
  match call with
  | .getNode _ => .node (decoded ClusterNode.ofJson?)
  | .getPod .. | .createPod _ => .pod (decoded Pod.ofJson?)
  | .deletePod .. => .deleted ((call.outcome reply).map (fun _ => ()))
  | .listPods .. => .pods (decoded Pod.listOfJson?)

def Ask.dialogue : Ask → WireDialogue Answer
  | .cluster call => .send (.cluster call.request) (fun reply => .done (call.answer reply))
  | .pull reference credentials =>
    (Runtime.pull reference credentials).onWire.bind (fun r => .done (.pulled r))
  | .deleteImage id => (Runtime.deleteImage id).onWire.bind (fun r => .done (.imageDeleted r))
  | .loadTasks statuses =>
    (Runtime.loadTasks {} statuses).onWire.bind (fun r => .done (.tasks r))

/-- Asks the node's agent for its summary. -/
def Summary.dialogue : WireDialogue (Except TelemetryError Summary) :=
  .send (.agent Summary.request) (fun reply => .done (Summary.ofReply reply))

end SandboxPods
