import SandboxPods.Client.Basic

/-!
# Connecting

A client reads its node once and then takes up the pods that the namespace already
holds: it registers each, notes its owner, holds its host ports in the pool, and
for a running pod loads the tasks again. Tasks that cannot be loaded are left out;
a second pod of one name is a failure.
-/
namespace SandboxPods

/-- What a connection waits for. -/
inductive ConnectStage where
  | askingNode
  | listing (client : Client)
  /-- Loading the tasks of a pod, with the pods that come after it. -/
  | loading (client : Client) (books : Books) (pod : Pod) (rest : List Pod)
  | finished (result : Except LifecycleError (Client × Books))

structure ConnectCall where
  settings : Settings
  nodeName : String
  stage : ConnectStage

namespace ConnectCall

def start (settings : Settings) (nodeName : String) : ConnectCall :=
  { settings, nodeName, stage := .askingNode }

/-- A pod that was found, before it is registered. -/
def note (books : Books) (pod : Pod) : Books :=
  let owner := (pod.metadata.labels.get? ownerLabel).getD ""
  let noted := (books.setProperty pod.name ownerProperty owner).setProperty pod.name
    Sandbox.stateProperty Sandbox.stateCreated
  { noted with
    ports := pod.hostPorts.foldl (fun pool p => (pool.reserve p).getD pool) noted.ports }

/-- Registers a pod that was found. -/
def adopt (books : Books) (pod : Pod) (tasks : Tasks) : Except LifecycleError Books :=
  (books.register { Sandbox.ofPod pod with tasks }).map (·.1)

/-- Takes up pods until one has tasks to load. -/
def recover (client : Client) (books : Books) : List Pod → ConnectStage
  | [] => .finished (.ok (client, books))
  | pod :: rest =>
    let books := note books pod
    if pod.isRunning then .loading client books pod rest
    else match adopt books pod {} with
      | .error e => .finished (.error e)
      | .ok books => recover client books rest

def awaiting (call : ConnectCall) : Awaiting :=
  match call.stage with
  | .askingNode => .answer (.cluster (.getNode call.nodeName)) none
  | .listing client => .answer (.cluster (.listPods client.settings.podNamespace {})) none
  | .loading _ _ pod _ => .answer (.loadTasks pod.status.containerStatuses) none
  | .finished _ => .nothing

/-- The stage after an answer; an answer that nobody waits for changes nothing. -/
def next (call : ConnectCall) : Answer → ConnectStage
  | .node result =>
    match call.stage, result with
    | .askingNode, .ok node =>
      .listing { settings := call.settings, nodeName := call.nodeName, node }
    | .askingNode, .error e =>
      .finished (.error (.cluster ("failed to get node " ++ call.nodeName) e))
    | stage, _ => stage
  | .pods result =>
    match call.stage, result with
    | .listing client, .ok pods => recover client {} pods
    | .listing _, .error e => .finished (.error (.cluster "failed to list existing pods" e))
    | stage, _ => stage
  | .tasks result =>
    match call.stage with
    | .loading client books pod rest =>
      match adopt books pod (match result with
        | .ok tasks => tasks
        | .error _ => {}) with
      | .error e => .finished (.error e)
      | .ok books => recover client books rest
    | stage => stage
  | _ => call.stage

def resume (call : ConnectCall) (answer : Answer) : ConnectCall :=
  { call with stage := call.next answer }

end ConnectCall
end SandboxPods
