import SandboxPods.Client.PortClaim

/-!
# Creating a sandbox

A creation checks the handle, claims ports, resolves the image, registers the
sandbox, submits its pod, reads the pod until it runs or the deadline passes, and
loads its tasks. Before the handle is registered a failure gives the claimed ports
back; after that it leaves the sandbox registered for a later destruction. A pod
that is not running in time is deleted at once.
-/
namespace SandboxPods

/-- What a creation waits for. -/
inductive CreateStage where
  /-- Nothing has been done yet. -/
  | new
  | pulling (claim : PortClaim) (reference : ImageReference)
  /-- An image that is too large is on its way out. -/
  | discarding (claim : PortClaim) (image : PulledImage)
  | submitting (key : Nat)
  | reading (key : Nat)
  | pausing (key : Nat) (wake : Instant)
  /-- A pod that came too late is on its way out. -/
  | withdrawing (key : Nat)
  | loading (key : Nat) (statuses : List ContainerStatus)
  /-- The position of the new sandbox, or the failure. -/
  | finished (result : Except LifecycleError Nat)

structure CreateCall where
  spec : SandboxSpec
  deadline : Instant
  stage : CreateStage := .new

namespace CreateCall

def finish (call : CreateCall) (result : Except LifecycleError Nat) : CreateCall :=
  { call with stage := .finished result }

/-- Ends with a failure of the cluster. -/
def fail (call : CreateCall) (operation : String) (cause : ClusterError) : CreateCall :=
  call.finish (.error (.cluster operation cause))

/-- Ends before registration and gives the claimed ports back. -/
def abandon (call : CreateCall) (books : Books) (claim : PortClaim) (e : LifecycleError) :
    Books × CreateCall :=
  (books.releasePorts claim.claimed, call.finish (.error e))

/-! ## Up to the first wait -/

/-- The sandbox with its pod, before anyone knows of it. -/
def draft (client : Client) (spec : SandboxSpec) (claim : PortClaim) (image : String)
    (env : List String) (rootfsSize : UInt64) : Sandbox :=
  let share := client.shareOf spec.memory
  let plan : PodPlan := {
    settings := client.settings, nodeName := client.nodeName, spec, image
    ports := claim.ports, cpuShare := share, rootfsSize }
  { Sandbox.ofPod plan.pod with env, cpuShare := share, rootfsSize }

/-- Registers the sandbox, stores its properties and submits its pod; the loser of a race
for a handle stores nothing. -/
def register (client : Client) (books : Books) (call : CreateCall) (claim : PortClaim)
    (image : String) (env : List String) (rootfsSize : UInt64) : Books × CreateCall :=
  match books.register (draft client call.spec claim image env rootfsSize) with
  | .error e => call.abandon books claim e
  | .ok (books, key) =>
    ({ books with properties := books.properties.setAll call.spec.handle call.spec.properties },
      { call with stage := .submitting key })

/-- Finds out what the image is: a preloaded one is used as it stands, any other is pulled. -/
def resolveImage (client : Client) (books : Books) (call : CreateCall) (claim : PortClaim) :
    Books × CreateCall :=
  let uri := call.spec.image.uri
  match ImageSource.parse uri with
  | .error fault => call.abandon books claim (.invalidSpec (.image uri fault))
  | .ok (.preloaded name) => register client books call claim name call.spec.env 0
  | .ok (.managed reference) => (books, { call with stage := .pulling claim reference })

def start (client : Client) (books : Books) (spec : SandboxSpec) (deadline : Instant) :
    Books × CreateCall :=
  let call : CreateCall := { spec, deadline }
  match Handle.fault? spec.handle with
  | some fault => (books, call.finish (.error (.invalidSpec (.handle spec.handle fault))))
  | none =>
    if books.registry.contains spec.handle then
      (books, call.finish (.error (.alreadyExists spec.handle)))
    else match PortClaim.make books.ports spec.ports with
      | .error e => (books, call.finish (.error e))
      | .ok (ports, claim) => resolveImage client { books with ports } call claim

/-- The deadline of a creation that names none. -/
def defaultDeadline (client : Client) (now : Instant) : Instant :=
  now + client.settings.createTimeout

/-! ## From wait to wait -/

def awaiting (client : Client) (books : Books) (call : CreateCall) : Awaiting :=
  let ns := client.settings.podNamespace
  let handle := call.spec.handle
  match call.stage with
  | .pulling _ reference =>
    .answer (.pull reference (Credentials.ofParts call.spec.image.username
      call.spec.image.password)) none
  | .discarding _ image => .answer (.deleteImage image.id) none
  | .submitting key => .answer (.cluster (.createPod (books.sandbox key).pod)) none
  | .reading _ => .answer (.cluster (.getPod ns handle)) (some call.deadline)
  | .pausing _ wake => .pause wake call.deadline
  | .withdrawing _ => .answer (.cluster (.deletePod ns handle (some 0))) none
  | .loading _ statuses => .answer (.loadTasks statuses) none
  | .new | .finished _ => .nothing

/-- A pulled image counts only below the disk limit. -/
def pulled (client : Client) (books : Books) (call : CreateCall) (claim : PortClaim)
    (image : PulledImage) : Books × CreateCall :=
  if call.spec.disk ≤ image.size then (books, { call with stage := .discarding claim image })
  else register client books call claim image.name (image.env ++ call.spec.env) image.size

/-- What is wrong with an image that is too large, and with its removal. -/
def oversize (spec : SandboxSpec) (image : PulledImage) (removal : Except EngineError Unit) :
    LifecycleError :=
  let size := "image size " ++ toString image.size.toNat ++ " exceeds container disk limit " ++
    toString spec.disk.toNat
  .diskLimitExceeded (size :: match removal with
    | .ok () => []
    | .error e => [e.message])

/-- A pod as read: kept, and good for going on when it runs. -/
def sawPod (client : Client) (now : Instant) (books : Books) (call : CreateCall) (key : Nat)
    (pod : Pod) : Books × CreateCall :=
  (books.modify key (fun s => { s with pod }),
    { call with stage :=
        if pod.isRunning then .loading key pod.status.containerStatuses
        else .pausing key (now + client.settings.pollInterval) })

/-- The sandbox has its tasks and is created. -/
def loaded (books : Books) (call : CreateCall) (key : Nat) (tasks : Tasks) :
    Books × CreateCall :=
  (((books.modify key (fun s => { s with tasks })).setProperty call.spec.handle
      Sandbox.stateProperty Sandbox.stateCreated),
    call.finish (.ok key))

/-- An event takes the call to its next wait; an event that nobody waits for changes nothing. -/
def resume (client : Client) (now : Instant) (books : Books) (call : CreateCall)
    (event : Event) : Books × CreateCall :=
  match call.stage, event with
  | .pulling claim _, .answered (.pulled (.ok image)) => pulled client books call claim image
  | .pulling claim reference, .answered (.pulled (.error e)) =>
    call.abandon books claim (.engine ("failed to pull image " ++ reference.display) e)
  | .discarding claim image, .answered (.imageDeleted removal) =>
    call.abandon books claim (oversize call.spec image removal)
  | .submitting key, .answered (.pod (.ok _)) => (books, { call with stage := .reading key })
  | .submitting _, .answered (.pod (.error e)) => (books, call.fail "failed to create pod" e)
  | .reading key, .answered (.pod (.ok pod)) => sawPod client now books call key pod
  | .reading key, .answered (.pod (.error e)) =>
    if e.isNotFound then
      (books, { call with stage := .pausing key (now + client.settings.pollInterval) })
    else (books, call.fail "failed to get pod after creation" e)
  | .reading key, .expired => (books, { call with stage := .withdrawing key })
  | .pausing key _, .woke => (books, { call with stage := .reading key })
  | .pausing key _, .expired => (books, { call with stage := .withdrawing key })
  | .withdrawing _, .answered (.deleted _) =>
    (books, call.finish (.error (.createTimeout call.spec.handle)))
  | .loading key _, .answered (.tasks (.ok tasks)) => loaded books call key tasks
  | .loading _ _, .answered (.tasks (.error e)) =>
    (books, call.finish (.error (.engine "failed to load runtime tasks" e)))
  | _, _ => (books, call)

end CreateCall
end SandboxPods
