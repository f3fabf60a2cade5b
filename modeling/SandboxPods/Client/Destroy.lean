import SandboxPods.Client.Basic

/-!
# Destroying a sandbox

A destruction deletes the sandbox's pod and reads it until it is gone or the
deadline passes. Once the cluster accepted the deletion, or knew of no such pod,
the sandbox is forgotten with its ports and properties, whatever the reading
brings; a deletion that failed, or had no answer in time, leaves everything as it
was.
-/
namespace SandboxPods

/-- What a destruction waits for; the pod is the one known when it began. -/
inductive DestroyStage where
  | deleting (pod : Pod)
  | reading (pod : Pod)
  | pausing (pod : Pod) (wake : Instant)
  | finished (result : Except LifecycleError Unit)

structure DestroyCall where
  handle : String
  deadline : Instant
  stage : DestroyStage

namespace DestroyCall

def finish (call : DestroyCall) (result : Except LifecycleError Unit) : DestroyCall :=
  { call with stage := .finished result }

/-- Ends with the sandbox forgotten. -/
def forget (books : Books) (call : DestroyCall) (pod : Pod)
    (result : Except LifecycleError Unit) : Books × DestroyCall :=
  (books.forget call.handle pod, call.finish result)

def start (books : Books) (handle : String) (deadline : Instant) : DestroyCall :=
  match books.lookup handle with
  | .error e => { handle, deadline, stage := .finished (.error e) }
  | .ok key => { handle, deadline, stage := .deleting (books.sandbox key).pod }

/-- The deadline of a destruction that names none. -/
def defaultDeadline (client : Client) (now : Instant) : Instant :=
  now + client.settings.deleteTimeout

def awaiting (call : DestroyCall) : Awaiting :=
  match call.stage with
  | .deleting pod =>
    .answer (.cluster (.deletePod pod.podNamespace pod.name none)) (some call.deadline)
  | .reading pod =>
    .answer (.cluster (.getPod pod.podNamespace pod.name)) (some call.deadline)
  | .pausing _ wake => .pause wake call.deadline
  | .finished _ => .nothing

/-- An event takes the call to its next wait; an event that nobody waits for changes nothing. -/
def resume (client : Client) (now : Instant) (books : Books) (call : DestroyCall)
    (event : Event) : Books × DestroyCall :=
  let late : Except LifecycleError Unit := .error (.deleteTimeout call.handle)
  match call.stage, event with
  | .deleting pod, .answered (.deleted (.ok ())) => (books, { call with stage := .reading pod })
  | .deleting pod, .answered (.deleted (.error e)) =>
    if e.isNotFound then call.forget books pod (.ok ())
    else (books, call.finish (.error (.cluster "failed to delete pod" e)))
  | .deleting _, .expired => (books, call.finish late)
  | .reading pod, .answered (.pod (.ok _)) =>
    (books, { call with stage := .pausing pod (now + client.settings.pollInterval) })
  | .reading pod, .answered (.pod (.error e)) =>
    call.forget books pod
      (if e.isNotFound then .ok () else .error (.cluster "failed to get pod during deletion" e))
  | .reading pod, .expired => call.forget books pod late
  | .pausing pod _, .woke => (books, { call with stage := .reading pod })
  | .pausing pod _, .expired => call.forget books pod late
  | _, _ => (books, call)

end DestroyCall
end SandboxPods
