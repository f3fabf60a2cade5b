import SandboxPods.Client.Connect
import SandboxPods.Client.Create
import SandboxPods.Client.Destroy

/-!
# Calls side by side

Creations and destructions of one client run side by side over the same books: a
call is at one of its waits, and any event may come next.
-/
namespace SandboxPods

inductive Call where
  | create (call : CreateCall)
  | destroy (call : DestroyCall)

namespace Call

def awaiting (client : Client) (books : Books) : Call → Awaiting
  | .create call => call.awaiting client books
  | .destroy call => call.awaiting

/-- An event takes the call, and with it the books, to its next wait. -/
def resume (client : Client) (now : Instant) (books : Books) (event : Event) :
    Call → Books × Call
  | .create call => (call.resume client now books event).map id .create
  | .destroy call => (call.resume client now books event).map id .destroy

/-- Begins a creation. -/
def creating (client : Client) (books : Books) (spec : SandboxSpec) (deadline : Instant) :
    Books × Call :=
  (CreateCall.start client books spec deadline).map id .create

/-- Begins a destruction. -/
def destroying (books : Books) (handle : String) (deadline : Instant) : Call :=
  .destroy (DestroyCall.start books handle deadline)

end Call
end SandboxPods
