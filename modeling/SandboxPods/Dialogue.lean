/-!
# Dialogues

A conversation with another program is a value: it has come to a result, or it
sends a question and goes on with what comes back. What the partner does is no
part of it, so one dialogue can be held over a socket or against a script.
-/
namespace SandboxPods

inductive Dialogue (Q R α : Type) where
  | done (result : α)
  | send (question : Q) (next : R → Dialogue Q R α)

namespace Dialogue
variable {Q R α β : Type}

/-- One question, and the result is the reply. -/
def ask (question : Q) : Dialogue Q R R := .send question .done

/-- Goes on with the result. -/
def bind (d : Dialogue Q R α) (f : α → Dialogue Q R β) : Dialogue Q R β :=
  match d with
  | .done a => f a
  | .send q next => .send q (fun r => (next r).bind f)

instance : Monad (Dialogue Q R) where
  pure := .done
  bind := bind

/-- Goes on with a good result and ends with a failure. -/
def andThen {ε : Type} (d : Dialogue Q R (Except ε α)) (f : α → Dialogue Q R (Except ε β)) :
    Dialogue Q R (Except ε β) :=
  d.bind (fun
    | .ok a => f a
    | .error e => .done (.error e))

/-- The same dialogue in other questions and replies. -/
def lift {Q' R' : Type} (question : Q → Q') (reply : R' → R) : Dialogue Q R α → Dialogue Q' R' α
  | .done a => .done a
  | .send q next => .send (question q) (fun r => (next (reply r)).lift question reply)

/-- Holds the dialogue with a partner. -/
def hold {m : Type → Type} [Monad m] (partner : Q → m R) : Dialogue Q R α → m α
  | .done a => pure a
  | .send q next => do
    let r ← partner q
    (next r).hold partner

end Dialogue
end SandboxPods
