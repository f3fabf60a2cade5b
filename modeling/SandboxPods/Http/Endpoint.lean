import SandboxPods.Failure
import SandboxPods.Text.Split

/-!
# Plain HTTP endpoints

The cluster's proxy and the node agent are reached over plain HTTP at an
authority, a host and a port. An endpoint's URL is the scheme, the authority and
any number of slashes after it; a path or another scheme is refused. A request is
answered by a status with a body, or it fails on the way.
-/
namespace SandboxPods

inductive HttpError where
  | invalidEndpoint (url : String)
  | connect (authority reason : String)
  | handshake (reason : String)
  | build (reason : String)
  | request (reason : String)
  | body (reason : String)
  deriving DecidableEq, Repr

/-- The name by which programs tell these failures apart. -/
def HttpError.kind : HttpError → String
  | .invalidEndpoint _ => "InvalidEndpoint"
  | .connect .. => "Connect"
  | .handshake _ => "Handshake"
  | .build _ => "Build"
  | .request _ => "Request"
  | .body _ => "Body"

def HttpError.message : HttpError → String
  | .invalidEndpoint url => "invalid endpoint " ++ url ++ ": only http:// endpoints are supported"
  | .connect authority reason => "failed to connect to " ++ authority ++ ": " ++ reason
  | .handshake reason => "HTTP handshake failed: " ++ reason
  | .build reason => "failed to build request: " ++ reason
  | .request reason => "request failed: " ++ reason
  | .body reason => "failed to read response: " ++ reason

instance : Failure HttpError := ⟨HttpError.kind, HttpError.message⟩

structure Endpoint where
  authority : String
  deriving DecidableEq, Repr

namespace Endpoint

def scheme : List Char := "http://".toList

def parse (url : String) : Except HttpError Endpoint :=
  match List.isPrefixOf? scheme url.toList with
  | none => .error (.invalidEndpoint url)
  | some rest =>
    let authority := (rest.reverse.dropWhile (· == '/')).reverse
    if authority.isEmpty || authority.contains '/' then .error (.invalidEndpoint url)
    else .ok ⟨String.ofList authority⟩

def ofHostPort (host : String) (port : UInt16) : Endpoint :=
  ⟨host ++ ":" ++ toString port.toNat⟩

end Endpoint

structure HttpRequest where
  method : String
  /-- The path with its query. -/
  path : String
  body : Option (List UInt8) := none
  deriving DecidableEq, Repr

structure HttpReply where
  status : Nat
  body : List UInt8
  deriving DecidableEq, Repr

def HttpReply.isSuccess (r : HttpReply) : Bool := 200 ≤ r.status && r.status < 300

end SandboxPods
