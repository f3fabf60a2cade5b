import SandboxPods.Json.Lenient
import SandboxPods.Sandbox.Spec
import SandboxPods.Engine.Basic

/-!
# Descriptions in JSON

The descriptions that callers hand in, of a sandbox and of a process, and the full
description of a process that is made from them. What is left out is empty.
-/
namespace SandboxPods
open Json

def ImageSpec.ofJson (v : Value) : ImageSpec :=
  ⟨textAt v "uri", textAt v "username", textAt v "password"⟩

def BindMount.ofJson (v : Value) : BindMount := ⟨textAt v "src", textAt v "dst"⟩

def PortRequest.ofJson (v : Value) : PortRequest := ⟨portAt v "host", portAt v "container"⟩

def SandboxSpec.ofJson (v : Value) : SandboxSpec := {
  handle := textAt v "handle"
  image := .ofJson (member v "image")
  env := textsAt v "env"
  bindMounts := (listAt v "bind_mounts").map .ofJson
  ports := (listAt v "net_in").map .ofJson
  memory := word64At v "memory"
  disk := word64At v "disk"
  properties := tableAt v "properties" }

def ExecutionRequest.ofJson (v : Value) : ExecutionRequest := {
  id := textAt? v "id"
  path := textAt v "path"
  args := textsAt v "args"
  env := textsAt v "env"
  dir := textAt v "dir"
  user := textAt v "user"
  image := .ofJson (member v "image") }

namespace ExecutionSpec

def ofJson (v : Value) : ExecutionSpec := {
  args := textsAt v "args"
  env := textsAt v "env"
  cwd := textAt v "cwd"
  user := ⟨word32At v "uid", word32At v "gid", textAt v "username"⟩
  capabilities := textsAt v "capabilities" }

def toJson (x : ExecutionSpec) : Value := .object [
  ("args", ofStrings x.args),
  ("env", ofStrings x.env),
  ("cwd", .string x.cwd),
  ("uid", ofNat x.user.uid.toNat),
  ("gid", ofNat x.user.gid.toNat),
  ("username", .string x.user.username),
  ("capabilities", ofStrings x.capabilities)]

end ExecutionSpec
end SandboxPods
