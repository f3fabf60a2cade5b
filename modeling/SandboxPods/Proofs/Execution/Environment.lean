import Mathlib.Data.List.Basic
import SandboxPods.Sandbox.Basic

/-!
# What a process finds in its environment

A name is read in an environment by its entries, and the last of them wins. So the sources are
read from the back: the request first, then the requested user, then the sandbox. The default
search path stands behind the sandbox's entries and the user's, but is only there when neither
they nor the request set one, so it is read last of all.
-/
namespace SandboxPods

namespace Environment
variable {name given value entry user : String} {env base request : List String} {uid : UInt32}

/-! ## Reading -/

def entryOf (name value : String) : String := name ++ "=" ++ value

/-- What an entry sets a name to, none when it is no entry of the name. -/
def valueIn? (name entry : String) : Option String :=
  ((name.toList ++ ['=']).isPrefixOf? entry.toList).map String.ofList

/-- The value of a name: its last entry wins. -/
def value? (env : List String) (name : String) : Option String :=
  env.reverse.findSome? (valueIn? name)

theorem toList_entryOf (name value : String) :
    (entryOf name value).toList = name.toList ++ '=' :: value.toList := by
  simp [entryOf]

theorem valueIn?_eq_some_iff : valueIn? name entry = some value ↔ entry = entryOf name value := by
  rw [valueIn?, Option.map_eq_some_iff]
  simp only [List.isPrefixOf?_eq_some_iff_append_eq]
  constructor
  · intro read
    obtain ⟨rest, whole, rfl⟩ := read
    rw [← String.toList_inj, ← whole, toList_entryOf, String.toList_ofList, List.append_assoc]
    rfl
  · intro same
    subst same
    exact ⟨value.toList, by simp [toList_entryOf], String.ofList_toList⟩

/-- An entry belongs to one name only, since the first equals sign ends its name. -/
theorem entryOf_inj {v w : String} (plain : '=' ∉ name.toList) (plain' : '=' ∉ given.toList) :
    entryOf name v = entryOf given w ↔ name = given ∧ v = w := by
  constructor
  · intro same
    have cut := congrArg (fun s => Text.splitFirst '=' s.toList) same
    simp only [toList_entryOf, Text.splitFirst_append _ plain,
      Text.splitFirst_append _ plain', Option.some_inj, Prod.mk.injEq, String.toList_inj] at cut
    exact cut
  · intro same
    rw [same.1, same.2]

theorem valueIn?_entryOf (plain : '=' ∉ name.toList) (plain' : '=' ∉ given.toList) :
    valueIn? name (entryOf given value) = if name = given then some value else none := by
  ext v
  rw [valueIn?_eq_some_iff, entryOf_inj plain' plain, Option.ite_none_right_eq_some,
    Option.some_inj, @eq_comm _ given]

theorem value?_eq_none_iff :
    value? env name = none ↔ ∀ entry ∈ env, valueIn? name entry = none := by
  simp [value?]

theorem value?_append (front back : List String) (name : String) :
    value? (front ++ back) name = (value? back name).or (value? front name) := by
  simp [value?]

theorem value?_nil (name : String) : value? [] name = none := rfl

theorem value?_singleton (entry name : String) : value? [entry] name = valueIn? name entry := by
  simp [value?]

/-! ## The sources -/

/-- The search path that a user gets where nothing sets one. -/
def searchPath (uid : UInt32) : String := if uid = 0 then rootPath else userPath

/-- What a requested user sets a name to. -/
def userValue? (user name : String) : Option String :=
  if name = "USER" ∧ user ≠ "" then some user else none

/-- What a name is set to by default. -/
def defaultValue? (uid : UInt32) (name : String) : Option String :=
  if name = "PATH" then some (searchPath uid) else none

theorem userEntries_eq (user : String) :
    userEntries user = if user = "" then [] else [entryOf "USER" user] := by
  simp only [userEntries, String.isEmpty_iff]
  rfl

theorem value?_userEntries (plain : '=' ∉ name.toList) (user : String) :
    value? (userEntries user) name = userValue? user name := by
  rw [userEntries_eq, userValue?]
  by_cases unnamed : user = ""
  · rw [if_pos unnamed, if_neg (fun both => both.2 unnamed), value?_nil]
  · rw [if_neg unnamed, value?_singleton, valueIn?_entryOf plain (by decide)]
    simp only [unnamed, ne_eq, not_false_eq_true, and_true]

theorem isPath_eq (entry : String) : isPath entry = (valueIn? "PATH" entry).isSome := by
  rw [valueIn?, Option.isSome_map, List.isSome_isPrefixOf?_eq_isPrefixOf]
  rfl

theorem any_isPath_eq_false : env.any isPath = false ↔ value? env "PATH" = none := by
  rw [value?_eq_none_iff, List.any_eq_false]
  simp only [isPath_eq, Option.not_isSome_iff_eq_none]

theorem pathEntries_eq (uid : UInt32) (others : List String) : pathEntries uid others =
    if value? others "PATH" = none then [entryOf "PATH" (searchPath uid)] else [] := by
  unfold pathEntries
  by_cases unset : value? others "PATH" = none
  · rw [if_pos unset, any_isPath_eq_false.2 unset]
    rfl
  · have set := eq_true_of_ne_false (mt any_isPath_eq_false.1 unset)
    rw [if_neg unset, if_pos set]

theorem value?_pathEntries (plain : '=' ∉ name.toList) (uid : UInt32) (others : List String) :
    value? (pathEntries uid others) name =
      if value? others "PATH" = none then defaultValue? uid name else none := by
  rw [pathEntries_eq]
  split
  · rw [value?_singleton, valueIn?_entryOf plain (by decide)]
    rfl
  · rw [value?_nil]

/-! ## The whole -/

/-- An environment puts its sources together: nothing given is lost or moved, and a name has the
value that the first source has for it, of the request, the user, the base and the default. -/
structure Composed (base : List String) (user : String) (uid : UInt32) (request : List String)
    (env : List String) : Prop where
  entries : ∃ added, env = base ++ added ++ request ∧
    added.Sublist [entryOf "USER" user, entryOf "PATH" (searchPath uid)]
  value : ∀ name : String, '=' ∉ name.toList → value? env name =
    (value? request name).or ((userValue? user name).or
      ((value? base name).or (defaultValue? uid name)))

theorem sublist_added (user : String) (uid : UInt32) (others : List String) :
    (userEntries user ++ pathEntries uid others).Sublist
      [entryOf "USER" user, entryOf "PATH" (searchPath uid)] := by
  have one : (userEntries user).Sublist [entryOf "USER" user] := by
    rw [userEntries_eq]
    split
    · exact List.nil_sublist _
    · exact List.Sublist.refl _
  have two : (pathEntries uid others).Sublist [entryOf "PATH" (searchPath uid)] := by
    rw [pathEntries_eq]
    split
    · exact List.Sublist.refl _
    · exact List.nil_sublist _
  exact one.append two

theorem value?_ofParts (plain : '=' ∉ name.toList) :
    value? (ofParts base user uid request) name =
      (value? request name).or ((userValue? user name).or
        ((value? base name).or (defaultValue? uid name))) := by
  rw [ofParts, value?_append, value?_append, value?_append, value?_userEntries plain,
    value?_pathEntries plain, value?_append, value?_append]
  -- The default stands before the request and behind the others, but only where all are silent.
  by_cases path : name = "PATH"
  · subst path
    rw [value?_userEntries plain]
    cases value? request "PATH" with
    | some v => rfl
    | none =>
        cases userValue? user "PATH" with
        | some v => rfl
        | none => cases value? base "PATH" <;> rfl
  · have nothing : defaultValue? uid name = none := if_neg path
    rw [nothing, ite_self, Option.none_or, Option.or_none]

theorem composed_ofParts (base : List String) (user : String) (uid : UInt32)
    (request : List String) : Composed base user uid request (ofParts base user uid request) where
  entries := ⟨_, by rw [ofParts, List.append_assoc base], sublist_added user uid _⟩
  value _ plain := value?_ofParts plain

end Environment

namespace Sandbox
variable {s : Sandbox} {request : ExecutionRequest} {task : RoleTask} {user : SandboxUser}
  {users : RoleTask → String → Except IdentityError SandboxUser}

theorem run_ok (fresh : String) (attached : s.task (roleOf request) = .ok task)
    (resolved : users task request.user = .ok user) :
    s.run request fresh users = .ok {
      id := executionId request fresh
      role := roleOf request
      spec := s.executionSpec request user
      task } := by
  simp only [run, attached, resolved, bind, Except.bind]

/-- A request that can be run gets an environment put together from its own entries, the user it
asks for, the sandbox's entries and the search path of the user it was resolved to. -/
theorem run_environment (fresh : String) (attached : s.task (roleOf request) = .ok task)
    (resolved : users task request.user = .ok user) :
    ∃ e, s.run request fresh users = .ok e ∧
      Environment.Composed s.env request.user user.uid request.env e.spec.env :=
  ⟨_, run_ok fresh attached resolved, Environment.composed_ofParts _ _ _ _⟩

/-- The users of a root filesystem that knows one user besides root. -/
def vcapOnly (task : RoleTask) (username : String) : Except IdentityError SandboxUser :=
  Passwd.lookup (Passwd.processRoot task.pid) (.file "vcap:x:2000:2000::/home/vcap:/bin/sh")
    username

def repetitive : Sandbox := {
  handle := "web"
  pod := default
  env := ["USER=nobody", "LANG", "A=1", "A=2", "HOME=/"]
  tasks := .ofList [(Role.app, ⟨⟨"c1"⟩, 42⟩)] }

def repeatingRequest : ExecutionRequest := { path := "env", user := "vcap", env := ["A=3=4", "=5"] }

/-- Names that are set more than once, by every source or by none, and the empty name. -/
theorem repeated_names_read : repetitive.task (roleOf repeatingRequest) = .ok ⟨⟨"c1"⟩, 42⟩ ∧
    vcapOnly ⟨⟨"c1"⟩, 42⟩ repeatingRequest.user = .ok ⟨2000, 2000, "/home/vcap"⟩ ∧
    ∃ e, repetitive.run repeatingRequest "p1" vcapOnly = .ok e ∧
      Environment.value? e.spec.env "A" = some "3=4" ∧
      Environment.value? e.spec.env "" = some "5" ∧
      Environment.value? e.spec.env "USER" = some "vcap" ∧
      Environment.value? e.spec.env "HOME" = some "/" ∧
      Environment.value? e.spec.env "PATH" = some Environment.userPath ∧
      Environment.value? e.spec.env "LANG" = none := by
  have attached : repetitive.task (roleOf repeatingRequest) = .ok ⟨⟨"c1"⟩, 42⟩ := rfl
  have resolved : vcapOnly ⟨⟨"c1"⟩, 42⟩ repeatingRequest.user =
      .ok ⟨2000, 2000, "/home/vcap"⟩ := by decide +kernel
  obtain ⟨e, ran, composed⟩ := run_environment "p1" attached resolved
  refine ⟨attached, resolved, e, ran, ?_, ?_, ?_, ?_, ?_, ?_⟩
  · exact (composed.value "A" (by decide)).trans (by decide)
  · exact (composed.value "" (by decide)).trans (by decide)
  · exact (composed.value "USER" (by decide)).trans (by decide)
  · exact (composed.value "HOME" (by decide)).trans (by decide)
  · exact (composed.value "PATH" (by decide)).trans (by decide)
  · exact (composed.value "LANG" (by decide)).trans (by decide)

end Sandbox
end SandboxPods
