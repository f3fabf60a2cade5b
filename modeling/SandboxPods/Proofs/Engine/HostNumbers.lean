import Mathlib.Algebra.Group.Int.Defs
import Mathlib.Algebra.Group.Nat.Defs
import Std.Data.String.ToNat
import SandboxPods.Engine.Operations
import SandboxPods.Identity.Passwd
import SandboxPods.Transfer.Helper

/-!
# Numbers of processes on the host

The runtime reports numbers of sixty-four signed bits and refuses those that are not positive. The
others are narrowed afterwards, for a container to thirty-two bits and for a signal to thirty-two
signed bits, and narrowing wraps around. So small numbers are used as they were reported, while a
larger one stands for another process: a container's number can become zero, and a signal can go
to a number that is zero or negative, which the host takes for a group of processes or for all.
-/
namespace SandboxPods.Runtime
variable {id : String} {reply : RuntimeReply} {task : RoleTask} {i : Instance} {n : Int} {m : Nat}

/-- The result of a dialogue in which this is the reply. -/
def answer {α : Type} (d : RuntimeDialogue α) (reply : RuntimeReply) : α :=
  d.hold (m := Id) fun _ => reply

theorem answer_done {α : Type} (a : α) (reply : RuntimeReply) : answer (.done a) reply = a := rfl

theorem answer_send {α : Type} (request : RuntimeRequest) (next : RuntimeReply → RuntimeDialogue α)
    (reply : RuntimeReply) : answer (.send request next) reply = answer (next reply) reply := rfl

/-- One request and what is made of a good reply. -/
theorem answer_request {α β : Type} {a : α} {read : RuntimeReply → Except RuntimeFault α}
    (request : RuntimeRequest) (fault : RuntimeFault → EngineError) (f : α → Except EngineError β)
    (replied : read reply = .ok a) :
    answer ((RuntimeDialogue.request request read fault).andThen (fun a => .done (f a))) reply =
      f a := by
  rw [RuntimeDialogue.request, Dialogue.andThen, Dialogue.bind, answer_send, replied]
  exact answer_done (f a) reply

/-! ## Containers -/

/-- The number leads to the root filesystem of the task and is given to the copy helper. -/
structure UsedFor (task : RoleTask) (m : Nat) : Prop where
  root : Passwd.processRoot task.pid = "/proc/" ++ toString m ++ "/root"
  sent : ∀ path user, Helper.sendArgs task.pid path user = [toString m, user, path]
  fetched : ∀ path user, ∃ directory entry,
    Helper.fetchArgs task.pid path user = [toString m, user, directory, entry]

theorem usedFor_iff : UsedFor task m ↔ task.pid.toNat = m := by
  constructor
  · intro used
    have args := used.sent "" ""
    exact Nat.repr_injective (List.cons.inj args).1
  · intro same
    subst same
    exact ⟨rfl, fun _ _ => rfl, fun _ _ => ⟨_, _, rfl⟩⟩

theorem taskOf_refused (h : n ≤ 0) :
    taskOf id (some n) = .error (.taskNotFound (id ++ " is not running")) := by
  rw [taskOf, Option.filter_some_neg (by simpa using h)]

theorem taskOf_positive (h : 0 < n) : taskOf id (some n) = .ok ⟨⟨id⟩, UInt32.ofNat n.toNat⟩ := by
  rw [taskOf, Option.filter_some_pos (by simpa using h)]

theorem answer_loadTask {reported : Option Int}
    (replied : reply.read containerPid = .ok reported) :
    answer (loadTask id) reply = taskOf id reported :=
  answer_request _ _ _ replied

/-! ## Signals -/

/-- The signal goes to the number, and what comes of it is the host's answer for that number. -/
def SignalledTo (i : Instance) (reply : RuntimeReply) (p : Int32) : Prop :=
  ∀ deliver, answer (signal i deliver) reply =
    match deliver p with
    | none => .ok ()
    | some reason => .error (.runtime ("failed to signal " ++ i.id.text ++ ": " ++ reason))

theorem hostPid_refused {found : Inspection} (reported : found.pid = some n) (h : n ≤ 0) :
    hostPid i found = .error (.processNotFound i.id.text) := by
  rw [hostPid, reported, Option.filter_some_neg (by simpa using h)]

theorem hostPid_positive {found : Inspection} (reported : found.pid = some n) (h : 0 < n) :
    hostPid i found = .ok (Int32.ofInt n) := by
  rw [hostPid, reported, Option.filter_some_pos (by simpa using h)]

theorem answer_signal_refused {found : Inspection} (replied : reply.read inspection = .ok found)
    {e : EngineError} (refused : hostPid i found = .error e) (deliver : Int32 → Option String) :
    answer (signal i deliver) reply = .error e := by
  rw [signal, inspect, answer_request _ _ _ replied, refused]
  rfl

theorem signalledTo {found : Inspection} (replied : reply.read inspection = .ok found)
    {p : Int32} (addressed : hostPid i found = .ok p) : SignalledTo i reply p := by
  intro deliver
  rw [signal, inspect, answer_request _ _ _ replied, addressed]
  rfl

/-! ## Narrowing -/

theorem narrow_toNat (h : 0 < n) : ((UInt32.ofNat n.toNat).toNat : Int) = n % 2 ^ 32 := by
  rw [UInt32.toNat_ofNat']
  omega

theorem toInt_narrow (n : Int) : (Int32.ofInt n).toInt =
    if n % 2 ^ 32 < 2 ^ 31 then n % 2 ^ 32 else n % 2 ^ 32 - 2 ^ 32 := by
  rw [Int32.toInt_ofInt]
  exact Int.bmod_def n (2 ^ 32)

theorem toInt_narrow_eq_iff (h : 0 < n) : (Int32.ofInt n).toInt = n ↔ n < 2 ^ 31 := by
  rw [toInt_narrow]
  omega

theorem toInt_narrow_nonpos_iff :
    (Int32.ofInt n).toInt ≤ 0 ↔ n % 2 ^ 32 = 0 ∨ 2 ^ 31 ≤ n % 2 ^ 32 := by
  rw [toInt_narrow]
  omega

/-- A number is refused unless it is positive. What a container's is used for is its rest by
`2 ^ 32`, and what a signal goes to is the signed number of the same thirty-two bits. -/
theorem reported_number_used (n : Int) :
    (∀ id reply, reply.read containerPid = .ok (some n) →
      (n ≤ 0 → answer (loadTask id) reply = .error (.taskNotFound (id ++ " is not running"))) ∧
      (0 < n → ∃ task, answer (loadTask id) reply = .ok task ∧
        (∀ m : Nat, UsedFor task m ↔ (m : Int) = n % 2 ^ 32) ∧
        (UsedFor task n.toNat ↔ n < 2 ^ 32))) ∧
    ∀ i reply found, reply.read inspection = .ok found → found.pid = some n →
      (n ≤ 0 → ∀ deliver,
        answer (signal i deliver) reply = .error (.processNotFound i.id.text)) ∧
      (0 < n → ∃ p : Int32, SignalledTo i reply p ∧ p.toInt = n.bmod (2 ^ 32) ∧
        (p.toInt = n ↔ n < 2 ^ 31) ∧
        (p.toInt ≤ 0 ↔ n % 2 ^ 32 = 0 ∨ 2 ^ 31 ≤ n % 2 ^ 32)) := by
  refine ⟨fun id reply replied => ⟨fun low => ?_, fun positive => ?_⟩,
    fun i reply found replied reported => ⟨fun low deliver => ?_, fun positive => ?_⟩⟩
  · rw [answer_loadTask replied, taskOf_refused low]
  · have rest := narrow_toNat positive
    refine ⟨_, (answer_loadTask replied).trans (taskOf_positive positive), fun m => ?_, ?_⟩
    · rw [usedFor_iff, ← rest]
      exact eq_comm.trans Int.ofNat_inj.symm
    · rw [usedFor_iff]
      dsimp only
      omega
  · exact answer_signal_refused replied (hostPid_refused reported low) deliver
  · exact ⟨_, signalledTo replied (hostPid_positive reported positive), Int32.toInt_ofInt,
      toInt_narrow_eq_iff positive, toInt_narrow_nonpos_iff⟩

/-! ## Numbers beyond the widths -/

def replyOf (body : String) : RuntimeReply := .answered 200 (Utf8.encode body)

theorem read_replyOf {α : Type} {read : Json.Value → Option α} {body : String} {a : α}
    (decoded : (Json.read? (Utf8.encode body)).bind read = some a) :
    (replyOf body).read read = .ok a := by
  have accepted : (replyOf body).accept = .ok (Utf8.encode body) := rfl
  unfold RuntimeReply.read
  rw [accepted]
  simp only [bind, Except.bind, decoded]

/-- The reply about a container whose first process has the number. -/
def runningContainer (digits : String) : RuntimeReply :=
  replyOf ("\x7b\"State\": \x7b\"Pid\": " ++ digits ++ "\x7d\x7d")

/-- The reply about a process that runs under the number. -/
def runningProcess (digits : String) : RuntimeReply :=
  replyOf ("\x7b\"Running\": true, \"Pid\": " ++ digits ++ "\x7d")

/-- A number of thirty-two bits is that of a container, while a signal for it goes elsewhere. -/
theorem signed_width_passed :
    let container := runningContainer "2147483648"
    let process := runningProcess "2147483648"
    container.read containerPid = .ok (some 2147483648) ∧
      process.read inspection = .ok ⟨true, none, some 2147483648⟩ ∧
      (∃ task, answer (loadTask "c1") container = .ok task ∧ UsedFor task 2147483648) ∧
      ∃ p : Int32, SignalledTo ⟨⟨"p1"⟩, "e1"⟩ process p ∧ p.toInt ≠ 2147483648 ∧ p.toInt ≤ 0 := by
  intro container process
  have reported : container.read containerPid = .ok (some 2147483648) :=
    read_replyOf (by decide +kernel)
  have inspected : process.read inspection = .ok ⟨true, none, some 2147483648⟩ :=
    read_replyOf (by decide +kernel)
  have used := reported_number_used 2147483648
  obtain ⟨task, loaded, -, kept⟩ := (used.1 "c1" container reported).2 (by decide)
  obtain ⟨p, goes, -, same, low⟩ := (used.2 ⟨⟨"p1"⟩, "e1"⟩ process _ inspected rfl).2 (by decide)
  exact ⟨reported, inspected, ⟨task, loaded, kept.2 (by decide)⟩, p, goes, mt same.1 (by decide),
    low.2 (by decide)⟩

/-- A container of number `2 ^ 32` is taken for the one of number zero, a signal for that number
goes to the sender's own group, and one for the number below it to every process. -/
theorem numbers_wrapped :
    (∃ task, answer (loadTask "c1") (runningContainer "4294967296") = .ok task ∧
        UsedFor task 0) ∧
      SignalledTo ⟨⟨"p1"⟩, "e1"⟩ (runningProcess "4294967296") 0 ∧
      SignalledTo ⟨⟨"p1"⟩, "e1"⟩ (runningProcess "4294967295") (-1) := by
  have loaded : (runningContainer "4294967296").read containerPid = .ok (some 4294967296) :=
    read_replyOf (by decide +kernel)
  have group : (runningProcess "4294967296").read inspection =
      .ok ⟨true, none, some 4294967296⟩ := read_replyOf (by decide +kernel)
  have all : (runningProcess "4294967295").read inspection =
      .ok ⟨true, none, some 4294967295⟩ := read_replyOf (by decide +kernel)
  refine ⟨⟨_, answer_loadTask loaded, usedFor_iff.2 ?_⟩, signalledTo group rfl, signalledTo all rfl⟩
  decide

end SandboxPods.Runtime
