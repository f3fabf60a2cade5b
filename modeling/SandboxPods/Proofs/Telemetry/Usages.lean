import SandboxPods.CommandLine.Session
import SandboxPods.Proofs.Telemetry.Samples

/-!
# Usage joined with the books

The handles that count are those which are requested and name a pod with an app container. The
usage of all of them is reported if they are registered, and if one is not the report fails and
names such a handle. A session that measures works on the books it began with, and the first
summary it is told settles its result.
-/
namespace SandboxPods

/-- Entries are taken to results one by one, under the same keys, up to the first error. -/
theorem mapM_entries_cases {ε α β : Type} (f : String × α → Except ε β)
    (l : List (String × α)) :
    (∃ r, l.mapM (fun e => (f e).map (fun u => (e.1, u))) = .ok r ∧
      r.map Prod.fst = l.map Prod.fst ∧
      ∀ name u, (name, u) ∈ r → ∃ x, (name, x) ∈ l ∧ f (name, x) = .ok u) ∨
    ∃ e ∈ l, ∃ reason, f e = .error reason ∧
      l.mapM (fun e => (f e).map (fun u => (e.1, u))) = .error reason := by
  induction l with
  | nil => exact .inl ⟨[], rfl, rfl, fun _ _ member => nomatch member⟩
  | cons e rest ih =>
      rw [List.mapM_cons]
      cases first : f e with
      | error reason => exact .inr ⟨e, List.mem_cons_self, reason, first, rfl⟩
      | ok u =>
          obtain ⟨r, later, keys, results⟩ | ⟨c, member, reason, failed, later⟩ := ih
          · refine .inl ⟨(e.1, u) :: r, by rw [later]; rfl, by simp [keys], ?_⟩
            intro name v member
            rcases List.mem_cons.1 member with same | member
            · cases same
              exact ⟨e.2, List.mem_cons_self, first⟩
            · obtain ⟨x, listed, result⟩ := results name v member
              exact ⟨x, List.mem_cons_of_mem e listed, result⟩
          · exact .inr ⟨c, List.mem_cons_of_mem e member, reason, failed, by rw [later]; rfl⟩

/-! ## Registered handles -/

namespace Books
variable {b : Books} {handle : String} {sample : Sample} {u : Usage} {key : Nat}

/-- The handle is registered, for the sandbox at the position. -/
def Holds (b : Books) (handle : String) (key : Nat) : Prop := b.registry.get? handle = some key

theorem usage_of_holds (held : b.Holds handle key) (sample : Sample) :
    b.usage handle sample = .ok (usageOf (b.sandbox key) sample) := by
  unfold Holds at held
  simp only [usage, lookup, Registry.get, held]

theorem usage_of_absent (absent : ∀ key, ¬ b.Holds handle key) (sample : Sample) :
    b.usage handle sample = .error (.sandboxNotFound handle) := by
  have none : b.registry.get? handle = none := Option.eq_none_iff_forall_ne_some.2 absent
  simp only [usage, lookup, Registry.get, none]

theorem holds_of_usage (reported : b.usage handle sample = .ok u) :
    ∃ key, b.Holds handle key ∧ u = usageOf (b.sandbox key) sample := by
  by_cases held : ∃ key, b.Holds handle key
  · obtain ⟨key, held⟩ := held
    rw [usage_of_holds held] at reported
    exact ⟨key, held, (Except.ok.inj reported).symm⟩
  · rw [usage_of_absent (not_exists.1 held)] at reported
    cases reported

theorem absent_of_usage {reason : LifecycleError} (failed : b.usage handle sample = .error reason) :
    (∀ key, ¬ b.Holds handle key) ∧ reason = .sandboxNotFound handle := by
  by_cases held : ∃ key, b.Holds handle key
  · obtain ⟨key, held⟩ := held
    rw [usage_of_holds held] at failed
    cases failed
  · rw [usage_of_absent (not_exists.1 held)] at failed
    exact ⟨not_exists.1 held, (Except.error.inj failed).symm⟩

/-- The usage of every sampled handle is reported, or one of them is unregistered. -/
theorem usages_cases (b : Books) (samples : Table Sample) :
    (∃ t, b.usages (.ok samples) = .ok t ∧
      (∀ name, t.get? name ≠ none ↔ samples.get? name ≠ none) ∧
      ∀ name u, t.get? name = some u →
        ∃ x key, samples.get? name = some x ∧ b.Holds name key ∧ u = usageOf (b.sandbox key) x) ∨
    ∃ name, samples.get? name ≠ none ∧ (∀ key, ¬ b.Holds name key) ∧
      b.usages (.ok samples) = .error (.sandboxNotFound name) := by
  unfold usages
  obtain ⟨r, all, keys, results⟩ | ⟨e, member, reason, failed, all⟩ :=
    mapM_entries_cases (fun e => b.usage e.1 e.2) samples.toList
  · have distinct : (r.map Prod.fst).Nodup := keys ▸ samples.nodup_keys
    refine .inl ⟨Table.ofList r, by simp only [all]; rfl, ?_, ?_⟩
    · intro name
      rw [← Table.mem_keys, ← Table.mem_keys, Table.mem_keys_ofList distinct, keys]
      rfl
    · intro name u found
      obtain ⟨x, listed, reported⟩ := results name u ((Table.get?_ofList distinct).1 found)
      obtain ⟨key, held, rfl⟩ := holds_of_usage reported
      exact ⟨x, key, Table.mem_entries.1 listed, held, rfl⟩
  · obtain ⟨absent, rfl⟩ := absent_of_usage failed
    refine .inr ⟨e.1, ?_, absent, by simp only [all]; rfl⟩
    rw [Table.mem_entries.1 member]
    exact Option.some_ne_none e.2

end Books

/-! ## Reports -/

/-- The figures of a sandbox as its pod was measured. -/
structure Measured (now : Timestamp) (pod : PodStats) (sandbox : Sandbox) (u : Usage) : Prop where
  /-- Memory and processor time are those of the first app container. -/
  app : ∃ app, pod.containers.find? (fun c => c.name = Summary.appContainer) = some app ∧
    u.memory = app.workingSet.getD 0 ∧ u.cpuNanos = app.cpuNanos.getD 0
  disk : (pod.ephemeralUsed.getD 0).toNat + sandbox.rootfsSize.toNat < UInt64.size →
    u.disk.toNat = (pod.ephemeralUsed.getD 0).toNat + sandbox.rootfsSize.toNat
  unstarted : pod.started = none → u.ageNanos = 0
  age : ∀ start, pod.started = some start → (u.ageNanos.toNat : Int) =
    if 0 ≤ now.nanosSince start ∧ now.nanosSince start ≤ Int64.maxValue.toInt
    then now.nanosSince start else 0
  entitlement : u.cpuEntitlementNanos = (sandbox.cpuShare * u.ageNanos.toFloat).toUInt64
  network : ∀ n, u.network = some n ↔ pod.rx = some n.rx ∧ pod.tx = some n.tx

theorem age_started (now start : Timestamp) : ((Summary.age now (some start)).toNat : Int) =
    if 0 ≤ now.nanosSince start ∧ now.nanosSince start ≤ Int64.maxValue.toInt
    then now.nanosSince start else 0 := by
  have limit : Int64.maxValue.toInt = 9223372036854775807 := rfl
  have size : UInt64.size = 18446744073709551616 := rfl
  simp only [Summary.age, limit]
  split
  · next inside =>
    have fits : (now.nanosSince start).toNat < UInt64.size := by omega
    rw [if_pos (by omega), UInt64.toNat_ofNat_of_lt' fits]
    omega
  · next outside =>
    rw [if_neg (by omega)]
    rfl

theorem networkOf_eq_some_iff {sample : Sample} {n : NetworkUsage} :
    networkOf sample = some n ↔ sample.rx = some n.rx ∧ sample.tx = some n.tx := by
  obtain ⟨rx, tx⟩ := n
  unfold networkOf
  split
  · next hr ht => simp [hr, ht]
  · next absent =>
    constructor
    · intro impossible
      cases impossible
    · intro both
      exact (absent rx tx both.1 both.2).elim

theorem measured_usageOf {now : Timestamp} {pod : PodStats} {x : Sample}
    (given : Summary.sampleOf now pod = some x) (sandbox : Sandbox) :
    Measured now pod sandbox (usageOf sandbox x) := by
  obtain ⟨app, found, rfl⟩ := Option.map_eq_some_iff.1 given
  constructor
  case app => exact ⟨app, by simpa only [beq_eq_decide] using found, rfl, rfl⟩
  case disk =>
    intro fits
    exact (UInt64.toNat_add _ _).trans (Nat.mod_eq_of_lt fits)
  case unstarted =>
    intro without
    simp only [usageOf, without, Summary.age]
  case age =>
    intro start started
    simp only [usageOf, started]
    exact age_started now start
  case entitlement => rfl
  case network =>
    intro n
    exact networkOf_eq_some_iff

namespace Summary
variable {s : Summary} {handles : List String} {now : Timestamp} {name : String}

/-- The handle is requested and names a pod that has an app container. -/
def Sampled (s : Summary) (handles : List String) (name : String) : Prop :=
  name ∈ handles ∧ ∃ pod ∈ s.pods, pod.name = name ∧ pod.HasApp

theorem samples_ne_none_iff :
    (s.samples handles now).get? name ≠ none ↔ s.Sampled handles name := by
  rw [Option.ne_none_iff_exists']
  constructor
  · intro found
    obtain ⟨x, found⟩ := found
    obtain ⟨requested, pod, listed, named, given⟩ := exists_pod_of_get?_samples found
    exact ⟨requested, pod, listed, named, (exists_sampleOf_iff now).1 ⟨x, given⟩⟩
  · intro sampled
    obtain ⟨requested, pod, listed, named, app⟩ := sampled
    have nonempty : s.podsOf name ≠ [] := List.ne_nil_of_mem (mem_podsOf.2 ⟨listed, named, app⟩)
    obtain ⟨-, -, app⟩ := mem_podsOf.1 (List.getLast_mem nonempty)
    obtain ⟨x, given⟩ := (exists_sampleOf_iff now).2 app
    have last := List.getLast?_eq_some_getLast nonempty
    exact ⟨x, get?_samples_eq_some_iff.2 ⟨requested, _, last, given⟩⟩

end Summary

/-- What a report for requested handles is worth. -/
structure Reported (b : Books) (s : Summary) (handles : List String) (now : Timestamp)
    (result : Except LifecycleError (Table Usage)) : Prop where
  ok_iff : (∃ usages, result = .ok usages) ↔
    ∀ name, s.Sampled handles name → ∃ key, b.Holds name key
  refused : ∀ reason, result = .error reason → ∃ name, s.Sampled handles name ∧
    (∀ key, ¬ b.Holds name key) ∧ reason = .sandboxNotFound name
  entries : ∀ usages, result = .ok usages → usages.keys.Nodup ∧
    ∀ name, name ∈ usages.keys ↔ s.Sampled handles name
  measured : ∀ usages name u, result = .ok usages → usages.get? name = some u →
    ∃ pod key, (s.podsOf name).getLast? = some pod ∧ b.Holds name key ∧
      Measured now pod (b.sandbox key) u

theorem reported (b : Books) (s : Summary) (handles : List String) (now : Timestamp) :
    Reported b s handles now (b.usages (.ok (s.samples handles now))) := by
  obtain ⟨t, result, keys, figures⟩ | ⟨name, sampled, absent, result⟩ :=
    b.usages_cases (s.samples handles now)
  · rw [result]
    constructor
    case ok_iff =>
      refine ⟨fun _ name sampled => ?_, fun _ => ⟨t, rfl⟩⟩
      have present := (keys name).2 (Summary.samples_ne_none_iff.2 sampled)
      obtain ⟨u, found⟩ := Option.ne_none_iff_exists'.1 present
      obtain ⟨x, key, -, held, -⟩ := figures name u found
      exact ⟨key, held⟩
    case refused =>
      intro reason failed
      cases failed
    case entries =>
      intro usages same
      cases same
      refine ⟨t.nodup_keys, fun name => ?_⟩
      rw [Table.mem_keys, keys name, Summary.samples_ne_none_iff]
    case measured =>
      intro usages name u same found
      cases same
      obtain ⟨x, key, sample, held, rfl⟩ := figures name u found
      obtain ⟨-, pod, last, given⟩ := Summary.get?_samples_eq_some_iff.1 sample
      exact ⟨pod, key, last, held, measured_usageOf given (b.sandbox key)⟩
  · have asked : s.Sampled handles name := Summary.samples_ne_none_iff.1 sampled
    rw [result]
    constructor
    case ok_iff =>
      constructor
      · intro impossible
        obtain ⟨usages, impossible⟩ := impossible
        cases impossible
      · intro all
        obtain ⟨key, held⟩ := all name asked
        exact (absent key held).elim
    case refused =>
      intro reason same
      exact ⟨name, asked, absent, (Except.error.inj same).symm⟩
    case entries =>
      intro usages impossible
      cases impossible
    case measured =>
      intro usages name u impossible
      cases impossible

/-! ## The measuring session -/

/-- What an event tells of the summary, with the time at which it came. -/
def SessionEvent.told? : SessionEvent → Option (Except TelemetryError Summary × Timestamp)
  | .answered (.summary reply) time => some (reply, time)
  | _ => none

namespace Session
variable {b : Books} {handles : List String}

/-- The end of a session that got a report. -/
def conclude : Except LifecycleError (Table Usage) → Session
  | .ok usages => printJson (Json.ofTable Usage.toJson usages)
  | .error e => fail e

/-- The session after events, each with the time of the clock at which it came. -/
def run (session : Session) (events : List (Instant × SessionEvent)) : Session :=
  events.foldl (fun session e => session.resume e.1 e.2) session

theorem resume_measuring (b : Books) (handles : List String) (now : Instant)
    (event : SessionEvent) : resume now event (.measuring b handles) =
      match event.told? with
      | none => .measuring b handles
      | some (reply, time) => conclude (b.usages (reply.map (·.samples handles time))) := by
  cases event with
  | answered answer time =>
      cases answer with
      | summary reply =>
          simp only [resume, SessionEvent.told?]
          split
          · next usages result => rw [result, conclude]
          · next e result => rw [result, conclude]
      | client answer => rfl
      | serving serving => rfl
  | woke => rfl
  | expired => rfl

theorem run_finished (result : Except String String) (events : List (Instant × SessionEvent)) :
    run (.finished result) events = .finished result := by
  induction events with
  | nil => rfl
  | cons e rest ih => exact ih

theorem run_conclude (result : Except LifecycleError (Table Usage))
    (events : List (Instant × SessionEvent)) : run (conclude result) events = conclude result := by
  cases result with
  | ok usages => exact run_finished _ events
  | error e => exact run_finished _ events

/-- The books stay as they are, and the first reply about the summary settles the result. -/
theorem run_measuring (b : Books) (handles : List String)
    (events : List (Instant × SessionEvent)) : run (.measuring b handles) events =
      match events.findSome? (fun e => e.2.told?) with
      | none => .measuring b handles
      | some (reply, time) => conclude (b.usages (reply.map (·.samples handles time))) := by
  induction events with
  | nil => rfl
  | cons e rest ih =>
      have step := resume_measuring b handles e.1 e.2
      change run (resume e.1 e.2 (.measuring b handles)) rest = _
      rw [step, List.findSome?_cons]
      cases e.2.told? with
      | none => exact ih
      | some told => exact run_conclude _ rest

/-- A report for a summary is all that was asked for, whichever way it was asked, and the session
that makes it works on unchanged books. -/
theorem report_of_summary (b : Books) (s : Summary) (handles : List String) (now : Timestamp) :
    Reported b s handles now (b.usages (.ok (s.samples handles now))) ∧
    (∀ others, (∀ name, name ∈ handles ↔ name ∈ others) →
      b.usages (.ok (s.samples others now)) = b.usages (.ok (s.samples handles now))) ∧
    ∀ events, run (.measuring b handles) events =
      match events.findSome? (fun e => e.2.told?) with
      | none => .measuring b handles
      | some (reply, time) => conclude (b.usages (reply.map (·.samples handles time))) := by
  refine ⟨reported b s handles now, ?_, run_measuring b handles⟩
  intro others same
  rw [Summary.samples_congr same]

end Session
end SandboxPods
