import Mathlib.Logic.Function.Iterate
import SandboxPods.Proofs.Client.Interleaving

/-!
# A call alone on a clock

One call runs by itself against collaborators that answer each question after a
while. Every wait ends at an exact time: an answer when it is there, a pause when it
is over, a deadline when it passes first. What the call waits for comes before the
deadline at the same instant, and so does what is there at once when the deadline is
already past.

The second half is about calls that read a pod at an interval until an answer
decides them. Such a call reads at the start and then once for each whole interval
that fits in before the deadline, and no more.
-/
namespace SandboxPods

/-- Collaborators answer each question, counted from the first, after a while. -/
structure Partner where
  delay : Nat → Ask → Nat
  answer : Nat → Ask → Answer
  suits : ∀ (k : Nat) (ask : Ask), ask.admits (answer k ask) = true

/-- What ends a wait comes from the collaborators, as far as it is an answer. -/
def Partner.Tells (partner : Partner) (event : Event) : Prop :=
  ∀ answer, event = .answered answer → ∃ k ask, answer = partner.answer k ask

/-- Collaborators that do what they are asked and show one pod. They take their time over images
and deletions. -/
def Partner.showing (pod : Pod) (slow : Nat) : Partner where
  delay
    | _, .pull .. | _, .cluster (.deletePod ..) => slow
    | _, _ => 0
  answer
    | _, .cluster (.getNode _) => .node (.ok {})
    | _, .cluster (.listPods ..) => .pods (.ok [])
    | _, .cluster (.getPod ..) | _, .cluster (.createPod _) => .pod (.ok pod)
    | _, .cluster (.deletePod ..) => .deleted (.ok ())
    | _, .pull .. => .pulled (.ok { name := "image", id := ⟨"image"⟩, size := 5, env := [] })
    | _, .deleteImage _ => .imageDeleted (.ok ())
    | _, .loadTasks _ => .tasks (.ok {})
  suits := by
    intro k ask
    cases ask with
    | cluster call => cases call <;> rfl
    | _ => rfl

structure Solo where
  now : Instant
  books : Books
  call : Call
  /-- Every question that has come to an end, with the time at which it was asked. -/
  log : List (Instant × Ask)

namespace Solo
variable {client : Client} {partner : Partner} {s t u : Solo}

/-- An event takes the call to its next wait. -/
def told (client : Client) (s : Solo) (now : Instant) (event : Event)
    (log : List (Instant × Ask)) : Solo :=
  let r := s.call.resume client now s.books event
  { now, books := r.1, call := r.2, log }

theorem told_eq {now : Instant} {event : Event} {log : List (Instant × Ask)} {books : Books}
    {call : Call} (h : s.call.resume client now s.books event = (books, call)) :
    s.told client now event log = ⟨now, books, call, log⟩ := by
  rw [told, h]

/-- The wait that the call is in comes to its end. -/
def tick (client : Client) (partner : Partner) (s : Solo) : Solo :=
  match s.call.awaiting client s.books with
  | .nothing => s
  | .answer ask limit =>
    let due := s.now + partner.delay s.log.length ask
    let log := s.log ++ [(s.now, ask)]
    let reply := Event.answered (partner.answer s.log.length ask)
    match limit with
    | none => s.told client due reply log
    | some limit =>
      if due ≤ max limit s.now then s.told client due reply log
      else s.told client (max limit s.now) .expired log
  | .pause wake limit =>
    if wake ≤ max limit s.now then s.told client wake .woke s.log
    else s.told client (max limit s.now) .expired s.log

/-- The one state is the other after some waits. -/
def Runs (client : Client) (partner : Partner) (s t : Solo) : Prop :=
  ∃ n, (tick client partner)^[n] s = t

/-- The call comes to its end in the state. -/
structure Ends (client : Client) (partner : Partner) (s e : Solo) : Prop where
  runs : Runs client partner s e
  returned : e.call.isReturned = true

theorem Runs.refl (s : Solo) : Runs client partner s s := ⟨0, rfl⟩

theorem Runs.trans (h : Runs client partner s t) (k : Runs client partner t u) :
    Runs client partner s u := by
  obtain ⟨m, rfl⟩ := h
  obtain ⟨n, rfl⟩ := k
  exact ⟨n + m, Function.iterate_add_apply _ n m s⟩

theorem Runs.one (h : tick client partner s = t) : Runs client partner s t := ⟨1, h⟩

/-- What holds at the start and is kept by every wait holds in the end. -/
theorem Runs.invariant {P : Solo → Prop} (h : Runs client partner s t) (start : P s)
    (keeps : ∀ s, P s → P (tick client partner s)) : P t := by
  obtain ⟨n, rfl⟩ := h
  induction n with
  | zero => exact start
  | succ n ih =>
      rw [Function.iterate_succ_apply']
      exact keeps _ ih

theorem tick_returned (h : s.call.isReturned = true) : tick client partner s = s := by
  have halted : s.call.awaiting client s.books = .nothing := by
    obtain ⟨now, books, call, log⟩ := s
    cases call with
    | create call =>
        obtain ⟨spec, deadline, stage⟩ := call
        cases stage with
        | finished result => rfl
        | _ => cases h
    | destroy call =>
        obtain ⟨handle, deadline, stage⟩ := call
        cases stage with
        | finished result => rfl
        | _ => cases h
  rw [tick, halted]

/-- A call ends in one way only. -/
theorem Ends.unique (h : Ends client partner s t) (k : Ends client partner s u) : t = u := by
  obtain ⟨⟨m, hm⟩, ht⟩ := h
  obtain ⟨⟨n, hn⟩, hu⟩ := k
  have stays {e : Solo} (returned : e.call.isReturned = true) (i : Nat) :
      (tick client partner)^[i] e = e := Function.iterate_fixed (tick_returned returned) i
  rcases Nat.le_total m n with le | le
  · have split := Function.iterate_add_apply (tick client partner) (n - m) m s
    rw [Nat.sub_add_cancel le, hn, hm, stays ht] at split
    exact split.symm
  · have split := Function.iterate_add_apply (tick client partner) (m - n) n s
    rw [Nat.sub_add_cancel le, hn, hm, stays hu] at split
    exact split

/-- The question that the call waits for, with the time at which it was asked. -/
def asking (client : Client) (s : Solo) : List (Instant × Ask) :=
  ((s.call.awaiting client s.books).ask?.map (s.now, ·)).toList

theorem ask?_of_mem_asking {q : Instant × Ask} (h : q ∈ s.asking client) :
    (s.call.awaiting client s.books).ask? = some q.2 := by
  unfold asking at h
  cases asks : (s.call.awaiting client s.books).ask? with
  | none =>
      rw [asks] at h
      cases h
  | some ask =>
      rw [asks] at h
      cases List.mem_singleton.1 h
      rfl

/-- A wait ends with an event that the call waits for, and its question is noted. -/
theorem exists_event (partner : Partner) (busy : s.call.awaiting client s.books ≠ .nothing) :
    ∃ now event, tick client partner s = s.told client now event (s.log ++ s.asking client) ∧
      (s.call.awaiting client s.books).admits now event = true ∧ partner.Tells event := by
  cases waits : s.call.awaiting client s.books with
  | nothing => exact (busy waits).elim
  | answer ask limit =>
      have suits := partner.suits s.log.length ask
      have noted : s.asking client = [(s.now, ask)] := by
        rw [asking, waits]
        rfl
      have replied : partner.Tells (.answered (partner.answer s.log.length ask)) := by
        rintro answer ⟨⟩
        exact ⟨_, _, rfl⟩
      rw [noted]
      cases limit with
      | none =>
          refine ⟨s.now + partner.delay s.log.length ask,
            .answered (partner.answer s.log.length ask), ?_, suits, replied⟩
          simp only [tick, waits]
      | some limit =>
          by_cases early : s.now + partner.delay s.log.length ask ≤ max limit s.now
          · refine ⟨s.now + partner.delay s.log.length ask,
              .answered (partner.answer s.log.length ask), ?_, suits, replied⟩
            simp only [tick, waits, early, if_true]
          · refine ⟨max limit s.now, .expired, ?_, ?_, fun _ none => nomatch none⟩
            · simp only [tick, waits, early, if_false]
            · exact decide_eq_true (Nat.le_max_left limit s.now)
  | pause wake limit =>
      have unasked : s.asking client = [] := by
        rw [asking, waits]
        rfl
      rw [unasked, List.append_nil]
      by_cases early : wake ≤ max limit s.now
      · refine ⟨wake, .woke, ?_, decide_eq_true (Nat.le_refl wake), fun _ none => nomatch none⟩
        simp only [tick, waits, early, if_true]
      · refine ⟨max limit s.now, .expired, ?_, ?_, fun _ none => nomatch none⟩
        · simp only [tick, waits, early, if_false]
        · have past : max limit s.now < wake := Nat.lt_of_not_le early
          simp only [Awaiting.admits, Bool.and_eq_true, decide_eq_true_eq]
          exact ⟨Nat.le_max_left limit s.now, past⟩

end Solo

/-! ## Reading at an interval -/

/-- A call that reads again after a pause as long as no answer decides it. -/
structure Polling (client : Client) (ask : Ask) (limit : Instant) where
  reading : Call
  pausing : Instant → Call
  Undecided : Answer → Prop
  /-- What an answer that does not decide changes in the books. -/
  note : Answer → Books → Books
  asks : ∀ books, reading.awaiting client books = .answer ask (some limit)
  pauses : ∀ books wake, (pausing wake).awaiting client books = .pause wake limit
  goesOn : ∀ now books answer, Undecided answer →
    reading.resume client now books (.answered answer) =
      (note answer books, pausing (now + client.settings.pollInterval))
  wakes : ∀ now books wake, (pausing wake).resume client now books .woke = (books, reading)

namespace Polling
open Solo

/-- How often a pod is read that was first read at a time. -/
def rounds (interval limit first : Nat) : Nat := (limit - first) / interval + 1

/-- The readings with their times. -/
def readings (ask : Ask) (interval first n : Nat) : List (Instant × Ask) :=
  (List.range n).map fun k => (first + k * interval, ask)

/-- Something holds of all numbers below a bound, or there is a first one of which it fails. -/
theorem all_or_first (P : Nat → Prop) (n : Nat) :
    (∀ k < n, P k) ∨ ∃ k < n, (∀ i < k, P i) ∧ ¬ P k := by
  by_cases all : ∀ k < n, P k
  · exact .inl all
  · classical
    right
    push Not at all
    obtain ⟨left, fails⟩ := Nat.find_spec all
    refine ⟨Nat.find all, left, ?_, fails⟩
    intro i earlier
    by_contra fails
    exact Nat.find_min all earlier ⟨Nat.lt_trans earlier left, fails⟩

theorem first_unique {P : Nat → Prop} {k l : Nat} (before : ∀ i < k, P i) (here : ¬ P k)
    (before' : ∀ i < l, P i) (here' : ¬ P l) : k = l := by
  rcases Nat.lt_trichotomy k l with lt | eq | gt
  · exact (here (before' k lt)).elim
  · exact eq
  · exact (here' (before l gt)).elim

variable {client : Client} {partner : Partner} {ask : Ask} {interval limit first k : Nat}

theorem length_readings (ask : Ask) (interval first n : Nat) :
    (readings ask interval first n).length = n := by
  simp [readings]

theorem readings_succ (ask : Ask) (interval first n : Nat) :
    readings ask interval first (n + 1) =
      readings ask interval first n ++ [(first + n * interval, ask)] := by
  simp [readings, List.range_succ]

/-- A pause after a reading is over in time if another round is left. -/
theorem wake_le_iff (limit first : Nat) (positive : 0 < interval) :
    first + k * interval + interval ≤ max limit (first + k * interval) ↔
      k + 1 < rounds interval limit first := by
  have next : first + k * interval + interval = first + (k + 1) * interval := by
    rw [Nat.succ_mul, Nat.add_assoc]
  have fits : k + 1 < rounds interval limit first ↔ (k + 1) * interval ≤ limit - first := by
    rw [rounds, Nat.lt_succ_iff, Nat.le_div_iff_mul_le positive]
  have some_time : 0 < (k + 1) * interval := Nat.mul_pos (Nat.succ_pos k) positive
  rw [fits, next]
  constructor
  · intro le
    rcases Nat.le_total limit (first + k * interval) with past | ahead
    · rw [Nat.max_eq_right past] at le
      omega
    · rw [Nat.max_eq_left ahead] at le
      omega
  · intro le
    apply Nat.le_trans _ (Nat.le_max_left ..)
    omega

/-- The last reading does not move the end of the wait. -/
theorem max_last (interval limit first : Nat) :
    max limit (first + (rounds interval limit first - 1) * interval) = max limit first := by
  have within : (limit - first) / interval * interval ≤ limit - first := Nat.div_mul_le_self ..
  rw [rounds, Nat.add_sub_cancel]
  omega

variable (loop : Polling client ask limit) (partner) (books : Books) (past : List (Instant × Ask))

/-- The answer to a reading. -/
def reply (partner : Partner) (ask : Ask) (past : List (Instant × Ask)) (k : Nat) : Answer :=
  partner.answer (past.length + k) ask

/-- The books after some readings that decided nothing. -/
def booksAfter : Nat → Books
  | 0 => books
  | k + 1 => loop.note (reply partner ask past k) (booksAfter k)

/-- The call is about to read for another time. -/
def before (first k : Nat) : Solo where
  now := first + k * client.settings.pollInterval
  books := loop.booksAfter partner books past k
  call := loop.reading
  log := past ++ readings ask client.settings.pollInterval first k

variable {loop partner books past}

theorem before_zero :
    loop.before partner books past first 0 = ⟨first, books, loop.reading, past⟩ := by
  simp [before, booksAfter, readings]

theorem length_log : (loop.before partner books past first k).log.length = past.length + k := by
  simp only [before, List.length_append, length_readings]

/-- A reading is answered at once, whatever the deadline. -/
theorem tick_before (prompt : ∀ k, partner.delay k ask = 0) :
    tick client partner (loop.before partner books past first k) =
      (loop.before partner books past first k).told client
        (first + k * client.settings.pollInterval) (.answered (reply partner ask past k))
        (past ++ readings ask client.settings.pollInterval first (k + 1)) := by
  have waits : (loop.before partner books past first k).call.awaiting client
      (loop.before partner books past first k).books = .answer ask (some limit) := loop.asks _
  have asked : (loop.before partner books past first k).log ++
      [((loop.before partner books past first k).now, ask)] =
        past ++ readings ask client.settings.pollInterval first (k + 1) := by
    rw [readings_succ, ← List.append_assoc]
    rfl
  simp only [tick, waits, prompt, length_log, asked, Nat.add_zero]
  rw [if_pos (Nat.le_max_right ..)]
  rfl

/-- After a reading that decided nothing the call pauses. -/
theorem runs_pause (prompt : ∀ k, partner.delay k ask = 0)
    (undecided : loop.Undecided (reply partner ask past k)) :
    Runs client partner (loop.before partner books past first k)
      ⟨first + k * client.settings.pollInterval, loop.booksAfter partner books past (k + 1),
        loop.pausing (first + k * client.settings.pollInterval + client.settings.pollInterval),
        past ++ readings ask client.settings.pollInterval first (k + 1)⟩ := by
  apply Runs.one
  rw [tick_before prompt, told]
  have on := loop.goesOn (first + k * client.settings.pollInterval)
    (loop.booksAfter partner books past k) _ undecided
  simp only [before]
  rw [on]
  rfl

variable (positive : 0 < client.settings.pollInterval) (prompt : ∀ k, partner.delay k ask = 0)

include positive prompt

/-- As long as no answer decides, the call reads once in every round. -/
theorem runs_before (left : k < rounds client.settings.pollInterval limit first)
    (undecided : ∀ i < k, loop.Undecided (reply partner ask past i)) :
    Runs client partner ⟨first, books, loop.reading, past⟩
      (loop.before partner books past first k) := by
  induction k with
  | zero =>
      rw [before_zero]
      exact .refl _
  | succ k ih =>
      have sofar := ih (by omega) fun i hi => undecided i (by omega)
      refine (sofar.trans (runs_pause prompt (undecided k (by omega)))).trans (.one ?_)
      have due := (wake_le_iff limit first positive).2 left
      simp only [tick, loop.pauses, due, if_true, told, loop.wakes]
      simp only [before, Nat.succ_mul, Nat.add_assoc]

/-- The first answer that decides is the last one. -/
theorem runs_decided (left : k < rounds client.settings.pollInterval limit first)
    (undecided : ∀ i < k, loop.Undecided (reply partner ask past i)) :
    Runs client partner ⟨first, books, loop.reading, past⟩
      ((loop.before partner books past first k).told client
        (first + k * client.settings.pollInterval) (.answered (reply partner ask past k))
        (past ++ readings ask client.settings.pollInterval first (k + 1))) :=
  (runs_before positive prompt left undecided).trans (.one (tick_before prompt))

/-- When no answer decides, the deadline ends the wait after the last round. -/
theorem runs_expired
    (undecided : ∀ i < rounds client.settings.pollInterval limit first,
      loop.Undecided (reply partner ask past i)) :
    let n := rounds client.settings.pollInterval limit first
    Runs client partner ⟨first, books, loop.reading, past⟩
      (Solo.told client ⟨first, loop.booksAfter partner books past n,
          loop.pausing (first + n * client.settings.pollInterval), past⟩
        (max limit first) .expired
        (past ++ readings ask client.settings.pollInterval first n)) := by
  obtain ⟨last, hlast⟩ : ∃ last, rounds client.settings.pollInterval limit first = last + 1 :=
    ⟨_, rfl⟩
  have reads : Runs client partner ⟨first, books, loop.reading, past⟩
      (loop.before partner books past first last) :=
    runs_before positive prompt (by omega) fun i hi => undecided i (by omega)
  have ending := max_last client.settings.pollInterval limit first
  rw [hlast, Nat.add_sub_cancel] at ending
  have late : ¬ first + last * client.settings.pollInterval + client.settings.pollInterval ≤
      max limit first := by
    rw [← ending, wake_le_iff limit first positive, hlast]
    exact Nat.lt_irrefl _
  simp only [hlast, Nat.succ_mul, ← Nat.add_assoc]
  refine (reads.trans (runs_pause prompt (undecided last (by omega)))).trans (.one ?_)
  simp only [tick, loop.pauses, ending, late, if_false, told]

end Polling
end SandboxPods
