import SandboxPods.Proofs.Client.Interleaving

/-!
# What one call asks and is told

Calls run side by side, but what concerns one of them can be read off its own
questions and its own news. A move of another call leaves both as they are, and a
move of its own adds one piece of news and the question that the call arrives at.
-/
namespace SandboxPods.Interleaving
variable {client : Client} {s : Interleaving} {m : Move} {n i : Nat} {r : Books × Call}

/-- What a log has at a position, in order. -/
def entriesOf {α : Type} (n : Nat) (log : List (Nat × α)) : List α :=
  log.filterMap fun e => if e.1 = n then some e.2 else none

theorem mem_entriesOf {α : Type} {log : List (Nat × α)} {a : α} :
    a ∈ entriesOf n log ↔ (n, a) ∈ log := by
  unfold entriesOf
  rw [List.mem_filterMap]
  constructor
  · rintro ⟨⟨j, b⟩, member, picked⟩
    by_cases same : j = n
    · rw [if_pos same] at picked
      cases picked
      exact same ▸ member
    · rw [if_neg same] at picked
      cases picked
  · exact fun member => ⟨_, member, if_pos rfl⟩

theorem entriesOf_append {α : Type} (n : Nat) (a b : List (Nat × α)) :
    entriesOf n (a ++ b) = entriesOf n a ++ entriesOf n b := List.filterMap_append

theorem entriesOf_eq_nil {α : Type} {log : List (Nat × α)} (others : ∀ e ∈ log, e.1 ≠ n) :
    entriesOf n log = [] := by
  rw [entriesOf, List.filterMap_eq_nil_iff]
  exact fun e member => if_neg (others e member)

/-- The questions of the call at a position. -/
def questions (s : Interleaving) (n : Nat) : List Ask := entriesOf n s.asked

/-- What the call at a position was told. -/
def news (s : Interleaving) (n : Nat) : List Event := entriesOf n s.told

theorem entriesOf_question (client : Client) (n : Nat) (r : Books × Call) :
    entriesOf n (question client n r) = (r.2.awaiting client r.1).ask?.toList := by
  unfold question
  cases (r.2.awaiting client r.1).ask? with
  | none => rfl
  | some ask => exact List.filterMap_cons_some (if_pos rfl)

theorem entriesOf_question_ne (client : Client) (r : Books × Call) (other : i ≠ n) :
    entriesOf n (question client i r) = [] := by
  apply entriesOf_eq_nil
  intro e member
  rw [(mem_question member).1]
  exact other

/-- How the call at a position stands: its state, its questions and its news. -/
structure Stands (s : Interleaving) (n : Nat) (call : Call) (asked : List Ask)
    (told : List Event) : Prop where
  found : s.calls[n]? = some call
  asked : s.questions n = asked
  told : s.news n = told

theorem Stands.begun {client : Client} (logged : s.Logged) (r : Books × Call) :
    (s.begun client r).Stands s.calls.length r.2 (r.2.awaiting client r.1).ask?.toList [] := by
  have placed : Placed client s (s.begun client r) s.calls.length r := placed_begun r
  refine ⟨placed.here, ?_, ?_⟩
  · have before : entriesOf s.calls.length s.asked = [] :=
      entriesOf_eq_nil fun e member => (logged.asked e member).ne
    unfold questions Interleaving.begun
    rw [entriesOf_append, before, entriesOf_question, List.nil_append]
  · exact entriesOf_eq_nil fun e member => (logged.told e member).ne

/-- A move of another call changes nothing of that. -/
theorem Stands.elsewhere {call : Call} {asked : List Ask} {told : List Event}
    (h : s.Stands n call asked told) (admitted : s.Admits client m)
    (other : ∀ now event, m ≠ .event n now event) :
    (s.step client m).Stands n call asked told := by
  have lt := (List.getElem?_eq_some_iff.1 h.found).1
  obtain ⟨found, rfl, rfl⟩ := h
  have begins (r : Books × Call) : (s.begun client r).Stands n call (s.questions n) (s.news n) := by
    have placed : Placed client s (s.begun client r) s.calls.length r := placed_begun r
    refine ⟨?_, ?_, rfl⟩
    · rw [placed.elsewhere n lt.ne]
      exact found
    · unfold questions Interleaving.begun
      rw [entriesOf_append, entriesOf_question_ne client r lt.ne', List.append_nil]
  cases m with
  | create spec deadline => exact begins _
  | destroy handle deadline => exact begins _
  | event i now event =>
      have hi : i ≠ n := fun same => other now event (same ▸ rfl)
      obtain ⟨call', found', -⟩ := admitted
      simp only [step, found']
      refine ⟨?_, ?_, ?_⟩
      · exact ((placed_advanced found' event _).elsewhere n (Ne.symm hi)).trans found
      · unfold questions advanced
        rw [entriesOf_append, entriesOf_question_ne client _ hi, List.append_nil]
      · have others : entriesOf n [(i, event)] = [] := by
          apply entriesOf_eq_nil
          intro e member
          rw [List.mem_singleton.1 member]
          exact hi
        unfold news advanced
        rw [entriesOf_append, others, List.append_nil]

/-- Its own move takes the call to its next wait. -/
theorem Stands.advanced {call : Call} {asked : List Ask} {told : List Event} {now : Instant}
    {event : Event} (h : s.Stands n call asked told)
    (moved : call.resume client now s.books event = r) :
    (s.step client (.event n now event)).Stands n r.2
        (asked ++ (r.2.awaiting client r.1).ask?.toList) (told ++ [event]) ∧
      (s.step client (.event n now event)).books = r.1 := by
  obtain ⟨found, rfl, rfl⟩ := h
  simp only [step, found, moved]
  refine ⟨⟨(placed_advanced found event r).here, ?_, ?_⟩, rfl⟩
  · unfold questions Interleaving.advanced
    rw [entriesOf_append, entriesOf_question]
  · unfold news Interleaving.advanced
    rw [entriesOf_append]
    exact congrArg (_ ++ ·) (List.filterMap_cons_some (if_pos rfl))

end SandboxPods.Interleaving
