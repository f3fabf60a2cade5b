import Mathlib.Data.List.Chain
import SandboxPods.Handle
import SandboxPods.Text.Split

/-!
# Handles and the names of pods

The cluster takes a subdomain as the name of a pod: labels with full stops between them, each of
letters, digits and hyphens and with a letter or a digit at both its ends. The check of a handle
looks at all characters, but at the two ends of the whole text only, which are those of the first
and the last label. So every subdomain is good as a handle, and a handle is a subdomain just when
no full stop in it stands beside another one or beside a hyphen.
-/
namespace SandboxPods.Handle
open Text

/-- A letter or a digit stands at both ends; in particular the text is not empty. -/
structure HasWordEnds (cs : List Char) : Prop where
  first : cs.head?.any isWord = true
  last : cs.getLast?.any isWord = true

structure IsLabel (cs : List Char) : Prop where
  ends : HasWordEnds cs
  inside : ∀ c ∈ cs, isWord c = true ∨ c = '-'

/-- One or more labels with full stops between them. -/
inductive AreLabels : List Char → Prop
  | one {label : List Char} : IsLabel label → AreLabels label
  | more {label rest : List Char} :
      IsLabel label → AreLabels rest → AreLabels (label ++ '.' :: rest)

/-- The texts that the cluster takes for names of pods. -/
structure IsSubdomain (s : String) : Prop where
  labels : AreLabels s.toList
  short : s.length ≤ 253

/-- The text passes the check of handles. -/
def IsAccepted (s : String) : Prop := ∃ handle, ofString s = .ok handle

/-- What stands beside a full stop is a letter or a digit. -/
def StopsInside (cs : List Char) : Prop :=
  cs.IsChain fun a b => (a = '.' → isWord b = true) ∧ (b = '.' → isWord a = true)

instance (cs : List Char) : Decidable (StopsInside cs) :=
  inferInstanceAs (Decidable (cs.IsChain _))

variable {s : String} {cs a b : List Char} {c : Char}

/-! ## Characters -/

theorem isAllowed_iff : isAllowed c = true ↔ isWord c = true ∨ c = '-' ∨ c = '.' := by
  simp [isAllowed, or_assoc]

theorem utf8Size_of_isAllowed (h : isAllowed c = true) : c.utf8Size = 1 := by
  rw [Char.utf8Size_eq_one_iff]
  rcases isAllowed_iff.1 h with word | rfl | rfl
  · simp only [isWord, Bool.or_eq_true, Bool.and_eq_true, decide_eq_true_eq] at word
    rcases word with ⟨-, below⟩ | ⟨-, below⟩
    · exact UInt32.le_trans below (by decide)
    · exact UInt32.le_trans below (by decide)
  · decide
  · decide

/-- A text of allowed characters has as many bytes as characters. -/
theorem utf8ByteSize_eq_length (h : ∀ c ∈ s.toList, isAllowed c = true) :
    s.utf8ByteSize = s.length := by
  have general (cs : List Char) (allowed : ∀ c ∈ cs, isAllowed c = true) :
      (String.ofList cs).utf8ByteSize = cs.length := by
    induction cs with
    | nil => rfl
    | cons c cs ih =>
        obtain ⟨here, rest⟩ := List.forall_mem_cons.1 allowed
        have split : String.ofList (c :: cs) = String.singleton c ++ String.ofList cs := by
          rw [String.singleton_eq_ofList, ← String.ofList_append]
          rfl
        rw [split, String.utf8ByteSize_append, String.utf8ByteSize_singleton, ih rest,
          utf8Size_of_isAllowed here, List.length_cons, Nat.add_comm]
  rw [← String.length_toList, ← general s.toList h, String.ofList_toList]

/-! ## What the check asks for -/

theorem HasWordEnds.ne_nil (h : HasWordEnds cs) : cs ≠ [] := by
  intro empty
  subst empty
  cases h.first

theorem fault?_eq_none_iff : fault? s = none ↔
    s.length ≤ 253 ∧ (∀ c ∈ s.toList, isAllowed c = true) ∧ HasWordEnds s.toList := by
  unfold fault?
  constructor
  · intro sound
    split at sound
    · cases sound
    · split at sound
      · cases sound
      · rename_i short
        split at sound
        · cases sound
        · rename_i allowed
          have allowed : ∀ c ∈ s.toList, isAllowed c = true := by simpa using allowed
          split at sound
          · rename_i ends
            obtain ⟨first, last⟩ := Bool.and_eq_true_iff.1 ends
            rw [utf8ByteSize_eq_length allowed] at short
            exact ⟨Nat.le_of_not_lt short, allowed, first, last⟩
          · cases sound
  · intro sound
    obtain ⟨short, allowed, ends⟩ := sound
    have given : ¬ s.isEmpty = true := by
      rw [String.isEmpty_iff]
      intro empty
      exact ends.ne_nil (by rw [empty]; rfl)
    have small : ¬ maxBytes < s.utf8ByteSize := by
      rw [utf8ByteSize_eq_length allowed]
      exact Nat.not_lt_of_le short
    have plain : s.toList.find? (fun c => !isAllowed c) = none := by simpa using allowed
    simp [given, small, plain, ends.first, ends.last]

theorem isAccepted_iff : IsAccepted s ↔ fault? s = none := by
  unfold IsAccepted ofString
  constructor
  · intro accepted
    obtain ⟨handle, ok⟩ := accepted
    split at ok
    · next sound => exact sound
    · cases ok
  · intro sound
    split
    · exact ⟨_, rfl⟩
    · next fault found =>
      rw [sound] at found
      cases found

instance (s : String) : Decidable (IsAccepted s) := decidable_of_iff _ isAccepted_iff.symm

/-! ## Labels and full stops -/

theorem not_isWord_stop : isWord '.' = false := by decide

theorem ne_stop_of_isWord (h : isWord c = true) : c ≠ '.' := by
  intro stop
  rw [stop, not_isWord_stop] at h
  cases h

theorem IsLabel.no_stop (h : IsLabel cs) : '.' ∉ cs := by
  intro mem
  rcases h.inside _ mem with word | hyphen
  · exact ne_stop_of_isWord word rfl
  · cases hyphen

theorem IsLabel.allowed (h : IsLabel cs) : ∀ c ∈ cs, isAllowed c = true :=
  fun c mem => isAllowed_iff.2 ((h.inside c mem).imp_right .inl)

theorem stopsInside_of_no_stop (h : '.' ∉ cs) : StopsInside cs := by
  rw [StopsInside, List.isChain_iff_forall_rel_of_append_cons_cons]
  intro a b before after same
  subst same
  exact ⟨fun stop => (h (by simp [stop])).elim, fun stop => (h (by simp [stop])).elim⟩

/-- Without a full stop, the check of a handle is that of a label. -/
theorem inside_of_no_stop (allowed : ∀ c ∈ cs, isAllowed c = true) (h : '.' ∉ cs) :
    ∀ c ∈ cs, isWord c = true ∨ c = '-' := by
  intro c mem
  rcases isAllowed_iff.1 (allowed c mem) with word | hyphen | rfl
  · exact .inl word
  · exact .inr hyphen
  · exact (h mem).elim

theorem hasWordEnds_append : HasWordEnds (a ++ '.' :: b) ↔
    a.head?.any isWord = true ∧ b.getLast?.any isWord = true := by
  have first : (a ++ '.' :: b).head?.any isWord = a.head?.any isWord := by
    cases a with
    | nil => exact not_isWord_stop
    | cons c a => rfl
  have last : (a ++ '.' :: b).getLast?.any isWord = b.getLast?.any isWord := by
    rcases List.eq_nil_or_concat' b with rfl | ⟨b, c, rfl⟩
    · simp [not_isWord_stop]
    · rw [← List.cons_append, ← List.append_assoc, List.getLast?_concat, List.getLast?_concat]
  constructor
  · intro ends
    exact ⟨first ▸ ends.first, last ▸ ends.last⟩
  · intro outer
    exact ⟨first.trans outer.1, last.trans outer.2⟩

/-- A full stop asks for a letter or a digit at the inner ends of the parts beside it. -/
theorem stopsInside_append (ha : a ≠ []) (hb : b ≠ []) : StopsInside (a ++ '.' :: b) ↔
    StopsInside a ∧ StopsInside b ∧ a.getLast?.any isWord = true ∧ b.head?.any isWord = true := by
  obtain ⟨d, b, rfl⟩ := List.exists_cons_of_ne_nil hb
  obtain ⟨a, c, rfl⟩ := (List.eq_nil_or_concat' a).resolve_left ha
  unfold StopsInside
  rw [List.isChain_append, List.isChain_cons_cons]
  simp only [List.getLast?_concat, List.head?_cons, Option.mem_some_iff, forall_eq',
    Option.any_some, forall_const]
  constructor
  · intro chain
    obtain ⟨before, ⟨⟨second, -⟩, after⟩, -, first⟩ := chain
    exact ⟨before, after, first, second⟩
  · intro parts
    obtain ⟨before, after, first, second⟩ := parts
    exact ⟨before, ⟨⟨second, fun stop => (ne_stop_of_isWord second stop).elim⟩, after⟩,
      fun stop => (ne_stop_of_isWord first stop).elim, first⟩

theorem areLabels_iff : AreLabels cs ↔
    (∀ c ∈ cs, isAllowed c = true) ∧ HasWordEnds cs ∧ StopsInside cs := by
  constructor
  · intro labels
    induction labels with
    | one label => exact ⟨label.allowed, label.ends, stopsInside_of_no_stop label.no_stop⟩
    | @more label rest isLabel _ ih =>
        obtain ⟨allowed, ends, stops⟩ := ih
        refine ⟨?_, hasWordEnds_append.2 ⟨isLabel.ends.first, ends.last⟩, ?_⟩
        · intro c mem
          rcases List.mem_append.1 mem with before | after
          · exact isLabel.allowed c before
          · rcases List.mem_cons.1 after with rfl | after
            · decide
            · exact allowed c after
        · exact (stopsInside_append isLabel.ends.ne_nil ends.ne_nil).2
            ⟨stopsInside_of_no_stop isLabel.no_stop, stops, isLabel.ends.last, ends.first⟩
  · intro sound
    obtain ⟨allowed, ends, stops⟩ := sound
    -- The induction is on the length, since what follows the first full stop is cut again.
    induction h : cs.length using Nat.strong_induction_on generalizing cs with
    | _ n ih =>
        cases found : splitFirst '.' cs with
        | none => exact .one ⟨ends, inside_of_no_stop allowed (splitFirst_eq_none_iff.1 found)⟩
        | some parts =>
            obtain ⟨label, rest⟩ := parts
            obtain ⟨rfl, no_stop⟩ := eq_of_splitFirst found
            obtain ⟨first, last⟩ := hasWordEnds_append.1 ends
            have hlabel : label ≠ [] := by
              intro empty
              subst empty
              cases first
            have hrest : rest ≠ [] := by
              intro empty
              subst empty
              cases last
            obtain ⟨-, stops, inner, outer⟩ := (stopsInside_append hlabel hrest).1 stops
            have inside := inside_of_no_stop (fun c mem => allowed c (by simp [mem])) no_stop
            have later : ∀ c ∈ rest, isAllowed c = true := fun c mem => allowed c (by simp [mem])
            refine .more ⟨⟨first, inner⟩, inside⟩ (ih rest.length ?_ later ⟨outer, last⟩ stops rfl)
            rw [← h, List.length_append, List.length_cons]
            omega

/-- A subdomain is good as a handle, and a handle is a subdomain where its full stops stand
apart. -/
theorem isSubdomain_iff : IsSubdomain s ↔ IsAccepted s ∧ StopsInside s.toList := by
  rw [isAccepted_iff, fault?_eq_none_iff]
  constructor
  · intro subdomain
    obtain ⟨allowed, ends, stops⟩ := areLabels_iff.1 subdomain.labels
    exact ⟨⟨subdomain.short, allowed, ends⟩, stops⟩
  · intro accepted
    obtain ⟨⟨short, allowed, ends⟩, stops⟩ := accepted
    exact ⟨areLabels_iff.2 ⟨allowed, ends, stops⟩, short⟩

end SandboxPods.Handle
