/-!
# Cutting text at a character

Each cut drops the separator. The laws say that nothing else is lost and where
the separator stood.
-/
namespace SandboxPods.Text

/-- What stands before and after the first `sep`; none when there is none. -/
def splitFirst (sep : Char) : List Char → Option (List Char × List Char)
  | [] => none
  | c :: rest =>
    if c = sep then some ([], rest)
    else (splitFirst sep rest).map (fun p => (c :: p.1, p.2))

/-- What stands before and after the last `sep`; none when there is none. -/
def splitLast (sep : Char) : List Char → Option (List Char × List Char)
  | [] => none
  | c :: rest =>
    match splitLast sep rest with
    | some p => some (c :: p.1, p.2)
    | none => if c = sep then some ([], rest) else none

/-- All the pieces between separators; a text without one is its only piece. -/
def splitAll (sep : Char) : List Char → List (List Char)
  | [] => [[]]
  | c :: rest =>
    if c = sep then [] :: splitAll sep rest
    else match splitAll sep rest with
      | [] => [[c]]
      | piece :: pieces => (c :: piece) :: pieces

/-- Pieces joined by a separator. -/
def joinWith (sep : Char) : List (List Char) → List Char
  | [] => []
  | [piece] => piece
  | piece :: pieces => piece ++ sep :: joinWith sep pieces

theorem splitFirst_eq_none_iff {sep : Char} {cs : List Char} :
    splitFirst sep cs = none ↔ sep ∉ cs := by
  induction cs with
  | nil => simp [splitFirst]
  | cons c rest ih =>
    by_cases h : c = sep
    · simp [splitFirst, h]
    · simp [splitFirst, h, ih, Ne.symm h]

theorem splitFirst_append {sep : Char} {a : List Char} (b : List Char) (h : sep ∉ a) :
    splitFirst sep (a ++ sep :: b) = some (a, b) := by
  induction a with
  | nil => simp [splitFirst]
  | cons c rest ih =>
    have hc : c ≠ sep := fun e => h (by simp [e])
    simp [splitFirst, hc, ih (fun hm => h (by simp [hm]))]

theorem eq_of_splitFirst {sep : Char} {cs a b : List Char} (h : splitFirst sep cs = some (a, b)) :
    cs = a ++ sep :: b ∧ sep ∉ a := by
  induction cs generalizing a with
  | nil => simp [splitFirst] at h
  | cons c rest ih =>
    unfold splitFirst at h
    split at h
    · next hc => cases h; simp [hc]
    · next hc =>
      obtain ⟨⟨x, y⟩, hxy, hp⟩ := Option.map_eq_some_iff.1 h
      cases hp
      obtain ⟨he, hn⟩ := ih hxy
      exact ⟨by simp [he], by simp [hn, Ne.symm hc]⟩

theorem splitLast_eq_none_iff {sep : Char} {cs : List Char} :
    splitLast sep cs = none ↔ sep ∉ cs := by
  induction cs with
  | nil => simp [splitLast]
  | cons c rest ih =>
    unfold splitLast
    cases hr : splitLast sep rest with
    | some p =>
      have : sep ∈ rest := Classical.byContradiction (fun hn => by simp [ih.2 hn] at hr)
      simp [this]
    | none =>
      have hn := ih.1 hr
      by_cases h : c = sep
      · simp [h]
      · simp [h, hn, Ne.symm h]

theorem splitLast_append {sep : Char} (a : List Char) {b : List Char} (h : sep ∉ b) :
    splitLast sep (a ++ sep :: b) = some (a, b) := by
  induction a with
  | nil => simp [splitLast, splitLast_eq_none_iff.2 h]
  | cons c rest ih => simp [splitLast, ih]

theorem eq_of_splitLast {sep : Char} {cs a b : List Char} (h : splitLast sep cs = some (a, b)) :
    cs = a ++ sep :: b ∧ sep ∉ b := by
  induction cs generalizing a with
  | nil => simp [splitLast] at h
  | cons c rest ih =>
    unfold splitLast at h
    cases hr : splitLast sep rest with
    | some p =>
      obtain ⟨x, y⟩ := p
      simp only [hr, Option.some.injEq, Prod.mk.injEq] at h
      obtain ⟨rfl, rfl⟩ := h
      obtain ⟨he, hn⟩ := ih hr
      exact ⟨by simp [he], hn⟩
    | none =>
      simp only [hr] at h
      split at h
      · next hc => cases h; exact ⟨by simp [hc], splitLast_eq_none_iff.1 hr⟩
      · cases h

theorem splitAll_ne_nil (sep : Char) (cs : List Char) : splitAll sep cs ≠ [] := by
  cases cs with
  | nil => simp [splitAll]
  | cons c rest =>
    unfold splitAll
    split
    · simp
    · split <;> simp

theorem joinWith_splitAll (sep : Char) (cs : List Char) :
    joinWith sep (splitAll sep cs) = cs := by
  induction cs with
  | nil => rfl
  | cons c rest ih =>
    unfold splitAll
    cases hp : splitAll sep rest with
    | nil => exact absurd hp (splitAll_ne_nil sep rest)
    | cons piece pieces =>
      rw [hp] at ih
      split
      · next h => subst h; simp [joinWith, ih]
      · cases pieces <;> simp_all [joinWith]

theorem splitAll_append (sep : Char) (a b : List Char) :
    splitAll sep (a ++ sep :: b) = splitAll sep a ++ splitAll sep b := by
  induction a with
  | nil => simp [splitAll]
  | cons c a ih =>
      rw [List.cons_append, splitAll, splitAll]
      split
      · rw [ih, List.cons_append]
      · obtain ⟨piece, pieces, cut⟩ := List.exists_cons_of_ne_nil (splitAll_ne_nil sep a)
        rw [ih, cut]
        rfl

theorem splitAll_of_not_mem {sep : Char} {cs : List Char} (h : sep ∉ cs) :
    splitAll sep cs = [cs] := by
  induction cs with
  | nil => rfl
  | cons c rest ih =>
    obtain ⟨here, later⟩ := not_or.1 (mt List.mem_cons.2 h)
    rw [splitAll, if_neg (Ne.symm here), ih later]

theorem not_mem_of_mem_splitAll {sep : Char} {cs piece : List Char}
    (h : piece ∈ splitAll sep cs) : sep ∉ piece := by
  induction cs generalizing piece with
  | nil =>
    rw [List.mem_singleton.1 h]
    exact List.not_mem_nil
  | cons c rest ih =>
    unfold splitAll at h
    split at h
    · rcases List.mem_cons.1 h with rfl | later
      · exact List.not_mem_nil
      · exact ih later
    · next other =>
      obtain ⟨first, pieces, cut⟩ := List.exists_cons_of_ne_nil (splitAll_ne_nil sep rest)
      rw [cut] at h ih
      rcases List.mem_cons.1 h with rfl | later
      · exact List.not_mem_cons_of_ne_of_not_mem (Ne.symm other) (ih List.mem_cons_self)
      · exact ih (List.mem_cons_of_mem _ later)

theorem joinWith_eq_intercalate (sep : Char) (pieces : List (List Char)) :
    joinWith sep pieces = List.intercalate [sep] pieces := by
  induction pieces with
  | nil => rfl
  | cons piece pieces ih =>
    cases pieces with
    | nil => simp [joinWith, List.intercalate]
    | cons next pieces =>
      rw [joinWith, ih]
      · simp [List.intercalate]
      · simp

theorem joinWith_concat (sep : Char) {pieces : List (List Char)} (piece : List Char)
    (given : pieces ≠ []) :
    joinWith sep (pieces ++ [piece]) = joinWith sep pieces ++ sep :: piece := by
  induction pieces with
  | nil => exact absurd rfl given
  | cons first pieces ih =>
    cases pieces with
    | nil => rfl
    | cons next pieces =>
      have later := ih (List.cons_ne_nil next pieces)
      calc joinWith sep (first :: (next :: pieces ++ [piece]))
          = first ++ sep :: joinWith sep (next :: pieces ++ [piece]) := rfl
        _ = (first ++ sep :: joinWith sep (next :: pieces)) ++ sep :: piece := by
          rw [later, List.append_assoc, List.cons_append]

theorem isPrefix_joinWith (sep : Char) {a b : List (List Char)} (part : a <+: b) :
    joinWith sep a <+: joinWith sep b := by
  obtain ⟨rest, rfl⟩ := part
  induction a with
  | nil => exact List.nil_prefix
  | cons piece a ih =>
    cases a with
    | nil =>
      cases rest with
      | nil => exact List.prefix_rfl
      | cons next rest => exact List.prefix_append _ _
    | cons next a => exact (List.prefix_append_right_inj _).2 (List.cons_prefix_cons.2 ⟨rfl, ih⟩)

theorem mem_joinWith {sep c : Char} {pieces : List (List Char)} (h : c ∈ joinWith sep pieces) :
    c = sep ∨ ∃ piece ∈ pieces, c ∈ piece := by
  induction pieces with
  | nil => cases h
  | cons piece pieces ih =>
    cases pieces with
    | nil => exact .inr ⟨piece, List.mem_cons_self, h⟩
    | cons next pieces =>
      rw [joinWith, List.mem_append, List.mem_cons] at h
      · rcases h with here | cut | later
        · exact .inr ⟨piece, List.mem_cons_self, here⟩
        · exact .inl cut
        · exact (ih later).imp_right fun ⟨p, mem, inside⟩ => ⟨p, List.mem_cons_of_mem _ mem, inside⟩
      · exact List.cons_ne_nil _ _

/-- Pieces without the separator come back from their joined text. -/
theorem splitAll_joinWith {sep : Char} {pieces : List (List Char)} (given : pieces ≠ [])
    (clean : ∀ piece ∈ pieces, sep ∉ piece) : splitAll sep (joinWith sep pieces) = pieces := by
  induction pieces with
  | nil => exact absurd rfl given
  | cons piece pieces ih =>
    obtain ⟨here, later⟩ := List.forall_mem_cons.1 clean
    cases pieces with
    | nil => exact splitAll_of_not_mem here
    | cons next pieces =>
      rw [joinWith, splitAll_append, splitAll_of_not_mem here, ih (List.cons_ne_nil _ _) later]
      · rfl
      · exact List.cons_ne_nil _ _

end SandboxPods.Text
