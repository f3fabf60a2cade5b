import Mathlib.Data.List.Pairwise
import SandboxPods.Proofs.Number.Numeral
import SandboxPods.Quantity

/-!
# Quantities have one reading

A text is read as a numeral, or as a numeral before one of the suffixes, and never in two of
these ways. No suffix ends another one, so only one of them can stand at the end. No numeral ends
in the last letter of a suffix, but for an n: that one follows an a, which ends no numeral. So the
amount does not depend on the order in which the ways are tried.
-/
namespace SandboxPods.Quantity
open Decimal (IsNumeral)

variable {s t : Suffix} {cs number : List Char} {x y : Float}

/-! ## Suffixes -/

/-- Neither of the suffixes ends the other. -/
def Apart (s t : Suffix) : Prop := ¬ s.letters <:+ t.letters ∧ ¬ t.letters <:+ s.letters

instance : Std.Symm Apart := ⟨fun _ _ apart => apart.symm⟩

theorem suffixes_apart : suffixes.Pairwise Apart := by
  have letters : (suffixes.map Suffix.letters).Pairwise fun a b => ¬ a <:+ b ∧ ¬ b <:+ a := by
    decide
  exact (List.pairwise_map.1 letters).imp id

theorem not_apart (ends : s.letters <:+ cs) (ends' : t.letters <:+ cs) : ¬ Apart s t := by
  intro apart
  rcases List.suffix_or_suffix_of_suffix ends ends' with inside | inside
  · exact apart.1 inside
  · exact apart.2 inside

theorem eq_of_isSuffix (hs : s ∈ suffixes) (ht : t ∈ suffixes) (ends : s.letters <:+ cs)
    (ends' : t.letters <:+ cs) : s = t := by
  by_contra other
  exact not_apart ends ends' (suffixes_apart.forall hs ht other)

/-- The suffixes that can be taken off a text. -/
def suffixesOf (cs : List Char) : List Suffix := suffixes.filter (·.letters.isSuffixOf cs)

theorem mem_suffixesOf : s ∈ suffixesOf cs ↔ s ∈ suffixes ∧ s.letters <:+ cs := by
  rw [suffixesOf, List.mem_filter, List.isSuffixOf_iff_suffix]

theorem length_suffixesOf (cs : List Char) : (suffixesOf cs).length ≤ 1 := by
  match found : suffixesOf cs with
  | [] => exact Nat.zero_le 1
  | [s] => exact Nat.le_refl 1
  | s :: t :: others =>
      have apart := suffixes_apart.filter (·.letters.isSuffixOf cs)
      have hs : s ∈ suffixesOf cs := by simp [found]
      have ht : t ∈ suffixesOf cs := by simp [found]
      rw [← suffixesOf, found] at apart
      exact absurd (List.rel_of_pairwise_cons apart List.mem_cons_self)
        (not_apart (mem_suffixesOf.1 hs).2 (mem_suffixesOf.1 ht).2)

/-- The last letter ends no numeral, or is a lone n. -/
def endsApart (letters : List Char) : Bool :=
  letters.getLast?.any fun c =>
    !Decimal.isClosing c && (c.toLower != 'n' || letters.dropLast.isEmpty)

theorem letters_ending (hs : s ∈ suffixes) : ∃ front c, s.letters = front ++ [c] ∧
    Decimal.isClosing c = false ∧ (c.toLower = 'n' → front = []) := by
  have all : (suffixes.map Suffix.letters).all endsApart = true := by decide
  have ending : endsApart s.letters = true := List.all_eq_true.1 all _ (List.mem_map_of_mem hs)
  obtain ⟨c, last, apart⟩ := (Option.any_eq_true _ _).1 ending
  obtain ⟨front, letters⟩ := List.getLast?_eq_some_iff.1 last
  rw [letters, List.dropLast_concat, Bool.and_eq_true, Bool.not_eq_true', Bool.or_eq_true,
    bne_iff_ne, List.isEmpty_iff] at apart
  exact ⟨front, c, letters, apart.1, fun n => apart.2.resolve_left (not_not.2 n)⟩

/-! ## Ways of reading -/

/-- A numeral before a suffix. -/
def IsScaled (cs : List Char) : Prop :=
  ∃ s ∈ suffixes, ∃ number, IsNumeral number ∧ cs = number ++ s.letters

theorem not_isNumeral_of_isScaled (h : IsScaled cs) : ¬ IsNumeral cs := by
  obtain ⟨s, listed, number, numeral, rfl⟩ := h
  obtain ⟨front, c, letters, outside, lone⟩ := letters_ending listed
  intro whole
  have ending := whole.ending
  rw [letters, ← List.append_assoc] at ending
  -- Only a lone n can end the whole, as that of a word, and then an a ends what stands before it.
  rcases ending.last with closing | ⟨n, before, a, same, isA⟩
  · rw [outside] at closing
    cases closing
  · rw [lone n, List.append_nil] at same
    rw [same] at numeral
    exact Decimal.not_ending_a isA numeral.ending

/-- The amounts that a text can be read as. -/
inductive ReadAs (cs : List Char) : Float → Prop
  | whole {x : Float} (read : Decimal.toFloat? cs = some x) : ReadAs cs x
  | scaled {s : Suffix} {number : List Char} {x : Float} (listed : s ∈ suffixes)
      (cut : cs = number ++ s.letters) (read : Decimal.toFloat? number = some x) :
      ReadAs cs (x * s.factor / s.divisor)

theorem isNumeral_iff : IsNumeral cs ↔ ∃ x, Decimal.toFloat? cs = some x := by
  rw [← Decimal.isSome_toFloat?_iff, Option.isSome_iff_exists]

theorem isScaled_of_read (listed : s ∈ suffixes) (cut : cs = number ++ s.letters)
    (read : Decimal.toFloat? number = some x) : IsScaled cs :=
  ⟨s, listed, number, isNumeral_iff.2 ⟨x, read⟩, cut⟩

theorem not_isScaled_of_read (whole : Decimal.toFloat? cs = some x) : ¬ IsScaled cs :=
  fun scaled => not_isNumeral_of_isScaled scaled (isNumeral_iff.2 ⟨x, whole⟩)

theorem ReadAs.unique (hx : ReadAs cs x) (hy : ReadAs cs y) : x = y := by
  cases hx with
  | whole read =>
      cases hy with
      | whole read' => exact Option.some.inj (read.symm.trans read')
      | scaled listed cut read' =>
          exact absurd (isScaled_of_read listed cut read') (not_isScaled_of_read read)
  | scaled listed cut read =>
      cases hy with
      | whole read' =>
          exact absurd (isScaled_of_read listed cut read) (not_isScaled_of_read read')
      | scaled listed' cut' read' =>
          obtain rfl := eq_of_isSuffix listed listed' ⟨_, cut.symm⟩ ⟨_, cut'.symm⟩
          obtain rfl := List.append_cancel_right (cut.symm.trans cut')
          rw [Option.some.inj (read.symm.trans read')]

theorem exists_readAs_iff : (∃ x, ReadAs cs x) ↔ IsNumeral cs ∨ IsScaled cs := by
  constructor
  · intro reads
    obtain ⟨x, reads⟩ := reads
    cases reads with
    | whole read => exact .inl (isNumeral_iff.2 ⟨_, read⟩)
    | scaled listed cut read => exact .inr (isScaled_of_read listed cut read)
  · intro spelled
    rcases spelled with numeral | ⟨s, listed, number, numeral, cut⟩
    · obtain ⟨x, read⟩ := isNumeral_iff.1 numeral
      exact ⟨x, .whole read⟩
    · obtain ⟨x, read⟩ := isNumeral_iff.1 numeral
      exact ⟨_, .scaled listed cut read⟩

/-! ## Orders of trying -/

/-- The ways of reading in the order in which they are tried. -/
def readers : List (List Char → Option Float) :=
  suffixes.map (fun s cs => scaled? cs s) ++ [Decimal.toFloat?]

theorem scaled?_eq_some_iff : scaled? cs s = some x ↔ ∃ number y,
    number ++ s.letters = cs ∧ Decimal.toFloat? number = some y ∧ y * s.factor / s.divisor = x := by
  simp only [scaled?, Option.bind_eq_some_iff, Option.map_eq_some_iff,
    List.isSuffixOf?_eq_some_iff_append_eq, exists_and_left]

theorem exists_reader_iff : (∃ r ∈ readers, r cs = some x) ↔ ReadAs cs x := by
  constructor
  · intro found
    obtain ⟨r, way, read⟩ := found
    rcases List.mem_append.1 way with suffix | whole
    · obtain ⟨s, listed, rfl⟩ := List.mem_map.1 suffix
      obtain ⟨number, y, rfl, number_read, rfl⟩ := scaled?_eq_some_iff.1 read
      exact .scaled listed rfl number_read
    · rw [List.mem_singleton.1 whole] at read
      exact .whole read
  · intro reads
    cases reads with
    | whole read => exact ⟨_, List.mem_append_right _ List.mem_cons_self, read⟩
    | scaled listed cut read =>
        exact ⟨_, List.mem_append_left _ (List.mem_map_of_mem listed),
          scaled?_eq_some_iff.2 ⟨_, _, cut.symm, read, rfl⟩⟩

/-- Whatever the order, the first amount that is found is the only one. -/
theorem findSome?_perm_iff {order : List (List Char → Option Float)}
    (perm : order.Perm readers) : order.findSome? (· cs) = some x ↔ ReadAs cs x := by
  have reader {y : Float} : (∃ r ∈ order, r cs = some y) ↔ ReadAs cs y := by
    simp only [perm.mem_iff, exists_reader_iff]
  constructor
  · intro found
    exact reader.1 (List.exists_of_findSome?_eq_some found)
  · intro reads
    obtain ⟨r, listed, read⟩ := reader.2 reads
    have hit : (order.findSome? (· cs)).isSome = true :=
      List.findSome?_isSome_iff.2 ⟨r, listed, Option.isSome_of_mem read⟩
    obtain ⟨y, found⟩ := Option.isSome_iff_exists.1 hit
    rw [found, reads.unique (reader.1 (List.exists_of_findSome?_eq_some found))]

theorem findSome?_readers (cs : List Char) : readers.findSome? (· cs) =
    (suffixes.findSome? (scaled? cs)).or (Decimal.toFloat? cs) := by
  rw [readers, List.findSome?_append, List.findSome?_map, List.findSome?_singleton]
  rfl

theorem amount?_eq (q : Quantity) :
    q.amount? = readers.findSome? (· (Text.trim q.text.toList)) := by
  rw [findSome?_readers, amount?]
  split
  · next empty =>
    rw [List.isEmpty_iff.1 empty]
    rfl
  · rfl

theorem amount?_eq_some_iff (q : Quantity) :
    q.amount? = some x ↔ ReadAs (Text.trim q.text.toList) x := by
  rw [amount?_eq]
  exact findSome?_perm_iff (List.Perm.refl readers)

/-- At most one suffix can be taken off, no text is both a numeral and a numeral before a suffix,
an amount is read from just these two, and the ways of reading can be tried in any order. -/
theorem one_reading (q : Quantity) :
    let cs := Text.trim q.text.toList
    (suffixesOf cs).length ≤ 1 ∧ ¬ (IsNumeral cs ∧ IsScaled cs) ∧
      (q.amount?.isSome = true ↔ IsNumeral cs ∨ IsScaled cs) ∧
      ∀ order : List (List Char → Option Float), order.Perm readers →
        order.findSome? (· cs) = q.amount? := by
  intro cs
  refine ⟨length_suffixesOf cs, ?_, ?_, ?_⟩
  · intro both
    exact not_isNumeral_of_isScaled both.2 both.1
  · rw [Option.isSome_iff_exists, ← exists_readAs_iff]
    exact exists_congr fun x => amount?_eq_some_iff q
  · intro order perm
    ext x
    rw [findSome?_perm_iff perm, amount?_eq_some_iff]

/-- A suffix with the letter of an exponent and of another suffix, tried in the other order. -/
theorem exbi_tried_backwards : readers.reverse.Perm readers ∧
    Text.trim " +5Ei\n".toList = ['+', '5', 'E', 'i'] ∧
    (amount? ⟨" +5Ei\n"⟩).isSome = true ∧
    readers.reverse.findSome? (· ['+', '5', 'E', 'i']) = amount? ⟨" +5Ei\n"⟩ := by
  have trimmed : Text.trim " +5Ei\n".toList = ['+', '5', 'E', 'i'] := by decide
  obtain ⟨-, -, read, anyOrder⟩ := one_reading ⟨" +5Ei\n"⟩
  rw [trimmed] at read anyOrder
  have five : IsNumeral ['+', '5'] := Decimal.isSome_read?_iff.1 rfl
  have scaled : IsScaled ['+', '5', 'E', 'i'] :=
    ⟨suffixes[5], List.getElem_mem _, ['+', '5'], five, rfl⟩
  have backwards : readers.reverse.Perm readers := List.reverse_perm readers
  exact ⟨backwards, trimmed, read.2 (.inr scaled), anyOrder readers.reverse backwards⟩

end SandboxPods.Quantity
