import Mathlib.Data.List.Forall2
import SandboxPods.Proofs.Stores
import SandboxPods.Json.Record

/-!
# Reading back what was written

The members of a JSON object have no order, so a writer and a reader agree when the reader gives
back what was written from every value that differs from the written one only in the order of
members. Lists, tables and the fields of records inherit the agreement from their parts. A
member that was left out comes back as the value for which it is left out.
-/
namespace SandboxPods

namespace Json
variable {α : Type} {v w : Value} {written : List (String × Value)}

/-- Values that differ at most in the order of the members of objects. -/
inductive Reordered : Value → Value → Prop
  | same (v : Value) : Reordered v v
  | array {items others : List Value} : List.Forall₂ Reordered items others →
      Reordered (.array items) (.array others)
  | object {members others : List (String × Value)} :
      (members.map Prod.fst).Perm (others.map Prod.fst) →
      (∀ name v w, (name, v) ∈ members → (name, w) ∈ others → Reordered v w) →
      Reordered (.object members) (.object others)

theorem Reordered.items {items : List Value} (h : Reordered (.array items) v) :
    ∃ others, v = .array others ∧ List.Forall₂ Reordered items others := by
  cases h with
  | same => exact ⟨items, rfl, List.forall₂_same.2 fun item _ => .same item⟩
  | array each => exact ⟨_, rfl, each⟩

theorem unique_member {name : String} (distinct : (written.map Prod.fst).Nodup)
    (first : (name, v) ∈ written) (second : (name, w) ∈ written) : v = w :=
  (Prod.mk.inj (List.inj_on_of_nodup_map distinct first second rfl)).2

theorem Reordered.members (distinct : (written.map Prod.fst).Nodup)
    (h : Reordered (.object written) v) :
    ∃ others, v = .object others ∧ (written.map Prod.fst).Perm (others.map Prod.fst) ∧
      ∀ name v w, (name, v) ∈ written → (name, w) ∈ others → Reordered v w := by
  cases h with
  | same =>
      refine ⟨written, rfl, .refl _, fun name v w first second => ?_⟩
      rw [unique_member distinct first second]
      exact .same w
  | object names each => exact ⟨_, rfl, names, each⟩

theorem Reordered.of_perm (distinct : (written.map Prod.fst).Nodup)
    {others : List (String × Value)} (perm : written.Perm others) :
    Reordered (.object written) (.object others) := by
  refine .object (perm.map _) fun name v w first second => ?_
  rw [unique_member distinct first (perm.mem_iff.2 second)]
  exact .same w

example : Reordered (.object [("a", .null), ("b", .int 1)])
    (.object [("b", .int 1), ("a", .null)]) :=
  .of_perm (by decide) (.swap ..)

/-- The reader gives back what was written. -/
def Reads (write : α → Value) (read : Value → Option α) : Prop :=
  ∀ a v, Reordered (write a) v → read v = some a

variable {write : α → Value} {read : Value → Option α}

/-! ## Field types -/

theorem reads_text : Reads .string text := by
  intro s v h
  cases h
  rfl

theorem reads_boolean : Reads .bool boolean := by
  intro b v h
  cases h
  rfl

theorem Reads.list (reads : Reads write read) :
    Reads (fun l => .array (l.map write)) (listOf read) := by
  intro l v h
  obtain ⟨others, rfl, each⟩ := h.items
  clear h
  change others.mapM read = some l
  induction l generalizing others with
  | nil =>
      cases each
      rfl
  | cons a rest ih =>
      cases each with
      | @cons _ w _ more first later =>
          rw [List.mapM_cons, reads a w first, ih more later]
          rfl

/-- Where each item can be read, they are read one by one. -/
theorem mapM_eq_filterMap {β γ : Type} {f : β → Option γ} {l : List β}
    (all : ∀ b ∈ l, (f b).isSome = true) : l.mapM f = some (l.filterMap f) := by
  induction l with
  | nil => rfl
  | cons b rest ih =>
      obtain ⟨first, later⟩ := List.forall_mem_cons.1 all
      obtain ⟨c, here⟩ := Option.isSome_iff_exists.1 first
      rw [List.mapM_cons, ih later, List.filterMap_cons, here]
      rfl

/-- Items that have something are listed under their names. -/
theorem names_filterMap {β γ : Type} (f : β → Option γ) (l : List (String × β)) :
    ((l.filterMap fun e => (f e.2).map (e.1, ·)).map Prod.fst).Sublist (l.map Prod.fst) := by
  induction l with
  | nil => exact .slnil
  | cons e rest ih =>
      rw [List.filterMap_cons]
      cases f e.2 with
      | none => exact ih.cons _
      | some c => exact ih.cons_cons _

theorem Reads.table (reads : Reads write read) : Reads (ofTable write) (tableOf read) := by
  intro t v h
  have keys : (t.entries.map fun e => (e.1, write e.2)).map Prod.fst = t.keys := by
    simp [Table.keys]
  have distinct : t.keys.Nodup := t.ascending_keys.imp fun lt => String.ne_of_lt lt
  obtain ⟨others, rfl, names, each⟩ := h.members (keys ▸ distinct)
  rw [keys] at names
  -- What stands under a name is read as what the table has there.
  have known : ∀ m ∈ others, ∃ a, t.get? m.1 = some a ∧ read m.2 = some a := by
    intro m member
    have listed : m.1 ∈ t.keys := names.mem_iff.2 (List.mem_map_of_mem member)
    obtain ⟨e, entry, same⟩ := List.mem_map.1 listed
    have written : (m.1, write e.2) ∈ t.entries.map fun e => (e.1, write e.2) :=
      List.mem_map.2 ⟨e, entry, by rw [same]⟩
    refine ⟨e.2, ?_, reads e.2 m.2 (each m.1 _ m.2 written member)⟩
    rw [← same]
    exact Table.mem_entries.1 entry
  let entry (m : String × Value) : Option (String × α) := (read m.2).map (m.1, ·)
  have all : ∀ m ∈ others, (entry m).isSome = true := by
    intro m member
    obtain ⟨a, -, found⟩ := known m member
    simp [entry, found]
  have unique : ((others.filterMap entry).map Prod.fst).Nodup :=
    (names.nodup_iff.1 distinct).sublist (names_filterMap read others)
  change (others.mapM entry).map Table.ofList = some t
  rw [mapM_eq_filterMap all]
  refine congrArg some (Table.ext_get? fun k => Option.ext fun a => ?_)
  rw [Table.get?_ofList unique, List.mem_filterMap]
  constructor
  · rintro ⟨m, member, found⟩
    obtain ⟨b, stored, reading⟩ := known m member
    simp only [entry, reading, Option.map_some, Option.some.injEq, Prod.mk.injEq] at found
    rw [← found.1, ← found.2]
    exact stored
  · intro stored
    have listed : k ∈ t.keys := Table.mem_keys.2 (by simp [stored])
    obtain ⟨m, member, rfl⟩ := List.mem_map.1 (names.mem_iff.1 listed)
    obtain ⟨b, same, reading⟩ := known m member
    cases stored.symm.trans same
    exact ⟨m, member, by simp [entry, reading]⟩

/-! ## Records -/

/-- The members that have a value. -/
def present (entries : List (String × Option Value)) : List (String × Value) :=
  entries.filterMap fun e => e.2.map (e.1, ·)

theorem mem_present {entries : List (String × Option Value)} {name : String} :
    (name, v) ∈ present entries ↔ (name, some v) ∈ entries := by
  rw [present, List.mem_filterMap]
  constructor
  · rintro ⟨⟨other, value⟩, member, same⟩
    obtain ⟨u, rfl, same⟩ := Option.map_eq_some_iff.1 same
    cases same
    exact member
  · intro member
    exact ⟨(name, some v), member, rfl⟩

theorem mem_valueOf {name : String} (distinct : (written.map Prod.fst).Nodup) :
    valueOf name written = some v ↔ (name, v) ∈ written := by
  induction written with
  | nil => simp [valueOf]
  | cons m rest ih =>
      obtain ⟨fresh, distinct⟩ := List.nodup_cons.1 distinct
      by_cases same : m.1 = name
      · have absent : (name, v) ∉ rest := fun member =>
          fresh (List.mem_map.2 ⟨(name, v), member, same.symm⟩)
        simp [valueOf, same, absent, Prod.ext_iff, eq_comm]
      · have other : (name, v) ≠ m := fun here => same (congrArg Prod.fst here).symm
        simp [valueOf, same, ih distinct, other]

/-- The fields of a record are found as they were written. -/
theorem fields_present {entries : List (String × Option Value)} (names : List String)
    (distinct : (entries.map Prod.fst).Nodup) (h : Reordered (.object (present entries)) v) :
    ∃ f, fields names v = some f ∧ ∀ e ∈ entries, Option.Rel Reordered e.2 (f.find e.1) := by
  have once : ((present entries).map Prod.fst).Nodup :=
    distinct.sublist (names_filterMap id entries)
  obtain ⟨others, rfl, same, each⟩ := h.members once
  have unique : (others.map Prod.fst).Nodup := same.nodup_iff.1 once
  have few : names.all fun n => (others.filter fun m => m.1 == n).length ≤ 1 := by
    rw [List.all_eq_true]
    intro n _
    have count := List.nodup_iff_count_le_one.1 unique n
    rw [List.count, List.countP_map, List.countP_eq_length_filter] at count
    exact decide_eq_true count
  refine ⟨⟨fun n => valueOf n others, true⟩, if_pos few, ?_⟩
  rintro ⟨name, value⟩ member
  cases value with
  | some v =>
      have written := mem_present.2 member
      have listed := same.mem_iff.1 (List.mem_map_of_mem written)
      obtain ⟨⟨name, w⟩, there, rfl⟩ := List.mem_map.1 listed
      change Option.Rel Reordered (some v) (valueOf name others)
      rw [(mem_valueOf unique).2 there]
      exact .some (each name v w written there)
  | none =>
      change Option.Rel Reordered none (valueOf name others)
      cases found : valueOf name others with
      | none => exact .none
      | some w =>
          have there := (mem_valueOf unique).1 found
          have listed := same.mem_iff.2 (List.mem_map_of_mem there)
          obtain ⟨⟨name, u⟩, written, rfl⟩ := List.mem_map.1 listed
          have both := List.inj_on_of_nodup_map distinct member (mem_present.1 written) rfl
          cases both

section
variable {f : Fields} {name : String} {a : α} {o : Option α}

/-- What is to be written, unless it is left out. -/
def shownUnless (skip : Bool) (v : Value) : Option Value := if skip then none else some v

theorem Reads.required (reads : Reads write read)
    (found : Option.Rel Reordered (some (write a)) (f.find name)) :
    f.required name read = some a := by
  unfold Fields.required
  generalize f.find name = there at found
  cases found with
  | some same => exact reads a _ same

/-- A field that is left out only when it holds the default is read back. -/
theorem Reads.withDefault {skip : Bool} (reads : Reads write read) (default : α)
    (found : Option.Rel Reordered (shownUnless skip (write a)) (f.find name))
    (skipped : skip = true → a = default) : f.withDefault name default read = some a := by
  unfold Fields.withDefault
  generalize f.find name = there at found
  cases skip with
  | true =>
      cases found
      rw [skipped rfl]
  | false =>
      cases found with
      | some same => exact reads a _ same

/-- A field that is always written is read back whatever its default is. -/
theorem Reads.given (reads : Reads write read) (default : α)
    (found : Option.Rel Reordered (some (write a)) (f.find name)) :
    f.withDefault name default read = some a := by
  have shown : Option.Rel Reordered (shownUnless false (write a)) (f.find name) := found
  exact reads.withDefault default shown nofun

theorem Reads.optional (reads : Reads write read) (null : read .null = none)
    (found : Option.Rel Reordered (o.map write) (f.find name)) :
    f.optional name read = some o := by
  unfold Fields.optional Fields.withDefault
  generalize f.find name = there at found
  cases o with
  | none =>
      cases found
      rfl
  | some a =>
      cases found with
      | @some _ v same =>
          have reading : read v = some a := reads a v same
          cases v with
          | null => cases null.symm.trans reading
          | _ => exact congrArg (Option.map some) reading

end

/-! ## Members -/

section
variable {name : String} {rest : List (String × Option Value)}

@[simp] theorem present_nil : present [] = [] := rfl

theorem present_some (name : String) (v : Value) (rest : List (String × Option Value)) :
    present ((name, some v) :: rest) = (name, v) :: present rest := rfl

theorem present_optional (o : Option α) :
    present ((name, o.map write) :: rest) = optionalMember name write o ++ present rest := by
  cases o <;> rfl

theorem present_unless (skip : Bool) :
    present ((name, shownUnless skip v) :: rest) =
      (if skip then [] else [(name, v)]) ++ present rest := by
  cases skip <;> rfl

theorem present_list (l : List α) :
    present ((name, shownUnless l.isEmpty (.array (l.map write))) :: rest) =
      listMember name write l ++ present rest := by
  cases l <;> rfl

theorem present_table (t : Table α) :
    present ((name, shownUnless t.isEmpty (ofTable write t)) :: rest) =
      tableMember name write t ++ present rest := present_unless _

theorem present_text (s : String) :
    present ((name, shownUnless s.isEmpty (.string s)) :: rest) =
      textMember name s ++ present rest := present_unless _

end
end Json
end SandboxPods
