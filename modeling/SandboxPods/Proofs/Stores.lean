import Mathlib.Data.List.Sort
import SandboxPods.Client.Basic

/-!
# Laws of the registry and of the property store

A key space is a table of its own, so the store is described by its look-ups per
handle. Storing properties under one handle leaves every other key space alone, a
fresh key space ends up with just the stored properties, and forgetting a handle
that had no key space before restores the store. Tables of the same keys list them
alike.
-/
namespace SandboxPods

namespace Table
variable {α : Type} {t : Table α} {k : String}

theorem get?_eq_none (h : t.contains k = false) : t.get? k = none :=
  Option.isSome_eq_false_iff.1 h |> Option.isNone_iff_eq_none.1

theorem get?_insert_ne {j : String} (t : Table α) (v : α) (h : j ≠ k) :
    (t.insert k v).get? j = t.get? j := by
  rw [get?_insert, if_neg h]

theorem get?_erase_ne {j : String} (t : Table α) (h : j ≠ k) :
    (t.erase k).get? j = t.get? j := by
  rw [get?_erase, if_neg h]

theorem erase_insert (v : α) (absent : t.get? k = none) : (t.insert k v).erase k = t := by
  apply ext_get?
  intro j
  by_cases hj : j = k
  · rw [hj, get?_erase_self, absent]
  · rw [get?_erase_ne _ hj, get?_insert_ne t v hj]

/-- Entries put into a table one after another win over what it held. -/
theorem get?_foldl_insert {l : List (String × α)} (ascending : Ascending l) (t : Table α)
    (k : String) :
    (l.foldl (fun t e => t.insert e.1 e.2) t).get? k = (lookup k l).or (t.get? k) := by
  induction l generalizing t with
  | nil => rfl
  | cons e rest ih =>
      obtain ⟨above, hrest⟩ := List.pairwise_cons.1 ascending
      rw [List.foldl_cons, ih hrest]
      by_cases hk : e.1 = k
      · rw [lookup, if_pos hk, ← hk, get?_insert_self, lookup_eq_none_of_lt above]
        rfl
      · rw [lookup, if_neg hk, get?_insert_ne t e.2 (Ne.symm hk)]

theorem foldl_insert_empty (t : Table α) :
    t.toList.foldl (fun t e => t.insert e.1 e.2) {} = t := by
  apply ext_get?
  intro k
  rw [toList, get?_foldl_insert t.ascending]
  exact Option.or_none

/-- Entries of other keys do not matter to a look-up. -/
theorem get?_foldl_insert_ne {l : List (String × α)} (others : ∀ e ∈ l, e.1 ≠ k) (t : Table α) :
    (l.foldl (fun t e => t.insert e.1 e.2) t).get? k = t.get? k := by
  induction l generalizing t with
  | nil => rfl
  | cons e rest ih =>
      have other : k ≠ e.1 := (others e List.mem_cons_self).symm
      have later : ∀ e ∈ rest, e.1 ≠ k := fun e he => others e (List.mem_cons_of_mem _ he)
      rw [List.foldl_cons, ih later, get?_insert_ne t e.2 other]

/-- Of pairs with distinct keys all are in the table. -/
theorem get?_ofList {l : List (String × α)} (distinct : (l.map Prod.fst).Nodup) {v : α} :
    (ofList l).get? k = some v ↔ (k, v) ∈ l := by
  have general (t : Table α) : (l.foldl (fun t e => t.insert e.1 e.2) t).get? k = some v ↔
      (k, v) ∈ l ∨ k ∉ l.map Prod.fst ∧ t.get? k = some v := by
    induction l generalizing t with
    | nil => simp
    | cons e rest ih =>
        obtain ⟨fresh, distinct⟩ := List.nodup_cons.1 distinct
        rw [List.foldl_cons, ih distinct]
        by_cases same : k = e.1
        · subst same
          have absent : (e.1, v) ∉ rest := fun member =>
            fresh (List.mem_map.2 ⟨(e.1, v), member, rfl⟩)
          simp [absent, fresh, Prod.ext_iff, eq_comm]
        · have other : (k, v) ≠ e := fun here => same (congrArg Prod.fst here)
          simp [get?_insert_ne _ _ same, same, other]
  rw [ofList, general empty]
  simp

/-- Of several pairs with one key the last one is in the table. -/
theorem get?_ofList_concat (l : List (String × α)) (e : String × α) (k : String) :
    (ofList (l ++ [e])).get? k = if k = e.1 then some e.2 else (ofList l).get? k := by
  rw [ofList, List.foldl_append]
  exact get?_insert _ e.1 k e.2

/-! ## Listings -/

theorem lookup_eq_some {l : List (String × α)} (ascending : Ascending l) {k : String} {v : α} :
    lookup k l = some v ↔ (k, v) ∈ l := by
  induction l with
  | nil => simp [lookup]
  | cons e rest ih =>
      obtain ⟨above, hrest⟩ := List.pairwise_cons.1 ascending
      rw [lookup, List.mem_cons]
      by_cases hk : e.1 = k
      · rw [if_pos hk]
        constructor
        · intro same
          exact .inl (Prod.ext hk.symm (Option.some.inj same).symm)
        · intro member
          rcases member with same | later
          · rw [← same]
          · have lt := above _ later
            rw [hk] at lt
            exact (String.lt_irrefl k lt).elim
      · rw [if_neg hk, ih hrest]
        constructor
        · exact .inr
        · intro member
          rcases member with same | later
          · exact (hk (congrArg Prod.fst same).symm).elim
          · exact later

theorem mem_entries {e : String × α} : e ∈ t.entries ↔ t.get? e.1 = some e.2 :=
  (lookup_eq_some t.ascending).symm

theorem mem_values {v : α} : v ∈ t.values ↔ ∃ k, t.get? k = some v := by
  rw [values, List.mem_map]
  constructor
  · intro listed
    obtain ⟨e, member, rfl⟩ := listed
    exact ⟨e.1, mem_entries.1 member⟩
  · intro found
    obtain ⟨k, found⟩ := found
    exact ⟨(k, v), mem_entries.2 found, rfl⟩

theorem mem_keys : k ∈ t.keys ↔ t.get? k ≠ none := by
  rw [keys, List.mem_map, Option.ne_none_iff_exists']
  constructor
  · intro listed
    obtain ⟨e, member, rfl⟩ := listed
    exact ⟨e.2, mem_entries.1 member⟩
  · intro found
    obtain ⟨v, found⟩ := found
    exact ⟨(k, v), mem_entries.2 found, rfl⟩

theorem includes_iff [DecidableEq α] {filter : Table α} :
    t.includes filter = true ↔ ∀ k v, filter.get? k = some v → t.get? k = some v := by
  rw [includes, List.all_eq_true]
  constructor
  · intro all k v found
    exact beq_iff_eq.1 (all (k, v) (mem_entries.2 found))
  · intro all e member
    exact beq_iff_eq.2 (all e.1 e.2 (mem_entries.1 member))

theorem ascending_keys (t : Table α) : t.keys.Pairwise (· < ·) :=
  List.pairwise_map.2 t.ascending

theorem nodup_keys (t : Table α) : t.keys.Nodup :=
  t.ascending_keys.imp fun below => String.ne_of_lt below

theorem mem_keys_ofList {l : List (String × α)} (distinct : (l.map Prod.fst).Nodup) :
    k ∈ (ofList l).keys ↔ k ∈ l.map Prod.fst := by
  rw [mem_keys, Option.ne_none_iff_exists', List.mem_map]
  simp [get?_ofList distinct]

/-- Tables of the same keys list them in the same order. -/
theorem keys_eq {β : Type} {u : Table β} (same : ∀ k, t.get? k ≠ none ↔ u.get? k ≠ none) :
    t.keys = u.keys := by
  have irrefl : Std.Irrefl (α := String) (· < ·) := ⟨String.lt_irrefl⟩
  apply t.ascending_keys.eq_of_mem_iff u.ascending_keys
  intro k
  rw [mem_keys, mem_keys, same k]

end Table

namespace PropertyStore
variable {s t : PropertyStore} {handle other name value : String} {properties : Properties}

theorem ext_spaces (h : ∀ k, s.spaces.get? k = t.spaces.get? k) : s = t := by
  cases s
  cases t
  exact congrArg _ (Table.ext_get? h)

theorem all_set (s : PropertyStore) (handle name value : String) :
    (s.set handle name value).all handle = (s.all handle).insert name value := by
  rw [all, set, Table.get?_insert_self]
  rfl

theorem spaces_set (s : PropertyStore) (name value : String) (h : other ≠ handle) :
    (s.set handle name value).spaces.get? other = s.spaces.get? other :=
  Table.get?_insert_ne _ _ h

theorem all_set_ne (s : PropertyStore) (name value : String) (h : other ≠ handle) :
    (s.set handle name value).all other = s.all other := by
  rw [all, spaces_set s name value h]
  rfl

theorem all_setEach (l : List (String × String)) (s : PropertyStore) (handle : String) :
    (l.foldl (fun s e => s.set handle e.1 e.2) s).all handle =
      l.foldl (fun t e => t.insert e.1 e.2) (s.all handle) := by
  induction l generalizing s with
  | nil => rfl
  | cons e rest ih =>
      rw [List.foldl_cons, List.foldl_cons, ih, all_set]

/-- A handle without properties gets just those that are stored. -/
theorem all_setAll (h : s.all handle = {}) : (s.setAll handle properties).all handle =
    properties := by
  rw [setAll, all_setEach, h, Table.foldl_insert_empty]

theorem spaces_setAll (s : PropertyStore) (properties : Properties) (h : other ≠ handle) :
    (s.setAll handle properties).spaces.get? other = s.spaces.get? other := by
  unfold setAll
  induction properties.toList generalizing s with
  | nil => rfl
  | cons e rest ih =>
      rw [List.foldl_cons, ih, spaces_set s e.1 e.2 h]

theorem all_setAll_ne (s : PropertyStore) (properties : Properties) (h : other ≠ handle) :
    (s.setAll handle properties).all other = s.all other := by
  rw [all, spaces_setAll s properties h]
  rfl

/-- Forgetting a handle gives back a store in which it had no key space and every other one
was the same. -/
theorem destroy_eq (absent : t.spaces.get? handle = none)
    (same : ∀ other, other ≠ handle → s.spaces.get? other = t.spaces.get? other) :
    s.destroy handle = t := by
  apply ext_spaces
  intro k
  by_cases hk : k = handle
  · rw [hk, destroy, Table.get?_erase_self, absent]
  · rw [destroy, Table.get?_erase_ne _ hk, same k hk]

end PropertyStore
end SandboxPods
