/-!
# String-keyed tables

Labels, properties, resource lists, registered handles and attached tasks are
all finite maps from strings. A table keeps its entries strictly ascending by
key, so two tables with the same look-ups are equal as values and every listing
comes out in key order. Keys are compared by code point, which is also the
order of their UTF-8 bytes.
-/
namespace SandboxPods

/-- Entries in strictly ascending key order; in particular no key occurs twice. -/
def Ascending {α : Type} (entries : List (String × α)) : Prop :=
  entries.Pairwise (fun a b => a.1 < b.1)

structure Table (α : Type) where
  entries : List (String × α)
  ascending : Ascending entries

namespace Table
variable {α β : Type}

instance [DecidableEq α] : DecidableEq (Table α) := fun a b =>
  if h : a.entries = b.entries then isTrue (by cases a; cases b; simp_all)
  else isFalse (fun e => h (by rw [e]))

instance [Repr α] : Repr (Table α) := ⟨fun t p => reprPrec t.entries p⟩

def empty : Table α := ⟨[], List.Pairwise.nil⟩

instance : EmptyCollection (Table α) := ⟨empty⟩
instance : Inhabited (Table α) := ⟨empty⟩

/-- Ordered insertion; the value of a key already present is replaced. -/
def insertEntry (k : String) (v : α) : List (String × α) → List (String × α)
  | [] => [(k, v)]
  | e :: rest =>
    if k < e.1 then (k, v) :: e :: rest
    else if e.1 < k then e :: insertEntry k v rest
    else (k, v) :: rest

theorem mem_insertEntry {k : String} {v : α} {l : List (String × α)} {x : String × α}
    (h : x ∈ insertEntry k v l) : x = (k, v) ∨ x ∈ l := by
  induction l with
  | nil => simpa [insertEntry] using h
  | cons e rest ih =>
    unfold insertEntry at h
    split at h
    · simpa using h
    · split at h
      · rcases List.mem_cons.1 h with h | h
        · simp [h]
        · rcases ih h with h | h <;> simp [h]
      · rcases List.mem_cons.1 h with h | h <;> simp [h]

theorem ascending_insertEntry (k : String) (v : α) {l : List (String × α)}
    (h : Ascending l) : Ascending (insertEntry k v l) := by
  induction l with
  | nil => simp [insertEntry, Ascending]
  | cons e rest ih =>
    obtain ⟨he, hr⟩ := List.pairwise_cons.1 h
    unfold insertEntry
    split
    · next hk =>
      refine List.pairwise_cons.2 ⟨?_, h⟩
      intro x hx
      rcases List.mem_cons.1 hx with rfl | hx
      · exact hk
      · exact String.lt_trans hk (he x hx)
    · split
      · next hk =>
        refine List.pairwise_cons.2 ⟨?_, ih hr⟩
        intro x hx
        rcases mem_insertEntry hx with rfl | hx
        · exact hk
        · exact he x hx
      · next h1 h2 =>
        have same : e.1 = k := String.le_antisymm (String.not_lt.1 h1) (String.not_lt.1 h2)
        exact List.pairwise_cons.2 ⟨fun x hx => same ▸ he x hx, hr⟩

def insert (t : Table α) (k : String) (v : α) : Table α :=
  ⟨insertEntry k v t.entries, ascending_insertEntry k v t.ascending⟩

def erase (t : Table α) (k : String) : Table α :=
  ⟨t.entries.filter (fun e => e.1 != k), List.Pairwise.filter _ t.ascending⟩

/-- The value stored under a key in a list of entries. -/
def lookup (k : String) : List (String × α) → Option α
  | [] => none
  | e :: rest => if e.1 = k then some e.2 else lookup k rest

def get? (t : Table α) (k : String) : Option α := lookup k t.entries

def contains (t : Table α) (k : String) : Bool := (t.get? k).isSome

def isEmpty (t : Table α) : Bool := t.entries.isEmpty

def size (t : Table α) : Nat := t.entries.length

def keys (t : Table α) : List String := t.entries.map (·.1)

def values (t : Table α) : List α := t.entries.map (·.2)

def toList (t : Table α) : List (String × α) := t.entries

/-- Later pairs replace earlier ones with the same key. -/
def ofList (l : List (String × α)) : Table α :=
  l.foldl (fun t e => t.insert e.1 e.2) empty

def map (f : α → β) (t : Table α) : Table β :=
  ⟨t.entries.map (fun e => (e.1, f e.2)),
    by have h := t.ascending; unfold Ascending at *; rw [List.pairwise_map]; exact h⟩

/-- Every entry of `filter` is in `t` with an equal value. -/
def includes [DecidableEq α] (t filter : Table α) : Bool :=
  filter.entries.all (fun e => t.get? e.1 == some e.2)

/-! ## Look-up laws -/

theorem lookup_eq_none_of_lt {k : String} {l : List (String × α)} (h : ∀ e ∈ l, k < e.1) :
    lookup k l = none := by
  induction l with
  | nil => rfl
  | cons e rest ih =>
    have hne : e.1 ≠ k := fun he => String.lt_irrefl _ (he ▸ h e (by simp))
    simp [lookup, hne, ih (fun x hx => h x (by simp [hx]))]

theorem lookup_insertEntry (k j : String) (v : α) (l : List (String × α)) :
    lookup j (insertEntry k v l) = if j = k then some v else lookup j l := by
  induction l with
  | nil =>
    by_cases h : j = k
    · simp [insertEntry, lookup, h]
    · simp [insertEntry, lookup, h, Ne.symm h]
  | cons e rest ih =>
    unfold insertEntry
    split
    · by_cases h : j = k
      · simp [lookup, h]
      · simp [lookup, h, Ne.symm h]
    · split
      · next hk =>
        simp only [lookup, ih]
        by_cases h : j = k
        · subst h
          have : e.1 ≠ j := fun he => String.lt_irrefl _ (he ▸ hk)
          simp [this]
        · simp [h]
      · next h1 h2 =>
        have same : e.1 = k := String.le_antisymm (String.not_lt.1 h1) (String.not_lt.1 h2)
        by_cases h : j = k
        · simp [lookup, h]
        · simp [lookup, h, Ne.symm h, same]

theorem lookup_filter_ne (k j : String) (l : List (String × α)) :
    lookup j (l.filter (fun e => e.1 != k)) = if j = k then none else lookup j l := by
  induction l with
  | nil => simp [lookup]
  | cons e rest ih =>
    by_cases he : e.1 = k
    · by_cases hj : j = k
      · simp_all
      · have : e.1 ≠ j := fun h => hj (h.symm.trans he)
        simp_all [lookup]
    · by_cases hj : e.1 = j
      · have : j ≠ k := fun h => he (hj.trans h)
        simp_all [lookup]
      · simp_all [lookup]

@[simp] theorem get?_empty (k : String) : (empty : Table α).get? k = none := rfl

theorem get?_insert (t : Table α) (k j : String) (v : α) :
    (t.insert k v).get? j = if j = k then some v else t.get? j :=
  lookup_insertEntry k j v t.entries

theorem get?_erase (t : Table α) (k j : String) :
    (t.erase k).get? j = if j = k then none else t.get? j :=
  lookup_filter_ne k j t.entries

@[simp] theorem get?_insert_self (t : Table α) (k : String) (v : α) :
    (t.insert k v).get? k = some v := by simp [get?_insert]

@[simp] theorem get?_erase_self (t : Table α) (k : String) : (t.erase k).get? k = none := by
  simp [get?_erase]

theorem entries_eq_of_lookup {a b : List (String × α)} (ha : Ascending a) (hb : Ascending b)
    (h : ∀ k, lookup k a = lookup k b) : a = b := by
  induction a generalizing b with
  | nil =>
    cases b with
    | nil => rfl
    | cons e rest => have := h e.1; simp [lookup] at this
  | cons e rest ih =>
    cases b with
    | nil => have := h e.1; simp [lookup] at this
    | cons f tail =>
      obtain ⟨he, hr⟩ := List.pairwise_cons.1 ha
      obtain ⟨hf, ht⟩ := List.pairwise_cons.1 hb
      have same : e.1 = f.1 := by
        apply String.le_antisymm
        · refine String.not_lt.1 (fun hlt => ?_)
          have hn : lookup f.1 (e :: rest) = none :=
            lookup_eq_none_of_lt (fun x hx => by
              rcases List.mem_cons.1 hx with rfl | hx
              · exact hlt
              · exact String.lt_trans hlt (he x hx))
          have := hn.symm.trans (h f.1)
          simp [lookup] at this
        · refine String.not_lt.1 (fun hlt => ?_)
          have hn : lookup e.1 (f :: tail) = none :=
            lookup_eq_none_of_lt (fun x hx => by
              rcases List.mem_cons.1 hx with rfl | hx
              · exact hlt
              · exact String.lt_trans hlt (hf x hx))
          have := (h e.1).trans hn
          simp [lookup] at this
      have hv : e.2 = f.2 := by simpa [lookup, same] using h f.1
      have hef : e = f := Prod.ext same hv
      refine hef ▸ congrArg (e :: ·) (ih hr ht (fun k => ?_))
      by_cases hk : e.1 = k
      · rw [lookup_eq_none_of_lt (fun x hx => hk ▸ he x hx),
          lookup_eq_none_of_lt (fun x hx => hk ▸ same ▸ hf x hx)]
      · have hk' : f.1 ≠ k := fun e' => hk (same.trans e')
        simpa [lookup, hk, hk'] using h k

/-- A table is determined by its look-ups. -/
theorem ext_get? {a b : Table α} (h : ∀ k, a.get? k = b.get? k) : a = b := by
  have := entries_eq_of_lookup a.ascending b.ascending h
  cases a; cases b; simp_all

end Table
end SandboxPods
