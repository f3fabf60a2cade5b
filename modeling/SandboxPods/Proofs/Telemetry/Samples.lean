import Mathlib.Data.List.Induction
import Mathlib.Data.List.Nodup
import SandboxPods.Proofs.Stores
import SandboxPods.Telemetry.Summary

/-!
# Which pod a sample is taken from

A summary covers every namespace of the node, while samples go by the names of pods alone: the
sample of a requested name is that of the last pod of the name which has an app container. By
the order of its pods a summary therefore chooses among all pods of a name. No two of them are
of one namespace, so it matters just where pods of different namespaces share a name.
-/
namespace SandboxPods

/-- The pod has an app container. -/
def PodStats.HasApp (pod : PodStats) : Prop := ∃ c ∈ pod.containers, c.name = Summary.appContainer

instance (pod : PodStats) : Decidable pod.HasApp :=
  inferInstanceAs (Decidable (∃ c ∈ pod.containers, c.name = Summary.appContainer))

/-- What tells the pods of a node apart. -/
def PodStats.key (pod : PodStats) : String × String := (pod.podNamespace, pod.name)

namespace Summary
variable {s t : Summary} {handles : List String} {now : Timestamp} {name : String}
variable {pod p q : PodStats} {x y : Sample}

/-- The pods of a name that have an app container, in the order of the summary. -/
def podsOf (s : Summary) (name : String) : List PodStats :=
  s.pods.filter fun pod => pod.name = name ∧ pod.HasApp

theorem mem_podsOf : pod ∈ s.podsOf name ↔ pod ∈ s.pods ∧ pod.name = name ∧ pod.HasApp := by
  simp [podsOf]

theorem exists_sampleOf_iff (now : Timestamp) : (∃ x, sampleOf now pod = some x) ↔ pod.HasApp := by
  rw [← Option.ne_none_iff_exists']
  simp [sampleOf, PodStats.HasApp]

/-- What one pod of the summary adds to the samples. -/
def entryOf (handles : List String) (now : Timestamp) (pod : PodStats) : Option (String × Sample) :=
  if handles.contains pod.name then (sampleOf now pod).map (fun x => (pod.name, x)) else none

theorem samples_eq (s : Summary) (handles : List String) (now : Timestamp) :
    s.samples handles now = Table.ofList (s.pods.filterMap (entryOf handles now)) := rfl

theorem entryOf_eq_none (h : ¬ (pod.name ∈ handles ∧ pod.HasApp)) :
    entryOf handles now pod = none := by
  by_cases requested : pod.name ∈ handles
  · have without : ¬ ∃ x, sampleOf now pod = some x :=
      fun given => h ⟨requested, (exists_sampleOf_iff now).1 given⟩
    rw [← Option.ne_none_iff_exists', not_not] at without
    simp [entryOf, without]
  · simp [entryOf, requested]

theorem entryOf_eq_some (requested : pod.name ∈ handles) (given : sampleOf now pod = some x) :
    entryOf handles now pod = some (pod.name, x) := by
  simp [entryOf, requested, given]

/-- The sample of a requested name is that of the last pod of the name with an app container. -/
theorem get?_samples (s : Summary) (handles : List String) (now : Timestamp) (name : String) :
    (s.samples handles now).get? name =
      if name ∈ handles then (s.podsOf name).getLast?.bind (sampleOf now) else none := by
  obtain ⟨pods⟩ := s
  rw [samples_eq, podsOf]
  -- The last pod is the one that counts, so pods are added at the end.
  induction pods using List.reverseRecOn with
  | nil => simp [Table.ofList]
  | append_singleton pods pod ih =>
      simp only at ih ⊢
      rw [List.filterMap_append, List.filter_append]
      by_cases counts : pod.name ∈ handles ∧ pod.HasApp
      · obtain ⟨requested, app⟩ := counts
        obtain ⟨x, given⟩ := (exists_sampleOf_iff now).2 app
        have added : [pod].filterMap (entryOf handles now) = [(pod.name, x)] := by
          simp [entryOf_eq_some requested given]
        rw [added, Table.get?_ofList_concat, ih]
        by_cases same : name = pod.name
        · simp [same, requested, app, given]
        · simp [same, Ne.symm same]
      · have added : [pod].filterMap (entryOf handles now) = [] := by
          simp [entryOf_eq_none counts]
        rw [added, List.append_nil, ih]
        by_cases here : pod.name = name ∧ pod.HasApp
        · have unrequested : name ∉ handles := fun h => counts ⟨here.1 ▸ h, here.2⟩
          rw [if_neg unrequested, if_neg unrequested]
        · simp [here]

/-- Requests count as a set. -/
theorem samples_congr {others : List String} (same : ∀ name, name ∈ handles ↔ name ∈ others) :
    s.samples handles now = s.samples others now := by
  apply Table.ext_get?
  intro name
  rw [get?_samples, get?_samples]
  simp only [same name]

theorem get?_samples_eq_some_iff : (s.samples handles now).get? name = some x ↔
    name ∈ handles ∧ ∃ pod, (s.podsOf name).getLast? = some pod ∧ sampleOf now pod = some x := by
  rw [get?_samples, Option.ite_none_right_eq_some, Option.bind_eq_some_iff]

/-- A sample is of a pod of the requested name. -/
theorem exists_pod_of_get?_samples (found : (s.samples handles now).get? name = some x) :
    name ∈ handles ∧ ∃ pod ∈ s.pods, pod.name = name ∧ sampleOf now pod = some x := by
  obtain ⟨requested, pod, last, given⟩ := get?_samples_eq_some_iff.1 found
  obtain ⟨listed, named, -⟩ := mem_podsOf.1 (List.mem_of_getLast? last)
  exact ⟨requested, pod, listed, named, given⟩

/-! ## The order of the pods -/

/-- Any pod can be made the last one. -/
theorem exists_perm_get?_samples (requested : pod.name ∈ handles) (listed : pod ∈ s.pods)
    (given : sampleOf now pod = some x) :
    ∃ t : Summary, t.pods.Perm s.pods ∧ (t.samples handles now).get? pod.name = some x := by
  refine ⟨⟨s.pods.erase pod ++ [pod]⟩, ?_, ?_⟩
  · exact (List.perm_append_singleton pod _).trans (List.perm_cons_erase listed).symm
  · have app : pod.HasApp := (exists_sampleOf_iff now).1 ⟨x, given⟩
    have last : (Summary.podsOf ⟨s.pods.erase pod ++ [pod]⟩ pod.name).getLast? = some pod := by
      simp [podsOf, app]
    exact get?_samples_eq_some_iff.2 ⟨requested, pod, last, given⟩

/-- The samples a name can have over all orders are those of its pods. -/
theorem exists_perm_get?_samples_iff :
    (∃ t : Summary, t.pods.Perm s.pods ∧ (t.samples handles now).get? name = some x) ↔
      name ∈ handles ∧ ∃ pod ∈ s.pods, pod.name = name ∧ sampleOf now pod = some x := by
  constructor
  · intro reordered
    obtain ⟨t, perm, found⟩ := reordered
    obtain ⟨requested, pod, listed, named, given⟩ := exists_pod_of_get?_samples found
    exact ⟨requested, pod, perm.mem_iff.1 listed, named, given⟩
  · intro possible
    obtain ⟨requested, pod, listed, rfl, given⟩ := possible
    exact exists_perm_get?_samples requested listed given

/-- The last element does not matter to a function that is constant on the list. -/
theorem getLast?_bind_eq_of_perm {α β : Type} {f : α → Option β} {l m : List α} (perm : l.Perm m)
    (constant : ∀ a ∈ m, ∀ b ∈ m, f a = f b) : l.getLast?.bind f = m.getLast?.bind f := by
  by_cases empty : m = []
  · subst empty
    rw [perm.eq_nil]
  · have nonempty : l ≠ [] := fun h => empty (h ▸ perm).nil_eq.symm
    rw [List.getLast?_eq_some_getLast nonempty, List.getLast?_eq_some_getLast empty]
    exact constant _ (perm.mem_iff.1 (List.getLast_mem nonempty)) _ (List.getLast_mem empty)

/-- Two pods of a requested name that lie in different namespaces and give different samples. -/
structure Rivals (s : Summary) (handles : List String) (now : Timestamp) (p q : PodStats) :
    Prop where
  left : p ∈ s.pods
  right : q ∈ s.pods
  requested : p.name ∈ handles
  named : p.name = q.name
  apart : p.podNamespace ≠ q.podNamespace
  differ : ∃ x y, sampleOf now p = some x ∧ sampleOf now q = some y ∧ x ≠ y

/-- Without rivals the pods of a requested name give one sample. -/
theorem sampleOf_eq (distinct : (s.pods.map PodStats.key).Nodup)
    (peaceful : ∀ p q, ¬ s.Rivals handles now p q) (requested : name ∈ handles)
    (hp : p ∈ s.podsOf name) (hq : q ∈ s.podsOf name) : sampleOf now p = sampleOf now q := by
  obtain ⟨left, rfl, appP⟩ := mem_podsOf.1 hp
  obtain ⟨right, named, appQ⟩ := mem_podsOf.1 hq
  obtain ⟨x, givenP⟩ := (exists_sampleOf_iff now).2 appP
  obtain ⟨y, givenQ⟩ := (exists_sampleOf_iff now).2 appQ
  by_cases together : p.podNamespace = q.podNamespace
  · have same : p = q := List.inj_on_of_nodup_map distinct left right
      (Prod.ext together named.symm)
    rw [same]
  · by_contra other
    have differ : x ≠ y := fun h => other (by rw [givenP, givenQ, h])
    exact peaceful p q ⟨left, right, requested, named.symm, together, x, y, givenP, givenQ, differ⟩

theorem samples_eq_of_perm (distinct : (s.pods.map PodStats.key).Nodup)
    (peaceful : ∀ p q, ¬ s.Rivals handles now p q) (perm : t.pods.Perm s.pods) :
    t.samples handles now = s.samples handles now := by
  apply Table.ext_get?
  intro name
  rw [get?_samples, get?_samples]
  split
  · next requested =>
    exact getLast?_bind_eq_of_perm (perm.filter _) fun p hp q hq =>
      sampleOf_eq distinct peaceful requested hp hq
  · rfl

theorem Rivals.exists_perm_ne (rivals : s.Rivals handles now p q) :
    ∃ t : Summary, t.pods.Perm s.pods ∧ t.samples handles now ≠ s.samples handles now := by
  obtain ⟨left, right, requested, named, -, x, y, givenP, givenQ, differ⟩ := rivals
  obtain ⟨t, permT, foundT⟩ := exists_perm_get?_samples requested left givenP
  obtain ⟨u, permU, foundU⟩ := exists_perm_get?_samples (named ▸ requested) right givenQ
  -- Of two orders with different samples one differs from the given order.
  by_cases unchanged : t.samples handles now = s.samples handles now
  · refine ⟨u, permU, fun same => differ ?_⟩
    rw [← named, same, ← unchanged, foundT] at foundU
    exact Option.some.inj foundU
  · exact ⟨t, permT, unchanged⟩

/-- The order of the pods chooses each name's sample among those of all its pods, and it matters
just where there are rivals. -/
theorem samples_across_orders (distinct : (s.pods.map PodStats.key).Nodup) :
    (∀ name x,
      (∃ t : Summary, t.pods.Perm s.pods ∧ (t.samples handles now).get? name = some x) ↔
        name ∈ handles ∧ ∃ pod ∈ s.pods, pod.name = name ∧ sampleOf now pod = some x) ∧
    ((∃ t : Summary, t.pods.Perm s.pods ∧ t.samples handles now ≠ s.samples handles now) ↔
      ∃ p q, s.Rivals handles now p q) := by
  refine ⟨fun name x => exists_perm_get?_samples_iff, ?_, ?_⟩
  · intro reordered
    obtain ⟨t, perm, changed⟩ := reordered
    by_contra peaceful
    exact changed (samples_eq_of_perm distinct (fun p q h => peaceful ⟨p, q, h⟩) perm)
  · intro divided
    obtain ⟨p, q, rivals⟩ := divided
    exact rivals.exists_perm_ne

/-- A pod that is no sandbox and has the name of one, and the sandbox's own pod. -/
def strangerAndWeb : List PodStats :=
  [{ name := "web", podNamespace := "batch", started := none, rx := none, tx := none
     containers := [⟨"app", none, some 7⟩], ephemeralUsed := none },
   { name := "web", podNamespace := "cf-workloads", started := none, rx := none, tx := none
     containers := [⟨"app", none, some 300⟩], ephemeralUsed := none }]

theorem stranger_matters : (strangerAndWeb.map PodStats.key).Nodup ∧
    ∃ t : Summary, t.pods.Perm strangerAndWeb ∧
      t.samples ["web"] ⟨0, 0⟩ ≠ Summary.samples ⟨strangerAndWeb⟩ ["web"] ⟨0, 0⟩ := by
  have distinct : (strangerAndWeb.map PodStats.key).Nodup := by decide
  have rivals : Rivals ⟨strangerAndWeb⟩ ["web"] ⟨0, 0⟩ strangerAndWeb[0] strangerAndWeb[1] :=
    ⟨by decide, by decide, by decide, rfl, by decide, { memory := 7 }, { memory := 300 },
      by decide, by decide, by decide⟩
  exact ⟨distinct, (samples_across_orders (s := ⟨strangerAndWeb⟩) distinct).2.2 ⟨_, _, rivals⟩⟩

/-- The sandbox's figures are replaced by those of a pod of another namespace. -/
theorem figures_replaced : (strangerAndWeb.map PodStats.key).Nodup ∧
    strangerAndWeb.reverse.Perm strangerAndWeb ∧
    (Summary.samples ⟨strangerAndWeb⟩ ["web"] ⟨0, 0⟩).get? "web" = some { memory := 300 } ∧
    (Summary.samples ⟨strangerAndWeb.reverse⟩ ["web"] ⟨0, 0⟩).get? "web" =
      some { memory := 7 } := by
  refine ⟨by decide, List.reverse_perm _, ?_, ?_⟩ <;> decide

end Summary
end SandboxPods
