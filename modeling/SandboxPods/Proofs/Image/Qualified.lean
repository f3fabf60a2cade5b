import SandboxPods.Proofs.Image.WrittenForm

/-!
# Qualified names

The qualified name of a reference is the written form of the reference with its registry
and, for an official image, the library spelled out. Spelling them out adds a slash in
front of the name only, so the tag's colon stays where it is and the reference stays
legible. So qualified names are read back, and qualifying them again changes nothing.
-/
namespace SandboxPods.ImageReference
open Text

variable {r : ImageReference} {c : Char}

/-- A slash ends all that stands before it, as far as a tag is concerned. -/
theorem tagged_after_slash {before after : List Char} :
    Tagged (before ++ '/' :: after) ↔ Tagged after := by
  constructor
  · rintro ⟨path, tag, eq, colon, slash⟩
    rcases append_eq_append_cons.1 eq with ⟨rest, -, rfl⟩ | ⟨lead, -, rest⟩
    · exact absurd (by simp) slash
    · cases lead with
      | nil => exact absurd (List.cons.inj rest).1 (by decide)
      | cons first lead => exact ⟨lead, tag, (List.cons.inj rest).2, colon, slash⟩
  · rintro ⟨path, tag, rfl, plain⟩
    exact ⟨before ++ '/' :: path, tag, by simp, plain⟩

theorem tagged_path (r : ImageReference) : Tagged r.path ↔ Tagged r.name.toList := by
  cases registry : r.registry with
  | none => simp [path, registry, preceding]
  | some host =>
      have eq : r.path = host.toList ++ '/' :: r.name.toList := by
        simp [path, registry, preceding]
      rw [eq, tagged_after_slash]

/-- The image is an official one of the default registry. -/
def IsOfficial (r : ImageReference) : Prop :=
  r.registry.getD "docker.io" = "docker.io" ∧ '/' ∉ r.name.toList

instance (r : ImageReference) : Decidable r.IsOfficial :=
  inferInstanceAs (Decidable (r.registry.getD "docker.io" = "docker.io" ∧ '/' ∉ r.name.toList))

/-- The reference with its registry and library spelled out. -/
def spelledOut (r : ImageReference) : ImageReference :=
  { r with
    registry := some (r.registry.getD "docker.io")
    name := if r.IsOfficial then "library/" ++ r.name else r.name }

theorem display_spelledOut (r : ImageReference) : r.spelledOut.display = r.qualified := by
  have official : r.IsOfficial ↔
      r.registry.getD defaultRegistry = defaultRegistry ∧ ¬ r.name.toList.contains '/' := by
    simp [IsOfficial, defaultRegistry]
  have name : r.spelledOut.name = if r.registry.getD defaultRegistry = defaultRegistry ∧
      ¬ r.name.toList.contains '/' then "library/" ++ r.name else r.name :=
    if_congr official rfl rfl
  rw [display, name]
  rfl

theorem not_isOfficial_spelledOut (r : ImageReference) : ¬ r.spelledOut.IsOfficial := by
  intro ⟨registry, slash⟩
  have same : r.spelledOut.registry.getD "docker.io" = r.registry.getD "docker.io" := rfl
  by_cases official : r.IsOfficial
  · simp [spelledOut, official] at slash
  · have name : r.spelledOut.name = r.name := if_neg official
    exact official ⟨same ▸ registry, name ▸ slash⟩

theorem qualified_spelledOut (r : ImageReference) : r.spelledOut.qualified = r.qualified := by
  have again : r.spelledOut.spelledOut = r.spelledOut := by
    rw [spelledOut, if_neg r.not_isOfficial_spelledOut]
    rfl
  rw [← display_spelledOut, again, display_spelledOut]

theorem name_spelledOut (r : ImageReference) :
    r.spelledOut.name.toList = r.name.toList ∨
      r.spelledOut.name.toList = "library/".toList ++ r.name.toList := by
  by_cases official : r.IsOfficial
  · right
    rw [spelledOut, if_pos official, String.toList_append]
  · left
    rw [spelledOut, if_neg official]

/-- Spelling out writes nothing new but the default registry and the library. -/
theorem mem_path_spelledOut (h : c ∈ r.spelledOut.path) :
    c ∈ r.path ∨ c ∈ "docker.io/library/".toList := by
  rcases List.mem_append.1 h with host | name
  · change c ∈ (r.registry.getD "docker.io").toList ++ ['/'] at host
    cases registry : r.registry with
    | none =>
        rw [registry] at host
        exact .inr (List.mem_append_left "library/".toList host)
    | some first =>
        rw [registry] at host
        left
        rw [path, registry]
        exact List.mem_append_left _ host
  · rcases r.name_spelledOut with same | longer
    · rw [same] at name
      exact .inl (List.mem_append_right _ name)
    · rw [longer] at name
      rcases List.mem_append.1 name with library | name
      · exact .inr (List.mem_append_right "docker.io/".toList library)
      · exact .inl (List.mem_append_right _ name)

theorem mem_undigested_spelledOut (h : c ∈ r.spelledOut.undigested) :
    c ∈ r.undigested ∨ c ∈ "docker.io/library/".toList := by
  rcases List.mem_append.1 h with path | tag
  · exact (mem_path_spelledOut path).imp_left (List.mem_append_left _)
  · exact .inl (List.mem_append_right _ tag)

theorem mem_display_spelledOut (h : c ∈ r.spelledOut.display.toList) :
    c ∈ r.display.toList ∨ c ∈ "docker.io/library/".toList := by
  rw [toList_display] at h ⊢
  rcases List.mem_append.1 h with before | digest
  · exact (mem_undigested_spelledOut before).imp_left (List.mem_append_left _)
  · exact .inl (List.mem_append_right _ digest)

theorem isName_library {cs : List Char} (h : isName cs = true) :
    isName ("library/".toList ++ cs) = true := by
  obtain ⟨nonempty, -, last⟩ := isName_iff.1 h
  have same : ("library/".toList ++ cs).getLast? = cs.getLast? := by
    obtain ⟨c, rest, rfl⟩ := List.exists_cons_of_ne_nil nonempty
    simp
  exact isName_iff.2 ⟨by simp, by simp, same ▸ last⟩

/-- A spelled out reference is legible if the reference is. -/
theorem Legible.spelledOut (h : r.Legible) : r.spelledOut.Legible where
  allowed := by
    have added : ∀ c ∈ "docker.io/library/".toList, isAllowed c = true := List.all_eq_true.1 rfl
    intro c m
    exact (mem_display_spelledOut m).elim (h.allowed c) (added c)
  registry := by
    intro host given
    cases given
    cases registry : r.registry with
    | none => decide
    | some host => exact h.registry host registry
  hostless := nofun
  name := by
    rcases r.name_spelledOut with same | longer
    · rw [same]
      exact h.name
    · rw [longer]
      exact isName_library h.name
  tag := h.tag
  untagged := by
    intro none
    have untagged := h.untagged none
    rw [tagged_path] at untagged ⊢
    rcases r.name_spelledOut with same | longer
    · rwa [same]
    · have library : "library/".toList ++ r.name.toList =
          "library".toList ++ '/' :: r.name.toList := rfl
      rwa [longer, library, tagged_after_slash]
  digest := by
    intro m
    exact (mem_undigested_spelledOut m).elim h.digest (by decide)

/-- Qualified names are read as the reference with its registry and library spelled out, which
has the same qualified name. -/
theorem qualified_normal_form {s : String} (h : parse s = .ok r) :
    ∃ q, parse r.qualified = .ok q ∧ q.registry = some (r.registry.getD "docker.io") ∧
      q.name = (if r.registry.getD "docker.io" = "docker.io" ∧ '/' ∉ r.name.toList
        then "library/" ++ r.name else r.name) ∧
      q.tag = r.tag ∧ q.digest = r.digest ∧ q.qualified = r.qualified := by
  obtain ⟨p, legible, -, rfl⟩ := exists_legible h
  have given : p.completed.spelledOut.tag ≠ none ∨ p.completed.spelledOut.digest ≠ none :=
    p.completed_given
  refine ⟨p.completed.spelledOut, ?_, rfl, rfl, rfl, rfl, qualified_spelledOut _⟩
  rw [← display_spelledOut, parse_display legible.completed.spelledOut, completed_of_given given]

/-- A colon in the name of an official image stays in the name. -/
theorem official_name_with_colon :
    let read := ImageReference.mk (some "docker.io") "app:1" (some "2") (some "sha256:0f")
    parse "docker.io/app:1:2@sha256:0f" = .ok read ∧
      ∃ q, parse "docker.io/library/app:1:2@sha256:0f" = .ok q ∧ q.registry = some "docker.io" ∧
        q.name = "library/app:1" ∧ q.tag = some "2" ∧ q.digest = some "sha256:0f" ∧
        q.qualified = "docker.io/library/app:1:2@sha256:0f" := by
  have read : parse "docker.io/app:1:2@sha256:0f" =
      .ok ⟨some "docker.io", "app:1", some "2", some "sha256:0f"⟩ := rfl
  obtain ⟨q, again, registry, name, tag, digest, same⟩ := qualified_normal_form read
  have qualified : (ImageReference.mk (some "docker.io") "app:1" (some "2")
      (some "sha256:0f")).qualified = "docker.io/library/app:1:2@sha256:0f" := by decide
  rw [qualified] at again same
  rw [if_pos (by decide)] at name
  exact ⟨read, q, again, registry, name, tag, digest, same⟩

end SandboxPods.ImageReference
