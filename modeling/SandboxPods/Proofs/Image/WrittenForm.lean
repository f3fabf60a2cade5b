import Mathlib.Data.List.Basic
import Mathlib.Data.List.TakeWhile
import SandboxPods.Image.Reference

/-!
# References and their written form

Each cut of a reference is undone by writing the pieces with the separator between them,
and the cut is found again in what is written as long as the pieces do not hold the
separator where it would be taken for another one. A reference whose pieces keep to this
is legible. A text is read as a reference just when it is the written form of a legible
one, and the reading adds the default tag where neither tag nor digest is written. So what
is read is written as it was, and read again as the same reference.
-/
namespace SandboxPods

namespace Text

theorem trim_eq_self {cs : List Char} (h : ∀ c ∈ cs, isBlank c = false) : trim cs = cs := by
  have start : trimStart cs = cs := by
    refine List.dropWhile_eq_self_iff.2 fun hl => ?_
    rw [h _ (List.getElem_mem hl)]
    exact Bool.false_ne_true
  have stop : cs.reverse.dropWhile isBlank = cs.reverse := by
    refine List.dropWhile_eq_self_iff.2 fun hl => ?_
    rw [h _ (List.mem_reverse.1 (List.getElem_mem hl))]
    exact Bool.false_ne_true
  rw [trim, start, trimEnd, stop, List.reverse_reverse]

/-- A character of a text in two parts stands in one of them. -/
theorem append_eq_append_cons {a b before after : List Char} {c : Char} :
    a ++ b = before ++ c :: after ↔
      (∃ rest, a = before ++ c :: rest ∧ after = rest ++ b) ∨
        ∃ lead, before = a ++ lead ∧ b = lead ++ c :: after := by
  rw [List.append_eq_append_iff]
  constructor
  · rintro (second | ⟨left, eq, rest⟩)
    · exact .inr second
    · cases left with
      | nil => exact .inr ⟨[], by simpa using eq.symm, rest.symm⟩
      | cons d left =>
          obtain ⟨rfl, rfl⟩ := List.cons.inj rest
          exact .inl ⟨left, eq, rfl⟩
  · rintro (⟨rest, rfl, rfl⟩ | second)
    · exact .inr ⟨c :: rest, rfl, rfl⟩
    · exact .inl second

end Text

namespace ImageReference
open Text

/-! ## The three cuts -/

/-- A component with its separator in front. -/
def following (sep : Char) : Option (List Char) → List Char
  | none => []
  | some cs => sep :: cs

/-- A component with its separator after it. -/
def preceding (sep : Char) : Option (List Char) → List Char
  | none => []
  | some cs => cs ++ [sep]

theorem toList_suffix (sep : Char) (o : Option String) :
    (suffix (String.singleton sep) o).toList = following sep (o.map String.toList) := by
  cases o with
  | none => rfl
  | some s => simp [suffix, following]

theorem map_toList_ofList (o : Option (List Char)) :
    (o.map String.ofList).map String.toList = o := by
  cases o with
  | none => rfl
  | some cs => simp

theorem cutDigest_append {reference : List Char} (digest : Option (List Char))
    (h : '@' ∉ reference) :
    cutDigest (reference ++ following '@' digest) = (reference, digest) := by
  cases digest with
  | none => rw [following, List.append_nil, cutDigest, splitFirst_eq_none_iff.2 h]
  | some digest => rw [following, cutDigest, splitFirst_append digest h]

theorem eq_of_cutDigest {cs reference : List Char} {digest : Option (List Char)}
    (h : cutDigest cs = (reference, digest)) :
    cs = reference ++ following '@' digest ∧ '@' ∉ reference := by
  unfold cutDigest at h
  split at h
  · next before after found =>
    cases h
    exact eq_of_splitFirst found
  · next none =>
    cases h
    exact ⟨(List.append_nil _).symm, splitFirst_eq_none_iff.1 none⟩

/-- The last colon has no slash after it. -/
def Tagged (cs : List Char) : Prop :=
  ∃ path tag, cs = path ++ ':' :: tag ∧ ':' ∉ tag ∧ '/' ∉ tag

theorem cutTag_append {path : List Char} {tag : Option (List Char)}
    (plain : ∀ t, tag = some t → ':' ∉ t ∧ '/' ∉ t) (untagged : tag = none → ¬ Tagged path) :
    cutTag (path ++ following ':' tag) = (path, tag) := by
  cases tag with
  | some t =>
      obtain ⟨colon, slash⟩ := plain t rfl
      simp [following, cutTag, splitLast_append path colon, slash]
  | none =>
      rw [following, List.append_nil, cutTag]
      split
      · next before after found =>
        obtain ⟨eq, colon⟩ := eq_of_splitLast found
        have slash : '/' ∈ after :=
          Classical.byContradiction fun no => untagged rfl ⟨before, after, eq, colon, no⟩
        rw [if_pos (List.contains_iff_mem.2 slash)]
      · rfl

theorem eq_of_cutTag {cs path : List Char} {tag : Option (List Char)}
    (h : cutTag cs = (path, tag)) :
    cs = path ++ following ':' tag ∧ (∀ t, tag = some t → ':' ∉ t ∧ '/' ∉ t) ∧
      (tag = none → ¬ Tagged path) := by
  unfold cutTag at h
  split at h
  · next before after found =>
    obtain ⟨eq, colon⟩ := eq_of_splitLast found
    split at h
    · next slash =>
      cases h
      refine ⟨(List.append_nil _).symm, nofun, fun _ tagged => ?_⟩
      -- The last colon is found once only, so the slash stands after the tag's colon as well.
      obtain ⟨before', after', eq', colon', slash'⟩ := tagged
      rw [eq', splitLast_append before' colon'] at found
      cases found
      exact slash' (List.contains_iff_mem.1 slash)
    · next slash =>
      cases h
      refine ⟨eq, fun t given => ?_, nofun⟩
      cases given
      exact ⟨colon, fun m => slash (List.contains_iff_mem.2 m)⟩
  · next none =>
    cases h
    refine ⟨(List.append_nil _).symm, nofun, fun _ tagged => ?_⟩
    obtain ⟨before, after, rfl, -, -⟩ := tagged
    exact splitLast_eq_none_iff.1 none (by simp)

theorem tagged_iff {cs : List Char} : Tagged cs ↔ (cutTag cs).2 ≠ none := by
  obtain ⟨path, tag, cut⟩ : ∃ a b, cutTag cs = (a, b) := ⟨_, _, rfl⟩
  obtain ⟨eq, plain, untagged⟩ := eq_of_cutTag cut
  rw [cut]
  cases tag with
  | none =>
      rw [following, List.append_nil] at eq
      rw [eq]
      exact ⟨fun tagged => (untagged rfl tagged).elim, fun ne => (ne rfl).elim⟩
  | some t => exact ⟨fun _ => nofun, fun _ => ⟨path, t, eq, plain t rfl⟩⟩

instance : DecidablePred Tagged := fun _ => decidable_of_iff' _ tagged_iff

/-- What stands before the first slash is a registry. -/
def Hosted (cs : List Char) : Prop :=
  ∃ host name, cs = host ++ '/' :: name ∧ '/' ∉ host ∧ isRegistry host = true

theorem cutRegistry_append {registry : Option (List Char)} {name : List Char}
    (host : ∀ h, registry = some h → '/' ∉ h ∧ isRegistry h = true)
    (hostless : registry = none → ¬ Hosted name) :
    cutRegistry (preceding '/' registry ++ name) = (registry, name) := by
  cases registry with
  | some h =>
      obtain ⟨slash, isHost⟩ := host h rfl
      have joined : preceding '/' (some h) ++ name = h ++ '/' :: name := by simp [preceding]
      rw [joined, cutRegistry, splitFirst_append name slash]
      exact if_pos isHost
  | none =>
      rw [preceding, List.nil_append, cutRegistry]
      split
      · next first rest found =>
        obtain ⟨eq, slash⟩ := eq_of_splitFirst found
        exact if_neg fun isHost => hostless rfl ⟨first, rest, eq, slash, isHost⟩
      · rfl

theorem eq_of_cutRegistry {cs name : List Char} {registry : Option (List Char)}
    (h : cutRegistry cs = (registry, name)) :
    cs = preceding '/' registry ++ name ∧
      (∀ h, registry = some h → '/' ∉ h ∧ isRegistry h = true) ∧
      (registry = none → ¬ Hosted name) := by
  unfold cutRegistry at h
  split at h
  · next first rest found =>
    obtain ⟨eq, slash⟩ := eq_of_splitFirst found
    split at h
    · next isHost =>
      cases h
      refine ⟨by simp [eq, preceding], fun t given => ?_, nofun⟩
      cases given
      exact ⟨slash, isHost⟩
    · next other =>
      cases h
      refine ⟨rfl, nofun, fun _ hosted => ?_⟩
      obtain ⟨first', rest', eq', slash', isHost⟩ := hosted
      rw [eq', splitFirst_append rest' slash'] at found
      cases found
      exact other isHost
  · next none =>
    cases h
    refine ⟨rfl, nofun, fun _ hosted => ?_⟩
    obtain ⟨first, rest, rfl, -, -⟩ := hosted
    exact splitFirst_eq_none_iff.1 none (by simp)

theorem isName_iff {cs : List Char} :
    isName cs = true ↔ cs ≠ [] ∧ cs.head? ≠ some '/' ∧ cs.getLast? ≠ some '/' := by
  simp [isName, and_assoc]

/-! ## Legible references -/

variable {r : ImageReference} {cs : List Char}

/-- Registry and name as written. -/
def path (r : ImageReference) : List Char :=
  preceding '/' (r.registry.map String.toList) ++ r.name.toList

/-- All that is written before the digest. -/
def undigested (r : ImageReference) : List Char :=
  r.path ++ following ':' (r.tag.map String.toList)

theorem toList_display (r : ImageReference) :
    r.display.toList = r.undigested ++ following '@' (r.digest.map String.toList) := by
  have registry : ((r.registry.map (· ++ "/")).getD "").toList =
      preceding '/' (r.registry.map String.toList) := by
    cases r.registry <;> simp [preceding]
  have tag := toList_suffix ':' r.tag
  have digest := toList_suffix '@' r.digest
  rw [display, String.toList_append, String.toList_append, String.toList_append, registry]
  exact congrArg₂ (_ ++ · ++ ·) tag digest

/-- Every component is found again in the written form. -/
structure Legible (r : ImageReference) : Prop where
  allowed : ∀ c ∈ r.display.toList, isAllowed c = true
  registry : ∀ host, r.registry = some host → '/' ∉ host.toList ∧ isRegistry host.toList = true
  hostless : r.registry = none → ¬ Hosted r.name.toList
  name : isName r.name.toList = true
  tag : ∀ tag, r.tag = some tag → ':' ∉ tag.toList ∧ '/' ∉ tag.toList
  untagged : r.tag = none → ¬ Tagged r.path
  digest : '@' ∉ r.undigested

theorem Legible.registry_chars (h : r.Legible) {host : List Char}
    (given : r.registry.map String.toList = some host) : '/' ∉ host ∧ isRegistry host = true := by
  obtain ⟨registry, here, rfl⟩ := Option.map_eq_some_iff.1 given
  exact h.registry registry here

theorem Legible.tag_chars (h : r.Legible) {tag : List Char}
    (given : r.tag.map String.toList = some tag) : ':' ∉ tag ∧ '/' ∉ tag := by
  obtain ⟨tag, here, rfl⟩ := Option.map_eq_some_iff.1 given
  exact h.tag tag here

/-- The reference with the default tag where neither tag nor digest is given. -/
def completed (r : ImageReference) : ImageReference :=
  { r with tag := r.tag.or (if r.digest.isNone then some defaultTag else none) }

theorem parseChars_display (h : r.Legible) : parseChars r.display.toList = .ok r.completed := by
  have nonempty : r.display.toList ≠ [] := by
    intro empty
    rw [toList_display, undigested, path] at empty
    simp only [List.append_eq_nil_iff] at empty
    exact (isName_iff.1 h.name).1 empty.1.1.2
  have digest := cutDigest_append (r.digest.map String.toList) h.digest
  have tag : cutTag r.undigested = (r.path, r.tag.map String.toList) :=
    cutTag_append (fun _ => h.tag_chars) fun none => h.untagged (Option.map_eq_none_iff.1 none)
  have registry : cutRegistry r.path = (r.registry.map String.toList, r.name.toList) :=
    cutRegistry_append (fun _ => h.registry_chars)
      fun none => h.hostless (Option.map_eq_none_iff.1 none)
  have allowed : r.display.toList.find? (fun c => !isAllowed c) = none := by
    simpa using h.allowed
  rw [← toList_display] at digest
  simp [parseChars, nonempty, allowed, digest, tag, registry, h.name, completed, Function.comp_def]

theorem exists_legible (h : parseChars cs = .ok r) :
    ∃ q : ImageReference, q.Legible ∧ cs = q.display.toList ∧ r = q.completed := by
  unfold parseChars at h
  split at h
  · cases h
  split at h
  · cases h
  next allowed =>
  obtain ⟨reference, digest, digestCut⟩ : ∃ a b, cutDigest cs = (a, b) := ⟨_, _, rfl⟩
  obtain ⟨path, tag, tagCut⟩ : ∃ a b, cutTag reference = (a, b) := ⟨_, _, rfl⟩
  obtain ⟨registry, name, registryCut⟩ : ∃ a b, cutRegistry path = (a, b) := ⟨_, _, rfl⟩
  simp only [digestCut, tagCut, registryCut] at h
  split at h
  · cases h
  next isName =>
  obtain ⟨rfl, free⟩ := eq_of_cutDigest digestCut
  obtain ⟨rfl, plain, untagged⟩ := eq_of_cutTag tagCut
  obtain ⟨rfl, host, hostless⟩ := eq_of_cutRegistry registryCut
  let q : ImageReference :=
    ⟨registry.map String.ofList, String.ofList name, tag.map String.ofList,
      digest.map String.ofList⟩
  have path : q.path = preceding '/' registry ++ name := by
    simp [q, ImageReference.path]
  have before : q.undigested = preceding '/' registry ++ name ++ following ':' tag := by
    rw [undigested, path, map_toList_ofList]
  have display : q.display.toList =
      preceding '/' registry ++ name ++ following ':' tag ++ following '@' digest := by
    rw [toList_display, before, map_toList_ofList]
  refine ⟨q, ⟨?_, ?_, ?_, ?_, ?_, ?_, ?_⟩, display.symm, ?_⟩
  · rw [display]
    intro c m
    simpa using List.find?_eq_none.1 allowed c m
  · intro given found
    obtain ⟨first, rfl, rfl⟩ := Option.map_eq_some_iff.1 found
    simpa using host first rfl
  · intro none
    simpa [q] using hostless (Option.map_eq_none_iff.1 none)
  · simpa [q] using isName
  · intro given found
    obtain ⟨t, rfl, rfl⟩ := Option.map_eq_some_iff.1 found
    simpa using plain t rfl
  · intro none
    rw [path]
    exact untagged (Option.map_eq_none_iff.1 none)
  · rw [before]
    exact free
  · cases h
    simp [q, completed]

/-! ## Reading what is written -/

theorem isBlank_of_isAllowed {c : Char} (h : isAllowed c = true) : isBlank c = false := by
  have ascii : 0x2d ≤ c.toNat ∧ c.toNat ≤ 0x7a := by
    simp only [isAllowed, Bool.or_eq_true, List.contains_iff_mem, List.mem_cons,
      List.not_mem_nil, or_false] at h
    rcases h with word | rfl | rfl | rfl | rfl | rfl | rfl
    · change ((decide (65 ≤ c.val ∧ c.val ≤ 90) ||
        decide (97 ≤ c.val) && decide (c.val ≤ 122)) ||
        decide (48 ≤ c.val) && decide (c.val ≤ 57)) = true at word
      simp only [Bool.or_eq_true, Bool.and_eq_true, decide_eq_true_eq,
        UInt32.le_iff_toNat_le] at word
      change ((65 ≤ c.toNat ∧ c.toNat ≤ 90) ∨ (97 ≤ c.toNat ∧ c.toNat ≤ 122)) ∨
        (48 ≤ c.toNat ∧ c.toNat ≤ 57) at word
      omega
    all_goals decide
  simp only [isBlank, Bool.or_eq_false_iff, Bool.and_eq_false_iff, beq_eq_false_iff_ne,
    decide_eq_false_iff_not]
  omega

theorem parse_display (h : r.Legible) : parse r.display = .ok r.completed := by
  rw [parse, trim_eq_self fun c m => isBlank_of_isAllowed (h.allowed c m)]
  exact parseChars_display h

theorem completed_of_given (h : r.tag ≠ none ∨ r.digest ≠ none) : r.completed = r := by
  obtain ⟨registry, name, tag, digest⟩ := r
  cases tag <;> cases digest <;> simp_all [completed]

/-- Completion changes nothing, or adds the default tag where nothing was given. -/
theorem completed_cases (r : ImageReference) :
    ((r.tag ≠ none ∨ r.digest ≠ none) ∧ r.completed = r) ∨
      (r.tag = none ∧ r.digest = none ∧ r.completed = { r with tag := some defaultTag }) := by
  by_cases given : r.tag ≠ none ∨ r.digest ≠ none
  · exact .inl ⟨given, completed_of_given given⟩
  · simp only [not_or, not_not] at given
    exact .inr ⟨given.1, given.2, by simp [completed, given]⟩

theorem completed_given (r : ImageReference) :
    r.completed.tag ≠ none ∨ r.completed.digest ≠ none := by
  rcases r.completed_cases with ⟨given, same⟩ | ⟨-, -, added⟩
  · rwa [same]
  · exact .inl (by simp [added])

/-- What has the default tag added is legible as well. -/
theorem Legible.completed (h : r.Legible) : r.completed.Legible := by
  rcases r.completed_cases with ⟨-, same⟩ | ⟨tag, digest, added⟩
  · rwa [same]
  · rw [added]
    have before : ({ r with tag := some defaultTag } : ImageReference).undigested =
        r.undigested ++ ":latest".toList := by
      simp [undigested, path, tag, following, defaultTag]
    have display : ({ r with tag := some defaultTag } : ImageReference).display.toList =
        r.display.toList ++ ":latest".toList := by
      rw [toList_display, toList_display, before, digest]
      simp [following]
    have latest : ∀ c ∈ ":latest".toList, isAllowed c = true := List.all_eq_true.1 rfl
    refine ⟨?_, h.registry, h.hostless, h.name, ?_, nofun, ?_⟩
    · rw [display]
      intro c m
      rcases List.mem_append.1 m with old | new
      · exact h.allowed c old
      · exact latest c new
    · intro t found
      cases found
      decide
    · rw [before]
      intro m
      rcases List.mem_append.1 m with old | new
      · exact h.digest old
      · exact absurd new (by decide)

/-! ## What a text carries -/

/-- What is written before the digest. -/
def beforeDigest (cs : List Char) : List Char := cs.takeWhile (· ≠ '@')

/-- The text has a tag in front of its digest, if any. -/
def CarriesTag (cs : List Char) : Prop := Tagged (beforeDigest cs)

def CarriesDigest (cs : List Char) : Prop := '@' ∈ cs

instance : DecidablePred CarriesTag := fun cs =>
  inferInstanceAs (Decidable (Tagged (beforeDigest cs)))

instance : DecidablePred CarriesDigest := fun cs => inferInstanceAs (Decidable ('@' ∈ cs))

namespace Legible
variable (h : r.Legible)
include h

theorem beforeDigest_eq : beforeDigest r.display.toList = r.undigested := by
  rw [toList_display, beforeDigest, List.takeWhile_append_of_pos]
  · cases r.digest <;> simp [following]
  · intro c m
    have : c ≠ '@' := fun at_sign => h.digest (at_sign ▸ m)
    simpa using this

theorem carriesTag_iff : CarriesTag r.display.toList ↔ r.tag ≠ none := by
  rw [CarriesTag, h.beforeDigest_eq, undigested]
  cases tag : r.tag with
  | none => simpa [following] using h.untagged tag
  | some t => simpa using ⟨r.path, t.toList, rfl, h.tag t tag⟩

theorem carriesDigest_iff : CarriesDigest r.display.toList ↔ r.digest ≠ none := by
  rw [CarriesDigest, toList_display, List.mem_append]
  cases digest : r.digest with
  | none => simpa [following] using h.digest
  | some d => simp [following]

end Legible

/-- The default tag is all that reading adds to what is written. -/
theorem Legible.display_completed (h : r.Legible) :
    r.completed.display =
      if CarriesTag r.display.toList ∨ CarriesDigest r.display.toList then r.display
      else r.display ++ ":latest" := by
  simp only [h.carriesTag_iff, h.carriesDigest_iff]
  rcases r.completed_cases with ⟨given, same⟩ | ⟨tag, digest, added⟩
  · rw [if_pos given, same]
  · rw [added, if_neg (by simp [tag, digest])]
    simp [display, tag, digest, suffix, defaultTag]

end ImageReference

/-! ## Sources -/

namespace ImageSource

/-- The reference in what follows the scheme. -/
def written (rest : List Char) : List Char :=
  (rest.map (fun c => if c = '#' then ':' else c)).dropWhile (· == '/')

theorem parse_managed_iff {uri : String} {r : ImageReference} :
    parse uri = .ok (.managed r) ↔
      ∃ rest, uri.toList = scheme ++ rest ∧
        ImageReference.parse (String.ofList (written rest)) = .ok r := by
  unfold parse
  cases found : scheme.isPrefixOf? uri.toList with
  | none =>
      refine ⟨nofun, fun ⟨rest, eq, _⟩ => ?_⟩
      rw [List.isPrefixOf?_eq_some_iff_append_eq.2 eq.symm] at found
      cases found
  | some after =>
      have eq := (List.isPrefixOf?_eq_some_iff_append_eq.1 found).symm
      constructor
      · intro h
        change (ImageReference.parse (String.ofList (written after))).map managed = _ at h
        cases read : ImageReference.parse (String.ofList (written after)) with
        | error e =>
            rw [read] at h
            cases h
        | ok q =>
            rw [read] at h
            cases h
            exact ⟨after, eq, read⟩
      · rintro ⟨rest, eq', read⟩
        rw [eq, List.append_cancel_left_eq] at eq'
        rw [← eq'] at read
        exact congrArg (Except.map managed) read

end ImageSource

namespace ImageReference
open Text
variable {r : ImageReference}

theorem ne_nil_of_isRegistry {cs : List Char} (h : isRegistry cs = true) : cs ≠ [] := by
  rintro rfl
  exact absurd h (by decide)

/-- A legible reference does not begin with a slash. -/
theorem Legible.path_eq_cons (h : r.Legible) : ∃ c rest, r.path = c :: rest ∧ c ≠ '/' := by
  cases registry : r.registry with
  | some host =>
      obtain ⟨slash, isHost⟩ := h.registry host registry
      obtain ⟨c, rest, first⟩ := List.exists_cons_of_ne_nil (ne_nil_of_isRegistry isHost)
      refine ⟨c, rest ++ '/' :: r.name.toList, by simp [path, registry, preceding, first], ?_⟩
      rintro rfl
      exact slash (first ▸ List.mem_cons_self)
  | none =>
      obtain ⟨nonempty, slash, -⟩ := isName_iff.1 h.name
      obtain ⟨c, rest, first⟩ := List.exists_cons_of_ne_nil nonempty
      refine ⟨c, rest, by simp [path, registry, preceding, first], ?_⟩
      rintro rfl
      exact slash (by rw [first, List.head?_cons])

theorem Legible.written_display (h : r.Legible) :
    ImageSource.written ("///".toList ++ r.display.toList) = r.display.toList := by
  obtain ⟨c, rest, first, slash⟩ := h.path_eq_cons
  have numberless : r.display.toList.map (fun c => if c = '#' then ':' else c) =
      r.display.toList := by
    refine (List.map_congr_left fun c m => if_neg ?_).trans (List.map_id _)
    rintro rfl
    exact absurd (h.allowed _ m) (by decide)
  have slashless : r.display.toList.dropWhile (· == '/') = r.display.toList := by
    rw [toList_display, undigested, first]
    exact List.dropWhile_cons_of_neg (by simpa using slash)
  rw [ImageSource.written, List.map_append, numberless]
  exact slashless

/-- What is read is written as it was, up to the default tag, and is read again as the same
reference, alone or as the image of a source. -/
theorem display_round_trip {s : String} (h : parse s = .ok r) :
    (r.display = if CarriesTag (trim s.toList) ∨ CarriesDigest (trim s.toList)
      then String.ofList (trim s.toList) else String.ofList (trim s.toList) ++ ":latest") ∧
    parse r.display = .ok r ∧
    ImageSource.parse ("docker:///" ++ r.display) = .ok (.managed r) := by
  obtain ⟨q, legible, written, rfl⟩ := exists_legible h
  have again : parse q.completed.display = .ok q.completed := by
    rw [parse_display legible.completed, completed_of_given q.completed_given]
  refine ⟨?_, again, ImageSource.parse_managed_iff.2
    ⟨"///".toList ++ q.completed.display.toList, ?_, ?_⟩⟩
  · rw [written, String.ofList_toList]
    exact legible.display_completed
  · have slashes : "docker:///".toList = ImageSource.scheme ++ "///".toList := rfl
    rw [String.toList_append, slashes, List.append_assoc]
  · rw [legible.completed.written_display, String.ofList_toList]
    exact again

/-- A colon of the registry's port is no tag, so the default tag is added. -/
theorem port_written_without_tag :
    let read := ImageReference.mk (some "localhost:5000") "team/app" (some "latest") none
    parse "\tlocalhost:5000/team/app " = .ok read ∧
      read.display = "localhost:5000/team/app:latest" ∧
      parse "localhost:5000/team/app:latest" = .ok read ∧
      ImageSource.parse "docker:///localhost:5000/team/app:latest" = .ok (.managed read) := by
  have read : parse "\tlocalhost:5000/team/app " =
      .ok ⟨some "localhost:5000", "team/app", some "latest", none⟩ := rfl
  obtain ⟨written, again, managed⟩ := display_round_trip read
  rw [if_neg (by decide)] at written
  exact ⟨read, written, again, managed⟩

end ImageReference
end SandboxPods
