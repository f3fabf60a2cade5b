import SandboxPods.Proofs.Image.WrittenForm

/-!
# Well-formed references

A reference is well formed when no component that it has is empty, its name is made of
segments without a colon, and its tag is plain. Reading promises a part of this for every
text: a registry and a name that are not empty, and a plain tag. The rest is left to the
text. There are four ways of writing a reference that reading accepts and that is not well
formed, one for each rule: a colon with no tag after it, an at sign with no digest after it,
two slashes in a row, and a colon that belongs neither to a port nor to a tag.
-/
namespace SandboxPods

namespace Text

theorem nil_mem_splitAll {sep : Char} {cs : List Char} :
    [] ∈ splitAll sep cs ↔
      cs = [] ∨ cs.head? = some sep ∨ [] ∈ (splitAll sep cs).tail := by
  cases cs with
  | nil => simp [splitAll]
  | cons c rest =>
      unfold splitAll
      by_cases h : c = sep
      · simp [h]
      · cases pieces : splitAll sep rest with
        | nil => exact absurd pieces (splitAll_ne_nil sep rest)
        | cons piece pieces => simp [h]

/-- An empty piece that is not the first one stands after a separator, up to the next one or the
end. -/
theorem nil_mem_tail_splitAll {sep : Char} {cs : List Char} :
    [] ∈ (splitAll sep cs).tail ↔
      ∃ before after, cs = before ++ sep :: after ∧ (after = [] ∨ after.head? = some sep) := by
  induction cs with
  | nil => simp [splitAll]
  | cons c rest ih =>
      by_cases h : c = sep
      · have tail : (splitAll sep (c :: rest)).tail = splitAll sep rest := by simp [splitAll, h]
        rw [tail, nil_mem_splitAll, ih]
        constructor
        · rintro (empty | next | ⟨before, after, rfl, ends⟩)
          · exact ⟨[], rest, by rw [h]; rfl, .inl empty⟩
          · exact ⟨[], rest, by rw [h]; rfl, .inr next⟩
          · exact ⟨c :: before, after, rfl, ends⟩
        · rintro ⟨before, after, eq, ends⟩
          cases before with
          | nil =>
              obtain ⟨-, rfl⟩ := List.cons.inj eq
              exact ends.imp_right .inl
          | cons d before => exact .inr (.inr ⟨before, after, (List.cons.inj eq).2, ends⟩)
      · have tail : (splitAll sep (c :: rest)).tail = (splitAll sep rest).tail := by
          cases pieces : splitAll sep rest with
          | nil => exact absurd pieces (splitAll_ne_nil sep rest)
          | cons piece pieces => simp [splitAll, h, pieces]
        rw [tail, ih]
        constructor
        · rintro ⟨before, after, rfl, ends⟩
          exact ⟨c :: before, after, rfl, ends⟩
        · rintro ⟨before, after, eq, ends⟩
          cases before with
          | nil => exact absurd (List.cons.inj eq).1 h
          | cons d before => exact ⟨before, after, (List.cons.inj eq).2, ends⟩

end Text

namespace ImageReference
open Text

variable {r : ImageReference} {cs : List Char}

/-- No component is empty, the name is made of segments without a colon, and the tag is plain. -/
structure WellFormed (r : ImageReference) : Prop where
  registry : r.registry ≠ some ""
  name : r.name ≠ ""
  tag : r.tag ≠ some ""
  digest : r.digest ≠ some ""
  colon : ':' ∉ r.name.toList
  segments : [] ∉ splitAll '/' r.name.toList
  plain : ∀ tag, r.tag = some tag → ':' ∉ tag.toList ∧ '/' ∉ tag.toList

/-! ## Four ways of writing -/

/-- A colon with no tag after it. -/
def OpenTag (cs : List Char) : Prop := (beforeDigest cs).getLast? = some ':'

/-- An at sign with no digest after it. -/
def OpenDigest (cs : List Char) : Prop := cs = beforeDigest cs ++ ['@']

/-- A colon that opens no tag, since a colon or a slash comes later, and belongs to no registry,
since it is not followed by the first slash. -/
def StrayColon (cs : List Char) : Prop :=
  ∃ before after, beforeDigest cs = before ++ ':' :: after ∧
    (':' ∈ after ∨ '/' ∈ after) ∧ ('/' ∈ before ∨ '/' ∉ after)

def DoubleSlash (cs : List Char) : Prop :=
  ∃ before after, beforeDigest cs = before ++ '/' :: '/' :: after

/-- The text is read as the reference, alone or as the image of a source. -/
inductive ReadFrom : List Char → ImageReference → Prop
  | reference {s : String} {r : ImageReference} : parse s = .ok r → ReadFrom (trim s.toList) r
  | source {uri : String} {rest : List Char} {r : ImageReference} :
      uri.toList = ImageSource.scheme ++ rest → ImageSource.parse uri = .ok (.managed r) →
      ReadFrom (trim (ImageSource.written rest)) r

theorem ReadFrom.parseChars_eq (h : ReadFrom cs r) : parseChars cs = .ok r := by
  cases h with
  | reference read => exact read
  | @source uri rest r eq read =>
      obtain ⟨rest', eq', inner⟩ := ImageSource.parse_managed_iff.1 read
      rw [eq, List.append_cancel_left_eq] at eq'
      rw [parse, String.toList_ofList, ← eq'] at inner
      exact inner

/-! ## What each of them writes -/

/-- Where a separator stands that a component does not hold itself. -/
theorem following_eq_append_cons {sep : Char} {o : Option (List Char)} {lead after : List Char}
    (plain : ∀ t, o = some t → sep ∉ t) (eq : following sep o = lead ++ sep :: after) :
    o = some after := by
  cases o with
  | none => simp [following] at eq
  | some t =>
      cases lead with
      | nil => rw [(List.cons.inj eq).2]
      | cons c lead =>
          have inside : sep ∈ t := (List.cons.inj eq).2 ▸ by simp
          exact absurd inside (plain t rfl)

theorem following_eq_nil {sep : Char} {o : Option (List Char)} :
    following sep o = [] ↔ o = none := by
  cases o <;> simp [following]

theorem preceding_eq_append_cons {sep c : Char} {o : Option (List Char)} {before rest : List Char}
    (eq : preceding sep o = before ++ c :: rest) :
    (c = sep ∧ rest = []) ∨ ∃ t rest', o = some t ∧ t = before ++ c :: rest' ∧ sep ∈ rest := by
  cases o with
  | none => simp [preceding] at eq
  | some t =>
      rcases append_eq_append_cons.1 eq with ⟨rest', inside, rfl⟩ | ⟨lead, -, last⟩
      · exact .inr ⟨t, rest', rfl, inside, by simp⟩
      · cases lead with
        | nil =>
            obtain ⟨rfl, rfl⟩ := List.cons.inj last
            exact .inl ⟨rfl, rfl⟩
        | cons d lead => simp at last

/-- The component in which a character of the written form stands. -/
inductive StandsIn (r : ImageReference) (before : List Char) (c : Char) (after : List Char) : Prop
  | registry (host rest : List Char) : r.registry.map String.toList = some host →
      host = before ++ c :: rest → '/' ∈ after → StandsIn r before c after
  | separator : c = '/' → after = r.name.toList ++ following ':' (r.tag.map String.toList) →
      StandsIn r before c after
  | name (lead rest : List Char) : before = preceding '/' (r.registry.map String.toList) ++ lead →
      r.name.toList = lead ++ c :: rest →
      after = rest ++ following ':' (r.tag.map String.toList) → StandsIn r before c after
  | tag (lead : List Char) : following ':' (r.tag.map String.toList) = lead ++ c :: after →
      StandsIn r before c after

theorem standsIn {before after : List Char} {c : Char} (eq : r.undigested = before ++ c :: after) :
    StandsIn r before c after := by
  rcases append_eq_append_cons.1 eq with ⟨rest, inPath, rfl⟩ | ⟨lead, -, inTag⟩
  · rcases append_eq_append_cons.1 inPath with ⟨rest', inHost, rfl⟩ | ⟨lead, start, inName⟩
    · rcases preceding_eq_append_cons inHost with ⟨slash, rfl⟩ | ⟨host, more, given, eq, slash⟩
      · exact .separator slash rfl
      · exact .registry host more given eq (by simp [slash])
    · exact .name lead rest start inName rfl
  · exact .tag lead inTag

theorem nil_mem_segments {cs : List Char} (h : isName cs = true) :
    [] ∈ splitAll '/' cs ↔ ∃ before after, cs = before ++ '/' :: '/' :: after := by
  obtain ⟨nonempty, first, last⟩ := isName_iff.1 h
  rw [nil_mem_splitAll, or_iff_right nonempty, or_iff_right first, nil_mem_tail_splitAll]
  constructor
  · rintro ⟨before, after, rfl, rfl | next⟩
    · exact absurd (by simp) last
    · obtain ⟨after, rfl⟩ := List.head?_eq_some_iff.1 next
      exact ⟨before, after, rfl⟩
  · rintro ⟨before, after, rfl⟩
    exact ⟨before, '/' :: after, rfl, .inr rfl⟩

namespace Legible
variable (h : r.Legible)
include h

theorem slash_not_mem_tag : '/' ∉ following ':' (r.tag.map String.toList) := by
  cases tag : r.tag with
  | none => simp [following]
  | some t => simpa [following] using (h.tag t tag).2

theorem openTag_iff : OpenTag r.display.toList ↔ r.tag = some "" := by
  rw [OpenTag, h.beforeDigest_eq]
  constructor
  · intro last
    obtain ⟨before, eq⟩ := List.getLast?_eq_some_iff.1 last
    cases standsIn eq with
    | registry _ _ _ _ slash => simp at slash
    | separator slash => exact absurd slash (by decide)
    | name lead rest start inName ends =>
        obtain ⟨rfl, none⟩ := List.append_eq_nil_iff.1 ends.symm
        have untagged := h.untagged (Option.map_eq_none_iff.1 (following_eq_nil.1 none))
        exact absurd ⟨before, [], by rw [path, inName, start]; simp, by simp⟩ untagged
    | tag lead inTag =>
        have given := following_eq_append_cons (fun _ given => (h.tag_chars given).1) inTag
        obtain ⟨tag, here, empty⟩ := Option.map_eq_some_iff.1 given
        rw [here, String.toList_eq_nil_iff.1 empty]
  · intro same
    simp [undigested, same, following]

theorem openDigest_iff : OpenDigest r.display.toList ↔ r.digest = some "" := by
  rw [OpenDigest, h.beforeDigest_eq, toList_display, List.append_cancel_left_eq]
  cases r.digest with
  | none => simp [following]
  | some d => simp [following]

/-- A colon of the text that opens no tag and belongs to no registry is one of the name. -/
theorem strayColon_iff : StrayColon r.display.toList ↔ ':' ∈ r.name.toList := by
  rw [StrayColon, h.beforeDigest_eq]
  constructor
  · rintro ⟨before, after, eq, noTag, noPort⟩
    cases standsIn eq with
    | registry host rest given inHost slash =>
        have early : '/' ∈ before := noPort.resolve_right (not_not.2 slash)
        exact absurd (by simp [inHost, early]) (h.registry_chars given).1
    | separator slash => exact absurd slash (by decide)
    | name lead rest start inName => simp [inName]
    | tag lead inTag =>
        have given := following_eq_append_cons (fun _ given => (h.tag_chars given).1) inTag
        exact absurd noTag (not_or.2 (h.tag_chars given))
  · intro m
    obtain ⟨a, b, eq⟩ := List.append_of_mem m
    refine ⟨preceding '/' (r.registry.map String.toList) ++ a,
      b ++ following ':' (r.tag.map String.toList), by simp [undigested, path, eq], ?_, ?_⟩
    · -- Were it the last colon and no slash after it, it would open a tag.
      cases tag : r.tag with
      | some t => simp [following]
      | none =>
          by_contra plain
          rw [Option.map_none, following, List.append_nil, not_or] at plain
          exact h.untagged tag
            ⟨preceding '/' (r.registry.map String.toList) ++ a, b, by simp [path, eq], plain⟩
    · -- Were it before the first slash, what stands there would be a registry.
      by_contra port
      obtain ⟨before, after⟩ := not_or.1 port
      rw [not_not, List.mem_append, or_iff_left h.slash_not_mem_tag] at after
      cases registry : r.registry with
      | some host => simp [registry, preceding] at before
      | none =>
          rw [registry, Option.map_none, preceding, List.nil_append] at before
          obtain ⟨c, d, rfl, slash⟩ := List.eq_append_cons_of_mem after
          exact h.hostless registry
            ⟨a ++ ':' :: c, d, by simp [eq], by simp [before, slash], by simp [isRegistry]⟩

theorem doubleSlash_iff : DoubleSlash r.display.toList ↔ [] ∈ splitAll '/' r.name.toList := by
  rw [DoubleSlash, h.beforeDigest_eq, nil_mem_segments h.name]
  constructor
  · rintro ⟨before, after, eq⟩
    cases standsIn eq with
    | registry host rest given inHost => exact absurd (by simp [inHost]) (h.registry_chars given).1
    | separator _ next =>
        obtain ⟨nonempty, first, -⟩ := isName_iff.1 h.name
        obtain ⟨c, rest, name⟩ := List.exists_cons_of_ne_nil nonempty
        rw [name] at next first
        exact absurd (congrArg some (List.cons.inj next).1.symm) first
    | name lead rest start inName next =>
        cases rest with
        | nil =>
            rw [List.nil_append] at next
            exact absurd (next ▸ List.mem_cons_self) h.slash_not_mem_tag
        | cons c rest =>
            obtain ⟨rfl, -⟩ := List.cons.inj next
            exact ⟨lead, rest, inName⟩
    | tag lead inTag => exact absurd (by simp [inTag]) h.slash_not_mem_tag
  · rintro ⟨before, after, eq⟩
    exact ⟨preceding '/' (r.registry.map String.toList) ++ before,
      after ++ following ':' (r.tag.map String.toList), by simp [undigested, path, eq]⟩

end Legible

/-- What reading promises of a reference for every text, and what it leaves to the text. -/
structure Promised (cs : List Char) (r : ImageReference) : Prop where
  registry : r.registry ≠ some ""
  name : r.name ≠ ""
  plain : ∀ tag, r.tag = some tag → ':' ∉ tag.toList ∧ '/' ∉ tag.toList
  tag : r.tag = some "" ↔ OpenTag cs
  digest : r.digest = some "" ↔ OpenDigest cs
  colon : ':' ∈ r.name.toList ↔ StrayColon cs
  segments : [] ∈ splitAll '/' r.name.toList ↔ DoubleSlash cs

theorem promised (h : ReadFrom cs r) : Promised cs r := by
  obtain ⟨q, legible, rfl, rfl⟩ := exists_legible h.parseChars_eq
  have tag : q.completed.tag = some "" ↔ q.tag = some "" := by
    cases tag : q.tag <;> cases digest : q.digest <;> simp [completed, tag, digest, defaultTag]
  exact {
    registry := fun given => ne_nil_of_isRegistry (legible.registry "" given).2 rfl
    name := fun empty => (isName_iff.1 legible.name).1 (by rw [show q.name = "" from empty]; rfl)
    plain := legible.completed.tag
    tag := tag.trans legible.openTag_iff.symm
    digest := legible.openDigest_iff.symm
    colon := legible.strayColon_iff.symm
    segments := legible.doubleSlash_iff.symm }

/-- A reference that is read is well formed just when it is not written in one of the four ways. -/
theorem wellFormed_iff (h : ReadFrom cs r) :
    Promised cs r ∧
      (r.WellFormed ↔ ¬ OpenTag cs ∧ ¬ OpenDigest cs ∧ ¬ StrayColon cs ∧ ¬ DoubleSlash cs) := by
  have promised := promised h
  refine ⟨promised, fun wellFormed => ?_, fun ⟨tag, digest, colon, slash⟩ => ?_⟩
  · exact ⟨wellFormed.tag ∘ promised.tag.2, wellFormed.digest ∘ promised.digest.2,
      wellFormed.colon ∘ promised.colon.2, wellFormed.segments ∘ promised.segments.2⟩
  · exact ⟨promised.registry, promised.name, tag ∘ promised.tag.1, digest ∘ promised.digest.1,
      colon ∘ promised.colon.1, slash ∘ promised.segments.1, promised.plain⟩

/-- All four ways of writing at once, as the image of a source. -/
theorem four_faults_read :
    let read := ImageReference.mk none "team//app:1" (some "") (some "")
    "docker:///team//app#1#@".toList = ImageSource.scheme ++ "///team//app#1#@".toList ∧
      ImageSource.parse "docker:///team//app#1#@" = .ok (.managed read) ∧
      OpenTag "team//app:1:@".toList ∧ OpenDigest "team//app:1:@".toList ∧
      StrayColon "team//app:1:@".toList ∧ DoubleSlash "team//app:1:@".toList ∧
      ¬ read.WellFormed := by
  have uri : "docker:///team//app#1#@".toList =
      ImageSource.scheme ++ "///team//app#1#@".toList := rfl
  have read : ImageSource.parse "docker:///team//app#1#@" =
      .ok (.managed ⟨none, "team//app:1", some "", some ""⟩) := rfl
  obtain ⟨promised, wellFormed⟩ := wellFormed_iff (.source uri read)
  have tag := promised.tag.1 rfl
  exact ⟨uri, read, tag, promised.digest.1 rfl, promised.colon.1 (by decide),
    promised.segments.1 (by decide), fun sound => (wellFormed.1 sound).1 tag⟩

/-- Reading accepts references that are not well formed, one for each rule that it leaves out. -/
theorem malformed_references_read :
    let openTag := ImageReference.mk none "app" (some "") none
    let openDigest := ImageReference.mk none "app" none (some "")
    let strayColon := ImageReference.mk none "app:1" (some "2") none
    let doubleSlash := ImageReference.mk none "team//app" (some "latest") none
    (parse "app:" = .ok openTag ∧ ¬ openTag.WellFormed) ∧
      (parse "app@" = .ok openDigest ∧ ¬ openDigest.WellFormed) ∧
      (parse "app:1:2" = .ok strayColon ∧ ¬ strayColon.WellFormed) ∧
      (parse "team//app" = .ok doubleSlash ∧ ¬ doubleSlash.WellFormed) :=
  ⟨⟨rfl, fun h => h.tag rfl⟩, ⟨rfl, fun h => h.digest rfl⟩, ⟨rfl, fun h => h.colon (by decide)⟩,
    ⟨rfl, fun h => h.segments (by decide)⟩⟩

end ImageReference
end SandboxPods
