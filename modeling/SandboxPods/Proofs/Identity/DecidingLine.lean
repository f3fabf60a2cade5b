import Mathlib.Logic.Relation
import SandboxPods.Identity.Passwd

/-!
# The line that decides about a user

An entry of a user is a line that is neither blank nor a comment and whose first field is the
user's name. The first entry decides: it describes the user or is malformed, and nothing else in
the file counts. What others have in the file, in which order and how malformed it may be, and
what follows the deciding line can be edited freely.

Lines are taken here as the pieces between line feeds, with blanks at their ends, a carriage
return among them. A text and its lines determine each other.
-/
namespace SandboxPods

/-! ## Lines -/

namespace Text

theorem trim_append_blank {c : Char} (blank : isBlank c = true) (cs : List Char) :
    trim (cs ++ [c]) = trim cs := by
  unfold trim trimStart trimEnd
  rw [List.dropWhile_append]
  split
  · next allBlank =>
    rw [List.isEmpty_iff.1 allBlank]
    simp [blank]
  · simp [blank]

theorem trim_dropCarriageReturn (cs : List Char) : trim (dropCarriageReturn cs) = trim cs := by
  unfold dropCarriageReturn
  split
  · next last =>
    obtain ⟨front, rfl⟩ := List.getLast?_eq_some_iff.1 last
    rw [List.dropLast_concat, trim_append_blank (by decide)]
  · rfl

end Text

namespace Passwd
variable {name username : String} {line : List Char} {l m : List (List Char)}

/-- The pieces of a text between line feeds. -/
def linesOf (text : String) : List (List Char) := Text.splitAll '\n' text.toList

theorem fields?_congr {a b : List Char} (same : Text.trim a = Text.trim b) :
    fields? a = fields? b := by
  simp only [fields?, same]

theorem modifyHead_nil_append (l : List (List Char)) : l.modifyHead ([] ++ ·) = l := by
  cases l <;> rfl

/-- The lines of the rest of a text, of which the first one has begun already. -/
theorem filterMap_fields?_cut (cs begun : List Char) :
    ((Text.cutAtLineFeeds cs begun).map
      (fun p => if p.2 then Text.dropCarriageReturn p.1 else p.1)).filterMap fields? =
    ((Text.splitAll '\n' cs).modifyHead (begun.reverse ++ ·)).filterMap fields? := by
  -- The cut keeps the line it is in, so the statement is about any line begun before.
  induction cs generalizing begun with
  | nil =>
      cases begun with
      | nil => rfl
      | cons c begun => simp [Text.cutAtLineFeeds, Text.splitAll]
  | cons c rest ih =>
      by_cases feed : c = '\n'
      · have ending : fields? (Text.dropCarriageReturn begun.reverse) = fields? begun.reverse :=
          fields?_congr (Text.trim_dropCarriageReturn _)
        have later := ih []
        rw [List.reverse_nil, modifyHead_nil_append] at later
        simp [Text.cutAtLineFeeds, Text.splitAll, feed, ending, later, List.filterMap_cons]
      · obtain ⟨piece, pieces, cut⟩ :=
          List.exists_cons_of_ne_nil (Text.splitAll_ne_nil '\n' rest)
        have later := ih (c :: begun)
        rw [cut] at later
        simp only [Text.cutAtLineFeeds, if_neg feed, later, Text.splitAll, cut]
        simp

/-- Neither the ending of a line nor a line feed at the end of the text matters. -/
theorem filterMap_fields?_lines (text : String) :
    (Text.lines text.toList).filterMap fields? = (linesOf text).filterMap fields? := by
  have all := filterMap_fields?_cut text.toList []
  rw [List.reverse_nil, modifyHead_nil_append] at all
  exact all

/-! ## Entries -/

/-- The line is an entry of the user: no comment, and its first field is the name. -/
structure IsEntryOf (name : String) (line : List Char) : Prop where
  nonblank : Text.trim line ≠ []
  uncommented : (Text.trim line).head? ≠ some '#'
  named : (Text.splitAll ':' (Text.trim line)).head? = some name.toList

theorem fields?_eq_some {fields : List (List Char)} : fields? line = some fields ↔
    Text.trim line ≠ [] ∧ (Text.trim line).head? ≠ some '#' ∧
      Text.splitAll ':' (Text.trim line) = fields := by
  simp [fields?, and_assoc]

theorem isEntryOf_iff : IsEntryOf name line ↔ (fields? line).any (isLineOf name) = true := by
  rw [Option.any_eq_true]
  constructor
  · intro entry
    exact ⟨_, fields?_eq_some.2 ⟨entry.nonblank, entry.uncommented, rfl⟩,
      beq_iff_eq.2 entry.named⟩
  · intro cut
    obtain ⟨fields, cut, named⟩ := cut
    obtain ⟨nonblank, uncommented, rfl⟩ := fields?_eq_some.1 cut
    exact ⟨nonblank, uncommented, beq_iff_eq.1 named⟩

instance (name : String) (line : List Char) : Decidable (IsEntryOf name line) :=
  decidable_of_iff _ isEntryOf_iff.symm

theorem isEntryOf_congr {a b : List Char} (same : Text.trim a = Text.trim b) :
    IsEntryOf name a ↔ IsEntryOf name b := by
  rw [isEntryOf_iff, isEntryOf_iff, fields?_congr same]

/-- The entries of a user, in their order. -/
def entriesOf (name : String) (l : List (List Char)) : List (List Char) :=
  l.filter (IsEntryOf name ·)

/-- What the first entry tells. -/
def told (name : String) (l : List (List Char)) : Option (Except IdentityError SandboxUser) :=
  (entriesOf name l).head?.map fun line =>
    userOfFields name (Text.splitAll ':' (Text.trim line))

theorem find_eq_told (text : String) (name : String) :
    find text name = told name (linesOf text) := by
  have entry : (fun line => (fields? line).any (isLineOf name)) = (IsEntryOf name ·) := by
    funext line
    exact Bool.eq_iff_iff.2 (by simp only [decide_eq_true_iff, isEntryOf_iff])
  rw [find, filterMap_fields?_lines, List.find?_filterMap, entry]
  rw [told, entriesOf, List.head?_filter]
  cases first : (linesOf text).find? (IsEntryOf name ·) with
  | none => rfl
  | some line =>
      have here : IsEntryOf name line := by simpa using List.find?_some first
      have cut := fields?_eq_some.2 ⟨here.nonblank, here.uncommented, rfl⟩
      rw [Option.bind_some, cut]
      rfl

/-! ## What an entry says -/

/-- The text spells the number, with an optional plus sign. -/
def Spells (cs : List Char) (n : UInt32) : Prop :=
  ∃ digits, (cs = digits ∨ cs = '+' :: digits) ∧ digits ≠ [] ∧
    (∀ c ∈ digits, Decimal.isDigit c = true) ∧ Decimal.natOfDigits digits = n.toNat

/-- The text without a plus sign in front. -/
def unsigned : List Char → List Char
  | '+' :: rest => rest
  | cs => cs

theorem unsigned_cases (cs : List Char) : cs = unsigned cs ∨ cs = '+' :: unsigned cs := by
  unfold unsigned
  split
  · exact .inr rfl
  · exact .inl rfl

theorem unsigned_digits {digits : List Char} (all : ∀ c ∈ digits, Decimal.isDigit c = true) :
    unsigned digits = digits := by
  unfold unsigned
  split
  · have plus : Decimal.isDigit '+' = true := all '+' List.mem_cons_self
    exact absurd plus (by decide)
  · rfl

theorem number?_eq_some_iff {cs : List Char} {n : UInt32} : number? cs = some n ↔
    unsigned cs ≠ [] ∧ (∀ c ∈ unsigned cs, Decimal.isDigit c = true) ∧
      Decimal.natOfDigits (unsigned cs) = n.toNat := by
  have eq : number? cs =
      if unsigned cs ≠ [] ∧ (unsigned cs).all Decimal.isDigit ∧
          Decimal.natOfDigits (unsigned cs) < UInt32.size
      then some (UInt32.ofNat (Decimal.natOfDigits (unsigned cs))) else none := rfl
  rw [eq, Option.ite_none_right_eq_some, List.all_eq_true, Option.some_inj]
  constructor
  · intro read
    obtain ⟨⟨nonempty, all, small⟩, rfl⟩ := read
    exact ⟨nonempty, all, (UInt32.toNat_ofNat_of_lt' small).symm⟩
  · intro spelled
    obtain ⟨nonempty, all, value⟩ := spelled
    rw [value]
    exact ⟨⟨nonempty, all, n.toNat_lt_size⟩, UInt32.ofNat_toNat⟩

theorem spells_iff {cs : List Char} {n : UInt32} : Spells cs n ↔ number? cs = some n := by
  rw [number?_eq_some_iff]
  constructor
  · intro spelled
    obtain ⟨digits, rfl | rfl, nonempty, all, value⟩ := spelled
    · rw [unsigned_digits all]
      exact ⟨nonempty, all, value⟩
    · exact ⟨nonempty, all, value⟩
  · intro spelled
    exact ⟨unsigned cs, unsigned_cases cs, spelled⟩

/-- What an entry says about its user. -/
inductive Describes (name : String) (line : List Char) : Except IdentityError SandboxUser → Prop
  | user {given password uid gid comment home : List Char} {rest : List (List Char)} {u g : UInt32}
      (fields : Text.splitAll ':' (Text.trim line) =
        given :: password :: uid :: gid :: comment :: home :: rest)
      (hu : Spells uid u) (hg : Spells gid g) : Describes name line (.ok ⟨u, g, String.ofList home⟩)
  | short (few : (Text.splitAll ':' (Text.trim line)).length < 6) :
      Describes name line (.error (.malformed name))
  | misspelled {given password uid gid : List Char} {rest : List (List Char)}
      (fields : Text.splitAll ':' (Text.trim line) = given :: password :: uid :: gid :: rest)
      (unread : (∀ u, ¬ Spells uid u) ∨ ∀ g, ¬ Spells gid g) :
      Describes name line (.error (.malformed name))

theorem userOfFields_short {fields : List (List Char)} (few : fields.length < 6) :
    userOfFields name fields = .error (.malformed name) := by
  unfold userOfFields
  split
  · simp only [List.length_cons] at few
    omega
  · rfl

theorem exists_fields {fields : List (List Char)} (enough : 6 ≤ fields.length) :
    ∃ given password uid gid comment home rest,
      fields = given :: password :: uid :: gid :: comment :: home :: rest :=
  match fields, enough with
  | given :: password :: uid :: gid :: comment :: home :: rest, _ =>
    ⟨given, password, uid, gid, comment, home, rest, rfl⟩

theorem userOfFields_misspelled {given password uid gid : List Char} {rest : List (List Char)}
    (unread : number? uid = none ∨ number? gid = none) :
    userOfFields name (given :: password :: uid :: gid :: rest) = .error (.malformed name) := by
  unfold userOfFields
  split
  · next same =>
    cases same
    obtain unread | unread := unread
    · rw [unread]
    · rw [unread]
      cases number? uid <;> rfl
  · rfl

theorem forall_not_spells_iff {cs : List Char} : (∀ n, ¬ Spells cs n) ↔ number? cs = none := by
  simp only [spells_iff, Option.eq_none_iff_forall_ne_some, ne_eq]

theorem describes_iff {result : Except IdentityError SandboxUser} :
    Describes name line result ↔
      userOfFields name (Text.splitAll ':' (Text.trim line)) = result := by
  constructor
  · intro described
    cases described with
    | user fields hu hg =>
        rw [spells_iff] at hu hg
        simp only [fields, userOfFields, hu, hg]
    | short few => exact userOfFields_short few
    | misspelled fields unread =>
        rw [forall_not_spells_iff, forall_not_spells_iff] at unread
        rw [fields, userOfFields_misspelled unread]
  · intro same
    subst same
    by_cases few : (Text.splitAll ':' (Text.trim line)).length < 6
    · rw [userOfFields_short few]
      exact .short few
    · obtain ⟨given, password, uid, gid, comment, home, rest, fields⟩ :=
        exists_fields (Nat.not_lt.1 few)
      rw [fields]
      by_cases unread : number? uid = none ∨ number? gid = none
      · rw [userOfFields_misspelled unread]
        rw [← forall_not_spells_iff, ← forall_not_spells_iff] at unread
        exact .misspelled fields unread
      · obtain ⟨readUid, readGid⟩ := not_or.1 unread
        obtain ⟨u, hu⟩ := Option.ne_none_iff_exists'.1 readUid
        obtain ⟨g, hg⟩ := Option.ne_none_iff_exists'.1 readGid
        simp only [userOfFields, hu, hg]
        exact .user fields (spells_iff.2 hu) (spells_iff.2 hg)

/-! ## Edits -/

/-- A change to the lines of a file that leaves the user's entries up to the first one alone. -/
inductive Edit (name : String) : List (List Char) → List (List Char) → Prop
  /-- A line that is no entry of the user is put anywhere. -/
  | insert (before after : List (List Char)) {line : List Char} (other : ¬ IsEntryOf name line) :
      Edit name (before ++ after) (before ++ line :: after)
  /-- A line that is no entry of the user is taken away. -/
  | remove (before after : List (List Char)) {line : List Char} (other : ¬ IsEntryOf name line) :
      Edit name (before ++ line :: after) (before ++ after)
  /-- Lines change places, but no two entries of the user do. -/
  | reorder {l m : List (List Char)} (perm : l.Perm m)
      (entries : entriesOf name l = entriesOf name m) : Edit name l m
  /-- A line gets other blanks around it. -/
  | respace (before after : List (List Char)) {a b : List Char} (same : Text.trim a = Text.trim b) :
      Edit name (before ++ a :: after) (before ++ b :: after)
  /-- Anything happens after an entry of the user. -/
  | afterwards (before old new : List (List Char)) {line : List Char}
      (entry : IsEntryOf name line) : Edit name (before ++ line :: old) (before ++ line :: new)

theorem entriesOf_append (l m : List (List Char)) :
    entriesOf name (l ++ m) = entriesOf name l ++ entriesOf name m :=
  List.filter_append l m

theorem entriesOf_cons (entry : IsEntryOf name line) (l : List (List Char)) :
    entriesOf name (line :: l) = line :: entriesOf name l :=
  List.filter_cons_of_pos (by simpa using entry)

theorem entriesOf_cons_other (other : ¬ IsEntryOf name line) (l : List (List Char)) :
    entriesOf name (line :: l) = entriesOf name l :=
  List.filter_cons_of_neg (by simpa using other)

theorem told_congr
    (same : (entriesOf name l).head?.map Text.trim = (entriesOf name m).head?.map Text.trim) :
    told name l = told name m := by
  have byTrim (k : List (List Char)) : told name k =
      ((entriesOf name k).head?.map Text.trim).map
        (fun line => userOfFields name (Text.splitAll ':' line)) := by
    rw [Option.map_map]
    rfl
  rw [byTrim, byTrim, same]

theorem Edit.told_eq (edit : Edit name l m) : told name m = told name l := by
  apply told_congr
  cases edit with
  | insert before after other =>
      rw [entriesOf_append, entriesOf_append, entriesOf_cons_other other]
  | remove before after other =>
      rw [entriesOf_append, entriesOf_append, entriesOf_cons_other other]
  | reorder perm entries => rw [entries]
  | respace before after same =>
      rename_i a b
      rw [entriesOf_append, entriesOf_append]
      by_cases entry : IsEntryOf name a
      · rw [entriesOf_cons entry, entriesOf_cons ((isEntryOf_congr same).1 entry)]
        cases entriesOf name before with
        | nil => exact congrArg some same.symm
        | cons first others => rfl
      · rw [entriesOf_cons_other entry, entriesOf_cons_other (mt (isEntryOf_congr same).2 entry)]
  | afterwards before old new entry =>
      rw [entriesOf_append, entriesOf_append, entriesOf_cons entry, entriesOf_cons entry]
      cases entriesOf name before <;> rfl

theorem told_eq_of_edits (edits : Relation.ReflTransGen (Edit name) l m) :
    told name m = told name l := by
  induction edits with
  | refl => rfl
  | tail _ edit ih => exact edit.told_eq.trans ih

/-! ## Look-ups -/

/-- The name that is looked for; the empty one means root. -/
def nameFor (username : String) : String := if username.isEmpty then rootName else username

theorem lookup_file (root text username : String) : lookup root (.file text) username =
    (told (nameFor username) (linesOf text)).getD
      (if nameFor username = rootName then .ok .root
        else .error (.unknownUser (nameFor username))) := by
  rw [← find_eq_told]
  unfold lookup nameFor
  generalize (if username.isEmpty then rootName else username) = name
  dsimp only
  cases find text name <;> rfl

/-- The first entry of the user decides. Without one only root is known. Whatever leaves the
entries of the user up to the first one alone does not change the result. -/
theorem lookup_decided (root text username : String) :
    (∀ before line after, linesOf text = before ++ line :: after →
      (∀ other ∈ before, ¬ IsEntryOf (nameFor username) other) → IsEntryOf (nameFor username) line →
      ∀ result, lookup root (.file text) username = result ↔
        Describes (nameFor username) line result) ∧
    ((∀ line ∈ linesOf text, ¬ IsEntryOf (nameFor username) line) →
      lookup root (.file text) username =
        if nameFor username = "root" then .ok ⟨0, 0, "/root"⟩
        else .error (.unknownUser (nameFor username))) ∧
    ∀ other, Relation.ReflTransGen (Edit (nameFor username)) (linesOf text) (linesOf other) →
      lookup root (.file other) username = lookup root (.file text) username := by
  refine ⟨?_, ?_, ?_⟩
  · intro before line after lines first entry result
    have decided : told (nameFor username) (linesOf text) =
        some (userOfFields (nameFor username) (Text.splitAll ':' (Text.trim line))) := by
      have skipped : entriesOf (nameFor username) before = [] := by simpa [entriesOf] using first
      rw [told, lines, entriesOf_append, skipped, entriesOf_cons entry]
      rfl
    rw [lookup_file, decided, describes_iff]
    rfl
  · intro others
    have untold : entriesOf (nameFor username) (linesOf text) = [] := by
      simpa [entriesOf] using others
    rw [lookup_file, told, untold]
    rfl
  · intro other edits
    rw [lookup_file, lookup_file, told_eq_of_edits edits]

end Passwd
end SandboxPods
