import Mathlib.Data.List.DropRight
import SandboxPods.Transfer.Helper

/-!
# Where the source of a transfer lies

A path is followed by its text alone: an empty component and a full stop stay where they are, two
full stops lead up, and everything else leads down by a name. The root has nothing above it, while
from the current directory the way up can go on. So the directory that the helper enters and the
entry that it archives there have a place together, which can be compared with the place of the
path they were split from.

The two places are the same unless the path ends in two full stops, where what stands before them
is archived, or is the root written with a full stop at its end, where the current directory is.
-/
namespace SandboxPods

/-- A place under the root, or under a directory some steps above the current one. -/
structure Location where
  rooted : Bool
  ups : Nat
  names : List (List Char)
  deriving DecidableEq, Repr

namespace Location
variable {l : Location} {path piece : List Char} {pieces : List (List Char)}

def root : Location := ⟨true, 0, []⟩

/-- The current directory. -/
def here : Location := ⟨false, 0, []⟩

def IsRoot (l : Location) : Prop := l.rooted = true ∧ l.names = []

instance (l : Location) : Decidable l.IsRoot :=
  inferInstanceAs (Decidable (l.rooted = true ∧ l.names = []))

/-- One step up. -/
def above (l : Location) : Location :=
  if l.names ≠ [] then { l with names := l.names.dropLast }
  else if l.rooted then l
  else { l with ups := l.ups + 1 }

def step (l : Location) (piece : List Char) : Location :=
  if piece = ['.', '.'] then l.above else { l with names := l.names ++ [piece] }

/-- The component leads somewhere. -/
def IsStep (piece : List Char) : Prop := piece ≠ [] ∧ piece ≠ ['.']

instance (piece : List Char) : Decidable (IsStep piece) :=
  inferInstanceAs (Decidable (piece ≠ [] ∧ piece ≠ ['.']))

/-- The components that lead somewhere, in their order. -/
def steps (pieces : List (List Char)) : List (List Char) := pieces.filter (fun p => IsStep p)

def stepsOf (path : List Char) : List (List Char) := steps (Text.splitAll '/' path)

/-- Where the steps of a path are taken from: a leading slash leads to the root first. -/
def start (l : Location) (path : List Char) : Location :=
  if path.head? = some '/' then root else l

/-- Where a path leads from a place. -/
def follow (l : Location) (path : List Char) : Location :=
  (stepsOf path).foldl step (l.start path)

/-- Where a path leads. -/
def ofPath (path : List Char) : Location := here.follow path

theorem above_eq_self_iff : l.above = l ↔ l.IsRoot := by
  obtain ⟨rooted, ups, names⟩ := l
  unfold above IsRoot
  cases names with
  | nil => cases rooted <;> simp
  | cons name names =>
      have shorter : (name :: names).dropLast ≠ name :: names := by
        intro same
        have := congrArg List.length same
        simp at this
      simp [shorter]

/-! ## Steps of a path -/

theorem steps_append (a b : List (List Char)) : steps (a ++ b) = steps a ++ steps b :=
  List.filter_append a b

theorem steps_singleton (given : IsStep piece) : steps [piece] = [piece] :=
  List.filter_cons_of_pos (by simpa using given)

theorem stepsOf_slash (path : List Char) : stepsOf ('/' :: path) = stepsOf path := rfl

theorem stepsOf_stop_slash (path : List Char) : stepsOf ('.' :: '/' :: path) = stepsOf path := rfl

theorem stepsOf_join (clean : ∀ p ∈ pieces, '/' ∉ p) :
    stepsOf (Text.joinWith '/' pieces) = steps pieces := by
  cases pieces with
  | nil => rfl
  | cons piece pieces =>
      rw [stepsOf, Text.splitAll_joinWith (List.cons_ne_nil piece pieces) clean]

theorem follow_name (clean : '/' ∉ piece) (given : IsStep piece) :
    l.follow piece = l.step piece := by
  have relative : piece.head? ≠ some '/' := fun first => clean (List.mem_of_head? first)
  rw [follow, start, if_neg relative, stepsOf, Text.splitAll_of_not_mem clean,
    steps_singleton given]
  rfl

theorem follow_stop (l : Location) : l.follow ['.'] = l := rfl

end Location

namespace SourcePath
open Location
variable {path parent name : List Char} {pieces : List (List Char)} {l : Location}

/-! ## The last component -/

theorem isNoComponent_iff {piece : List Char} : isNoComponent piece = true ↔ ¬ IsStep piece := by
  simp [isNoComponent, IsStep, ← or_iff_not_imp_left]

theorem trimPieces_eq (pieces : List (List Char)) :
    trimPieces pieces = pieces.rdropWhile isNoComponent := rfl

theorem isPrefix_trimPieces (pieces : List (List Char)) : trimPieces pieces <+: pieces :=
  List.rdropWhile_prefix isNoComponent pieces

/-- What is trimmed leads nowhere. -/
theorem steps_trimPieces (pieces : List (List Char)) :
    steps (trimPieces pieces) = steps pieces := by
  have nowhere : steps (pieces.rtakeWhile isNoComponent) = [] := by
    rw [steps, List.filter_eq_nil_iff]
    intro piece trimmed
    simpa using isNoComponent_iff.1 (List.mem_rtakeWhile_imp trimmed)
  have whole : trimPieces pieces ++ pieces.rtakeWhile isNoComponent = pieces :=
    List.rdropWhile_append_rtakeWhile
  rw [← List.append_nil (steps (trimPieces pieces)), ← nowhere, ← steps_append, whole]

/-- What is left after trimming ends in a component that leads somewhere. -/
theorem isStep_of_getLast? (last : (trimPieces pieces).getLast? = some name) : IsStep name := by
  obtain ⟨front, trimmed⟩ := List.getLast?_eq_some_iff.1 last
  have given : pieces.rdropWhile isNoComponent ≠ [] := by
    rw [← trimPieces_eq, trimmed]
    exact List.concat_ne_nil name front
  have stopped := List.rdropWhile_last_not isNoComponent pieces given
  simp only [← trimPieces_eq, trimmed, List.getLast_concat] at stopped
  exact not_not.1 (mt isNoComponent_iff.2 stopped)

/-- What stands before the components: nothing, a slash, or a full stop of its own. -/
theorem anchor_cases (path : List Char) :
    path.head? ≠ some '/' ∧ anchorLength path = 0 ∨
      ∃ c rest, path = c :: rest ∧ anchorLength path = 1 ∧
        (c = '/' ∨ c = '.' ∧ (Text.splitAll '/' rest).head? = some []) := by
  unfold anchorLength
  by_cases slash : path.head? = some '/'
  · obtain ⟨rest, rfl⟩ := List.head?_eq_some_iff.1 slash
    exact .inr ⟨'/', rest, rfl, rfl, .inl rfl⟩
  · by_cases stop : startsWithDot path = true
    · refine .inr ?_
      unfold startsWithDot at stop
      split at stop
      · exact ⟨'.', [], rfl, rfl, .inr ⟨rfl, rfl⟩⟩
      · next rest => exact ⟨'.', '/' :: rest, rfl, rfl, .inr ⟨rfl, rfl⟩⟩
      · cases stop
    · exact .inl ⟨slash, by simp [slash, stop]⟩

/-- What stands before the components leads nowhere by itself. -/
theorem stepsOf_anchored (part : pieces <+: Text.splitAll '/' (path.drop (anchorLength path))) :
    stepsOf (path.take (anchorLength path) ++ Text.joinWith '/' pieces) = steps pieces := by
  have clean : ∀ p ∈ pieces, '/' ∉ p := fun p mem => Text.not_mem_of_mem_splitAll (part.subset mem)
  rcases anchor_cases path with ⟨-, length⟩ | ⟨c, rest, rfl, length, rfl | ⟨rfl, first⟩⟩
  · rw [length]
    exact stepsOf_join clean
  · rw [length]
    exact (stepsOf_slash _).trans (stepsOf_join clean)
  · rw [length] at part ⊢
    cases pieces with
    | nil => rfl
    | cons piece more =>
        -- The full stop is a component of its own, so the pieces begin with an empty one.
        obtain rfl : piece = [] := by
          obtain ⟨_, whole⟩ := part
          have same := congrArg List.head? whole
          rw [List.drop_one, List.tail_cons, first] at same
          exact Option.some.inj same
        cases more with
        | nil => rfl
        | cons next more =>
            exact (stepsOf_stop_slash _).trans (stepsOf_join fun p mem => clean p (.tail _ mem))

/-- What stands before the components decides about the root. -/
theorem start_anchored (part : pieces <+: Text.splitAll '/' (path.drop (anchorLength path)))
    (l : Location) :
    l.start (orHere (path.take (anchorLength path) ++ Text.joinWith '/' pieces)) =
      l.start path := by
  rcases anchor_cases path with ⟨relative, length⟩ | ⟨c, rest, rfl, length, -⟩
  · rw [length] at part ⊢
    have whole := Text.isPrefix_joinWith '/' part
    rw [Text.joinWith_splitAll] at whole
    have unrooted : (orHere (Text.joinWith '/' pieces)).head? ≠ some '/' := by
      cases before : Text.joinWith '/' pieces with
      | nil => decide
      | cons c cs =>
          obtain ⟨_, rfl⟩ := before ▸ whole
          exact relative
    exact (if_neg unrooted).trans (if_neg relative).symm
  · rw [length]
    rfl

/-- The components of a path, without those at the end that lead nowhere. -/
def leading (path : List Char) : List (List Char) :=
  trimPieces (Text.splitAll '/' (path.drop (anchorLength path)))

theorem stepsOf_eq_leading (path : List Char) : stepsOf path = steps (leading path) := by
  have whole : stepsOf (path.take (anchorLength path) ++
      Text.joinWith '/' (Text.splitAll '/' (path.drop (anchorLength path)))) = _ :=
    stepsOf_anchored List.prefix_rfl
  rw [Text.joinWith_splitAll, List.take_append_drop] at whole
  rw [whole, leading, steps_trimPieces]

theorem parentAndName_eq (path : List Char) : parentAndName path =
    (leading path).getLast?.map fun name =>
      (path.take (anchorLength path) ++
        Text.joinWith '/' (trimPieces (leading path).dropLast), name) := rfl

/-- Without a last component the path leads nowhere from its start. -/
theorem stepsOf_eq_nil (h : parentAndName path = none) : stepsOf path = [] := by
  rw [parentAndName_eq, Option.map_eq_none_iff, List.getLast?_eq_none_iff] at h
  rw [stepsOf_eq_leading, h]
  rfl

/-- The last component is the last step of the path, and what stands before it has the others. -/
structure Parted (path parent name : List Char) : Prop where
  steps : stepsOf path = stepsOf parent ++ [name]
  isStep : IsStep name
  clean : '/' ∉ name
  start : ∀ l : Location, l.start (orHere parent) = l.start path

theorem parted (h : parentAndName path = some (parent, name)) : Parted path parent name := by
  rw [parentAndName_eq, Option.map_eq_some_iff] at h
  obtain ⟨last, found, same⟩ := h
  obtain ⟨rfl, rfl⟩ := Prod.mk.inj same
  obtain ⟨front, parts⟩ := List.getLast?_eq_some_iff.1 found
  have isStep := isStep_of_getLast? found
  have part : leading path <+: Text.splitAll '/' (path.drop (anchorLength path)) :=
    isPrefix_trimPieces _
  have before : trimPieces (leading path).dropLast <+: leading path :=
    (isPrefix_trimPieces _).trans (List.dropLast_prefix _)
  refine ⟨?_, isStep, ?_, ?_⟩
  · rw [stepsOf_anchored (before.trans part), steps_trimPieces, stepsOf_eq_leading, parts,
      List.dropLast_concat, steps_append, steps_singleton isStep]
  · exact Text.not_mem_of_mem_splitAll (part.subset (List.mem_of_getLast? found))
  · exact start_anchored (before.trans part)

/-! ## What is archived -/

/-- Where the entry lies in the directory. -/
def archived (directory entry : List Char) : Location := (ofPath directory).follow entry

/-- Where the path leads with these steps instead of its own. -/
def placeOf (path : List Char) (steps : List (List Char)) : Location :=
  steps.foldl step (here.start path)

/-- The two ways in which a path that does not end in a slash is lost, with the place that is
archived instead. -/
inductive Strays (path : List Char) : Location → Prop
  /-- The root with full stops after it. -/
  | top (opened : path.getLast? ≠ some '/') (rooted : path.head? = some '/')
      (nowhere : stepsOf path = []) : Strays path here
  /-- Two full stops at the end that lead up from somewhere. -/
  | upward (opened : path.getLast? ≠ some '/') {front : List (List Char)}
      (last : stepsOf path = front ++ [['.', '.']]) (below : ¬ (placeOf path front).IsRoot) :
      Strays path (placeOf path front)

/-- The ways in which a path is split. -/
inductive SplitAs (path : List Char) : List Char × List Char → Prop
  | contents (closed : path.getLast? = some '/') : SplitAs path (path, ['.'])
  | nowhere (opened : path.getLast? ≠ some '/') (nowhere : stepsOf path = []) :
      SplitAs path (['.'], ['.'])
  | upward (opened : path.getLast? ≠ some '/') {parent : List Char}
      (parts : Parted path parent ['.', '.']) : SplitAs path (orHere parent, ['.'])
  | entry (opened : path.getLast? ≠ some '/') {parent name : List Char}
      (parts : Parted path parent name) (plain : name ≠ ['.', '.']) :
      SplitAs path (orHere parent, name)

theorem splitAs (path : List Char) : SplitAs path (splitChars path) := by
  unfold splitChars
  by_cases closed : path.getLast? = some '/'
  · rw [if_pos closed]
    exact .contents closed
  · rw [if_neg closed]
    cases found : parentAndName path with
    | none => exact .nowhere closed (stepsOf_eq_nil found)
    | some parts =>
        obtain ⟨parent, name⟩ := parts
        have parts := parted found
        dsimp only
        split
        · next up =>
          subst up
          exact .upward closed parts
        · next plain => exact .entry closed parts plain

theorem SplitAs.ne_nil {parts : List Char × List Char} (h : SplitAs path parts)
    (given : path ≠ []) : parts.1 ≠ [] ∧ parts.2 ≠ [] := by
  have filled (cs : List Char) : orHere cs ≠ [] := by
    cases cs <;> simp [orHere]
  have stop : ['.'] ≠ [] := List.cons_ne_nil '.' []
  cases h with
  | contents => exact ⟨given, stop⟩
  | nowhere => exact ⟨stop, stop⟩
  | upward => exact ⟨filled _, stop⟩
  | entry _ parts => exact ⟨filled _, parts.isStep.1⟩

theorem Parted.ofPath_parent (h : Parted path parent name) :
    ofPath (orHere parent) = placeOf path (stepsOf parent) := by
  have same : stepsOf (orHere parent) = stepsOf parent := by
    cases parent <;> rfl
  rw [ofPath, follow, same, h.start, placeOf]

theorem Parted.ofPath_eq (h : Parted path parent name) :
    ofPath path = (placeOf path (stepsOf parent)).step name := by
  rw [ofPath, follow, h.steps, List.foldl_concat, placeOf]

theorem Strays.eq_of_stepsOf {front : List (List Char)} (h : Strays path l)
    (parts : stepsOf path = front ++ [name]) :
    name = ['.', '.'] ∧ l = placeOf path front ∧ ¬ (placeOf path front).IsRoot := by
  cases h with
  | top _ _ nowhere => exact absurd (parts.symm.trans nowhere) (List.concat_ne_nil name front)
  | upward _ last below =>
      obtain ⟨rfl, same⟩ := List.append_inj' (parts.symm.trans last) rfl
      exact ⟨List.singleton_inj.1 same, rfl, below⟩

/-- A path strays just when something else is archived, and then to what is archived. -/
theorem SplitAs.strays_iff {parts : List Char × List Char} (h : SplitAs path parts) :
    Strays path l ↔ l = archived parts.1 parts.2 ∧ l ≠ ofPath path := by
  cases h with
  | contents closed =>
      rw [archived, follow_stop]
      constructor
      · intro strays
        cases strays with
        | top opened => exact absurd closed opened
        | upward opened => exact absurd closed opened
      · intro other
        exact absurd other.1 other.2
  | nowhere opened nowhere =>
      have current : archived ['.'] ['.'] = here := rfl
      have origin : ofPath path = here.start path := by
        rw [ofPath, follow, nowhere]
        rfl
      rw [current, origin, start]
      constructor
      · intro strays
        cases strays with
        | top _ rooted =>
            rw [if_pos rooted]
            exact ⟨rfl, by decide⟩
        | upward _ last => exact absurd (last.symm.trans nowhere) (List.concat_ne_nil _ _)
      · intro other
        obtain ⟨rfl, other⟩ := other
        split at other
        · next rooted => exact .top opened rooted nowhere
        · exact absurd rfl other
  | upward opened parts =>
      rw [archived, follow_stop, parts.ofPath_parent, parts.ofPath_eq]
      constructor
      · intro strays
        obtain ⟨-, rfl, below⟩ := strays.eq_of_stepsOf parts.steps
        exact ⟨rfl, fun same => below (above_eq_self_iff.1 same.symm)⟩
      · intro other
        obtain ⟨rfl, other⟩ := other
        exact .upward opened parts.steps fun top => other (above_eq_self_iff.2 top).symm
  | entry opened parts plain =>
      rw [archived, follow_name parts.clean parts.isStep, parts.ofPath_parent, parts.ofPath_eq]
      constructor
      · intro strays
        exact absurd (strays.eq_of_stepsOf parts.steps).1 plain
      · intro other
        exact absurd other.1 other.2

/-- The helper is sent a directory and an entry that together are the path, unless the path
strays. -/
theorem source_archived (pid : UInt32) (path user : String) (given : path ≠ "") :
    ∃ directory entry, Helper.fetchArgs pid path user =
        [toString pid.toNat, user, directory, entry] ∧ directory ≠ "" ∧ entry ≠ "" ∧
      (archived directory.toList entry.toList = ofPath path.toList ↔
        ∀ l, ¬ Strays path.toList l) ∧
      ∀ l, Strays path.toList l → archived directory.toList entry.toList = l := by
  have parts := splitAs path.toList
  have filled := parts.ne_nil (mt String.toList_eq_nil_iff.1 given)
  refine ⟨String.ofList (splitChars path.toList).1, String.ofList (splitChars path.toList).2, rfl,
    mt String.ofList_eq_empty_iff.1 filled.1, mt String.ofList_eq_empty_iff.1 filled.2, ?_, ?_⟩
  · rw [String.toList_ofList, String.toList_ofList]
    constructor
    · intro same l strays
      obtain ⟨here, other⟩ := parts.strays_iff.1 strays
      exact other (here.trans same)
    · intro kept
      exact Classical.byContradiction fun other => kept _ (parts.strays_iff.2 ⟨rfl, other⟩)
  · intro l strays
    rw [String.toList_ofList, String.toList_ofList]
    exact (parts.strays_iff.1 strays).1.symm

/-- A path with components that lead nowhere is archived where it lies. -/
theorem stops_archived : "/home/./vcap//app/." ≠ "" ∧ ∃ directory entry,
    Helper.fetchArgs 42 "/home/./vcap//app/." "vcap" = ["42", "vcap", directory, entry] ∧
      archived directory.toList entry.toList = ofPath "/home/./vcap//app/.".toList := by
  have given : "/home/./vcap//app/." ≠ "" := by decide
  obtain ⟨directory, entry, args, -, -, place, -⟩ :=
    source_archived 42 "/home/./vcap//app/." "vcap" given
  refine ⟨given, directory, entry, args, place.2 ?_⟩
  intro l strays
  have parts : stepsOf "/home/./vcap//app/.".toList =
      ["home".toList, "vcap".toList] ++ ["app".toList] := by decide
  exact absurd (strays.eq_of_stepsOf parts).1 (by decide)

/-- Two full stops at the end are dropped instead of followed, and the root with a full stop is
taken for the current directory. -/
theorem source_lost :
    Helper.fetchArgs 42 "/home/vcap/app/.." "vcap" = ["42", "vcap", "/home/vcap/app", "."] ∧
      archived "/home/vcap/app".toList ".".toList ≠ ofPath "/home/vcap/app/..".toList ∧
    Helper.fetchArgs 42 "/." "vcap" = ["42", "vcap", ".", "."] ∧
      archived ".".toList ".".toList ≠ ofPath "/.".toList := by
  decide

end SourcePath
end SandboxPods
