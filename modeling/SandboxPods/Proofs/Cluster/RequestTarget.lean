import Mathlib.Data.List.Basic
import Std.Data.String.ToInt
import SandboxPods.Cluster.Request
import SandboxPods.Proofs.Text.Encoded

/-!
# What a request asks for

A path is read as a server reads it: what stands before the first question mark is cut at its
slashes and what stands after it at its ampersands and equals signs, and every piece is decoded
by itself. Since names, selectors and everything else are written with unreserved characters and
percent signs alone, no piece adds a cut. So the path of a call is read as the segments and
parameters that its kind has, with the texts that the call was made with in their places, and two
calls of one kind that send the same path are the same call.
-/
namespace SandboxPods

/-- The segments between the slashes of a path, and its parameters in order. -/
structure RequestTarget where
  segments : List String
  parameters : List (String × String) := []
  deriving DecidableEq, Repr

namespace RequestTarget
variable {sep : Char} {s : String} {t : RequestTarget}

/-! ## Reading a path -/

def readParameter? (cs : List Char) : Option (String × String) :=
  match Text.splitAll '=' cs with
  | [name, value] => do return (← Percent.decode? name, ← Percent.decode? value)
  | _ => none

def read? (path : List Char) : Option RequestTarget :=
  match Text.splitFirst '?' path with
  | none => do return { segments := ← (Text.splitAll '/' path).mapM Percent.decode? }
  | some (front, query) => do
    return {
      segments := ← (Text.splitAll '/' front).mapM Percent.decode?
      parameters := ← (Text.splitAll '&' query).mapM readParameter? }

/-! ## Writing one -/

def writeParameter (p : String × String) : List Char :=
  Percent.encode p.1 ++ '=' :: Percent.encode p.2

def writeFront (segments : List String) : List Char :=
  Text.joinWith '/' (segments.map Percent.encode)

/-- Parameters with a question mark in front of them, if there are any. -/
def writeQuery (parameters : List (String × String)) : List Char :=
  if parameters = [] then [] else '?' :: Text.joinWith '&' (parameters.map writeParameter)

def write (t : RequestTarget) : List Char := writeFront t.segments ++ writeQuery t.parameters

theorem not_mem_encode (cuts : ¬ Percent.Appears sep) : sep ∉ Percent.encode s :=
  fun mem => cuts (Percent.appears_of_mem_encode mem)

theorem not_mem_writeParameter (cuts : ¬ Percent.Appears sep) (other : sep ≠ '=')
    (p : String × String) : sep ∉ writeParameter p := by
  rw [writeParameter, List.mem_append, List.mem_cons]
  rintro (name | equals | value)
  · exact not_mem_encode cuts name
  · exact other equals
  · exact not_mem_encode cuts value

theorem readParameter?_write (p : String × String) :
    readParameter? (writeParameter p) = some p := by
  have cut (s : String) : Text.splitAll '=' (Percent.encode s) = [Percent.encode s] :=
    Text.splitAll_of_not_mem (not_mem_encode (by decide))
  rw [readParameter?, writeParameter, Text.splitAll_append, cut, cut, List.singleton_append]
  simp only [Percent.decode?_encode]
  rfl

theorem read_front {segments : List String} (given : segments ≠ []) :
    (Text.splitAll '/' (writeFront segments)).mapM Percent.decode? = some segments := by
  rw [writeFront, Text.splitAll_joinWith]
  · exact Text.mapM_map Percent.decode?_encode segments
  · exact mt List.map_eq_nil_iff.1 given
  · exact List.forall_mem_map.2 fun s _ => not_mem_encode (by decide)

theorem read_query {parameters : List (String × String)} (given : parameters ≠ []) :
    (Text.splitAll '&' (Text.joinWith '&' (parameters.map writeParameter))).mapM readParameter? =
      some parameters := by
  rw [Text.splitAll_joinWith]
  · exact Text.mapM_map readParameter?_write parameters
  · exact mt List.map_eq_nil_iff.1 given
  · exact List.forall_mem_map.2 fun p _ => not_mem_writeParameter (by decide) (by decide) p

theorem writeFront_concat {segments : List String} (given : segments ≠ []) (s : String) :
    writeFront (segments ++ [s]) = writeFront segments ++ '/' :: Percent.encode s := by
  rw [writeFront, List.map_append, List.map_singleton,
    Text.joinWith_concat '/' _ (mt List.map_eq_nil_iff.1 given), writeFront]

theorem not_mem_writeFront (segments : List String) : '?' ∉ writeFront segments := by
  intro mem
  rcases Text.mem_joinWith mem with slash | ⟨piece, written, mem⟩
  · cases slash
  · obtain ⟨s, -, rfl⟩ := List.mem_map.1 written
    exact not_mem_encode (by decide) mem

/-- What is written is read back, whatever its texts are. -/
theorem read?_write (given : t.segments ≠ []) : read? t.write = some t := by
  have front := not_mem_writeFront t.segments
  rw [write, writeQuery, read?]
  by_cases none : t.parameters = []
  · rw [if_pos none, List.append_nil, Text.splitFirst_eq_none_iff.2 front]
    simp only [read_front given, ← none]
    rfl
  · rw [if_neg none, Text.splitFirst_append _ front]
    simp only [read_front given, read_query none]
    rfl

end RequestTarget

namespace ClusterCall
open RequestTarget

/-! ## Targets of calls -/

def graceParameters (grace : Option Int) : List (String × String) :=
  (grace.map fun seconds => ("gracePeriodSeconds", toString seconds)).toList

def selectorParameters (selector : PodSelector) : List (String × String) :=
  (selector.field.map fun field => ("fieldSelector", field)).toList ++
    (selector.label.map fun label => ("labelSelector", label)).toList

/-- What a server is to find in the path of a call. -/
def target : ClusterCall → RequestTarget
  | .getNode name => ⟨["", "api", "v1", "nodes", name], []⟩
  | .getPod ns name => ⟨["", "api", "v1", "namespaces", ns, "pods", name], []⟩
  | .createPod pod => ⟨["", "api", "v1", "namespaces", pod.podNamespace, "pods"], []⟩
  | .deletePod ns name grace =>
    ⟨["", "api", "v1", "namespaces", ns, "pods", name], graceParameters grace⟩
  | .listPods ns selector =>
    ⟨["", "api", "v1", "namespaces", ns, "pods"], selectorParameters selector⟩

theorem target_segments (call : ClusterCall) : call.target.segments ≠ [] := by
  cases call <;> exact List.cons_ne_nil _ _

theorem toList_encoded (s : String) : (encoded s).toList = Percent.encode s := String.toList_ofList

theorem encode_empty : Percent.encode "" = [] := Percent.encode_word (by decide)

theorem encode_api : Percent.encode "api" = ['a', 'p', 'i'] := Percent.encode_word (by decide)

theorem encode_v1 : Percent.encode "v1" = ['v', '1'] := Percent.encode_word (by decide)

-- The fixed parts are compared as lists of characters, where no name stands beside them.
theorem toList_nodes :
    "/api/v1/nodes/".toList = writeFront ["", "api", "v1", "nodes"] ++ ['/'] := by
  have nodes : Percent.encode "nodes" = ['n', 'o', 'd', 'e', 's'] := Percent.encode_word (by decide)
  simp only [writeFront, List.map_cons, List.map_nil, Text.joinWith, encode_empty, encode_api,
    encode_v1, nodes]
  rfl

theorem toList_namespaces :
    "/api/v1/namespaces/".toList = writeFront ["", "api", "v1", "namespaces"] ++ ['/'] := by
  have namespaces :
      Percent.encode "namespaces" = ['n', 'a', 'm', 'e', 's', 'p', 'a', 'c', 'e', 's'] :=
    Percent.encode_word (by decide)
  simp only [writeFront, List.map_cons, List.map_nil, Text.joinWith, encode_empty, encode_api,
    encode_v1, namespaces]
  rfl

theorem toList_pods : "/pods".toList = '/' :: Percent.encode "pods" := by
  have pods : Percent.encode "pods" = ['p', 'o', 'd', 's'] := Percent.encode_word (by decide)
  rw [pods]
  rfl

theorem toList_nodePath (name : String) :
    (nodePath name).toList = writeFront ["", "api", "v1", "nodes", name] := by
  have last := writeFront_concat (List.cons_ne_nil "" ["api", "v1", "nodes"]) name
  unfold nodePath
  rw [String.toList_append, toList_encoded, toList_nodes, List.append_assoc]
  exact last.symm

theorem toList_podsPath (ns : String) :
    (podsPath ns).toList = writeFront ["", "api", "v1", "namespaces", ns, "pods"] := by
  have inside := writeFront_concat (List.cons_ne_nil "" ["api", "v1", "namespaces"]) ns
  have last := writeFront_concat (List.cons_ne_nil "" ["api", "v1", "namespaces", ns]) "pods"
  unfold podsPath
  rw [String.toList_append, String.toList_append, toList_encoded, toList_namespaces, toList_pods,
    List.append_assoc _ ['/']]
  exact (congrArg (· ++ _) inside.symm).trans last.symm

theorem toList_podPath (ns name : String) :
    (podPath ns name).toList = writeFront ["", "api", "v1", "namespaces", ns, "pods", name] := by
  have last := writeFront_concat (List.cons_ne_nil "" ["api", "v1", "namespaces", ns, "pods"]) name
  unfold podPath
  rw [String.toList_append, String.toList_append, toList_encoded, toList_podsPath,
    List.append_assoc]
  exact last.symm

/-- A numeral stands as itself. -/
theorem encoded_toString (seconds : Int) : encoded (toString seconds) = toString seconds := by
  have digits (n : Nat) (c : Char) (h : c ∈ n.repr.toList) : Percent.Plain c := by
    rw [Nat.toList_repr] at h
    have digit : 48 ≤ c.toNat ∧ c.toNat ≤ 57 := by
      simpa [Char.isDigit, UInt32.le_iff_toNat_le] using
        Nat.isDigit_of_mem_toDigits (by decide) (by decide) h
    have byte : (UInt8.ofNat c.toNat).toNat = c.toNat := by
      rw [UInt8.toNat_ofNat']
      omega
    have unreserved : Percent.isUnreserved (UInt8.ofNat c.toNat) = true := by
      simp [Percent.isUnreserved, UInt8.le_iff_toNat_le, byte, digit]
    exact ⟨by omega, unreserved⟩
  rw [encoded, Percent.encode_eq_toList, String.ofList_toList]
  cases seconds with
  | ofNat n => exact digits n
  | negSucc n =>
      intro c h
      rw [Int.toString_eq_repr, Int.repr, String.toList_append, List.mem_append] at h
      rcases h with sign | h
      · obtain rfl := List.mem_singleton.1 sign
        decide
      · exact digits _ c h

/-- The parameters that are present are written one after another. -/
theorem toList_query (parameters : List (String × Option String))
    (words : ∀ p ∈ parameters, Percent.encode p.1 = p.1.toList) :
    (query (parameters.map fun p => (p.1, p.2.map encoded))).toList =
      writeQuery (parameters.filterMap fun p => p.2.map (p.1, ·)) := by
  unfold query
  generalize strings : (parameters.map fun p => (p.1, p.2.map encoded)).filterMap
    (fun p => p.2.map (fun v => p.1 ++ "=" ++ v)) = shown
  generalize values : (parameters.filterMap fun p => p.2.map (p.1, ·)) = present
  -- What is joined is the same list twice: the texts of the call and the pairs that are written.
  have written : shown.map String.toList = present.map writeParameter := by
    rw [← strings, ← values, List.filterMap_map, List.map_filterMap, List.map_filterMap]
    refine List.filterMap_congr fun p mem => ?_
    cases value : p.2 with
    | none => simp only [Function.comp_apply, value, Option.map_none]
    | some v =>
        simp only [Function.comp_apply, value, Option.map_some, String.toList_append,
          writeParameter, words p mem, toList_encoded, List.append_assoc]
        rfl
  cases shown with
  | nil =>
      rw [writeQuery, if_pos (List.map_eq_nil_iff.1 written.symm)]
      rfl
  | cons s shown =>
      have some : present ≠ [] := by
        rintro rfl
        cases written
      rw [writeQuery, if_neg some, ← written, Text.joinWith_eq_intercalate]
      dsimp only [List.isEmpty_cons]
      rw [if_neg Bool.false_ne_true, String.toList_append, String.toList_intercalate]
      rfl

theorem toList_grace (grace : Option Int) :
    (query [("gracePeriodSeconds", grace.map toString)]).toList =
      writeQuery (graceParameters grace) := by
  have numeral : grace.map toString = (grace.map toString).map encoded := by
    cases grace with
    | none => rfl
    | some seconds => rw [Option.map_some, Option.map_some, encoded_toString]
  have word : Percent.encode "gracePeriodSeconds" = "gracePeriodSeconds".toList :=
    Percent.encode_word (by decide)
  have written := toList_query [("gracePeriodSeconds", grace.map toString)]
    (List.forall_mem_singleton.2 word)
  rw [List.map_singleton, ← numeral] at written
  rw [written]
  cases grace <;> rfl

theorem toList_selector (selector : PodSelector) :
    (query [("fieldSelector", selector.field.map encoded),
        ("labelSelector", selector.label.map encoded)]).toList =
      writeQuery (selectorParameters selector) := by
  have field : Percent.encode "fieldSelector" = "fieldSelector".toList :=
    Percent.encode_word (by decide)
  have label : Percent.encode "labelSelector" = "labelSelector".toList :=
    Percent.encode_word (by decide)
  have written := toList_query
    [("fieldSelector", selector.field), ("labelSelector", selector.label)]
    (List.forall_mem_cons.2 ⟨field, List.forall_mem_singleton.2 label⟩)
  obtain ⟨field, label⟩ := selector
  cases field <;> cases label <;> exact written

/-- The path of a call is the written form of its target. -/
theorem toList_path (call : ClusterCall) : call.path.toList = call.target.write := by
  cases call with
  | getNode name => exact (toList_nodePath name).trans (List.append_nil _).symm
  | getPod ns name => exact (toList_podPath ns name).trans (List.append_nil _).symm
  | createPod pod => exact (toList_podsPath pod.podNamespace).trans (List.append_nil _).symm
  | deletePod ns name grace =>
      rw [path, String.toList_append, toList_podPath, toList_grace]
      rfl
  | listPods ns selector =>
      rw [path, String.toList_append, toList_podsPath, toList_selector]
      rfl

theorem read?_path (call : ClusterCall) : read? call.path.toList = some call.target := by
  rw [toList_path, read?_write (target_segments call)]

/-- Calls with the same path ask for the same. -/
theorem target_eq {a b : ClusterCall} (same : a.path = b.path) : a.target = b.target := by
  have read := read?_path a
  rw [same, read?_path b] at read
  exact (Option.some.inj read).symm

/-! ## Calls of one kind -/

/-- A server reads the numeral of a grace period as its seconds. -/
theorem grace_read (grace : Option Int) :
    ((graceParameters grace).lookup "gracePeriodSeconds").bind String.toInt? = grace := by
  cases grace with
  | none => rfl
  | some seconds => exact Int.toInt?_repr seconds

theorem selector_read (selector : PodSelector) :
    (selectorParameters selector).lookup "fieldSelector" = selector.field ∧
      (selectorParameters selector).lookup "labelSelector" = selector.label := by
  obtain ⟨field, label⟩ := selector
  cases field <;> cases label <;> exact ⟨rfl, rfl⟩

theorem getPod_path_inj {ns name ns' name' : String} :
    (getPod ns name).path = (getPod ns' name').path ↔ ns = ns' ∧ name = name' := by
  constructor
  · intro same
    have targets := target_eq same
    simp only [target, RequestTarget.mk.injEq, List.cons.injEq, true_and, and_true] at targets
    exact targets
  · rintro ⟨rfl, rfl⟩
    rfl

theorem deletePod_path_inj {ns name ns' name' : String} {grace grace' : Option Int} :
    (deletePod ns name grace).path = (deletePod ns' name' grace').path ↔
      ns = ns' ∧ name = name' ∧ grace = grace' := by
  constructor
  · intro same
    have targets := target_eq same
    simp only [target, RequestTarget.mk.injEq, List.cons.injEq, true_and, and_true] at targets
    obtain ⟨⟨namespaces, names⟩, parameters⟩ := targets
    refine ⟨namespaces, names, ?_⟩
    rw [← grace_read grace, parameters, grace_read]
  · rintro ⟨rfl, rfl, rfl⟩
    rfl

theorem listPods_path_inj {ns ns' : String} {selector selector' : PodSelector} :
    (listPods ns selector).path = (listPods ns' selector').path ↔
      ns = ns' ∧ selector = selector' := by
  constructor
  · intro same
    have targets := target_eq same
    simp only [target, RequestTarget.mk.injEq, List.cons.injEq, true_and, and_true] at targets
    obtain ⟨namespaces, parameters⟩ := targets
    obtain ⟨field, label⟩ := selector_read selector
    obtain ⟨field', label'⟩ := selector_read selector'
    rw [parameters] at field label
    have fields := field.symm.trans field'
    have labels := label.symm.trans label'
    obtain ⟨_, _⟩ := selector
    obtain ⟨_, _⟩ := selector'
    exact ⟨namespaces, congr (congrArg PodSelector.mk fields) labels⟩
  · rintro ⟨rfl, rfl⟩
    rfl

/-- A server that cuts the path of a call at its signs and decodes the pieces finds the segments
and parameters of the call's kind, with the namespace, the name, the grace period and the
selectors of the call in them and nothing besides. So calls of one kind send the same path only
when they ask for the same. -/
theorem requests_told_apart (ns name : String) (grace : Option Int) (selector : PodSelector) :
    (read? (getPod ns name).path.toList =
        some ⟨["", "api", "v1", "namespaces", ns, "pods", name], []⟩ ∧
      ∀ ns' name', (getPod ns name).path = (getPod ns' name').path ↔ ns = ns' ∧ name = name') ∧
    (read? (deletePod ns name grace).path.toList =
        some ⟨["", "api", "v1", "namespaces", ns, "pods", name], graceParameters grace⟩ ∧
      ((graceParameters grace).lookup "gracePeriodSeconds").bind String.toInt? = grace ∧
      ∀ ns' name' grace', (deletePod ns name grace).path = (deletePod ns' name' grace').path ↔
        ns = ns' ∧ name = name' ∧ grace = grace') ∧
    (read? (listPods ns selector).path.toList =
        some ⟨["", "api", "v1", "namespaces", ns, "pods"], selectorParameters selector⟩ ∧
      (selectorParameters selector).lookup "fieldSelector" = selector.field ∧
      (selectorParameters selector).lookup "labelSelector" = selector.label ∧
      ∀ ns' selector', (listPods ns selector).path = (listPods ns' selector').path ↔
        ns = ns' ∧ selector = selector') := by
  obtain ⟨field, label⟩ := selector_read selector
  refine ⟨⟨?_, fun _ _ => getPod_path_inj⟩,
    ⟨?_, grace_read grace, fun _ _ _ => deletePod_path_inj⟩,
    ⟨?_, field, label, fun _ _ => listPods_path_inj⟩⟩
  · exact read?_path (.getPod ns name)
  · exact read?_path (.deletePod ns name grace)
  · exact read?_path (.listPods ns selector)

end ClusterCall
end SandboxPods
