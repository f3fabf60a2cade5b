import SandboxPods.Pod.Wire
import SandboxPods.Proofs.Json.Reading

/-!
# Pods come back from the wire

Every pod is read back from the JSON value that it is written as, in whatever order the members
of the objects stand, so different pods are written as different values. Each record writes a
fixed list of members and leaves out those that hold what its reader supplies; the reader is
then followed field by field.
-/
namespace SandboxPods
open Json

theorem Quantity.reads : Reads Quantity.toJson Quantity.ofJson? := by
  intro q v h
  cases h
  rfl

theorem Resources.reads : Reads (ofTable Quantity.toJson) (tableOf Quantity.ofJson?) :=
  Quantity.reads.table

theorem empty_of_isEmpty {α : Type} {t : Table α} (h : t.isEmpty = true) : t = {} := by
  obtain ⟨entries, ascending⟩ := t
  cases List.isEmpty_iff.1 h
  rfl

namespace ObjectMeta

theorem toJson_eq (m : ObjectMeta) : m.toJson = .object (present [
    ("name", some (.string m.name)),
    ("namespace", shownUnless m.podNamespace.isEmpty (.string m.podNamespace)),
    ("labels", shownUnless m.labels.isEmpty (ofTable .string m.labels))]) := by
  simp only [toJson, present_some, present_text, present_table, present_nil, List.append_nil,
    List.cons_append]

theorem reads : Reads toJson ofJson? := by
  intro m v h
  rw [toJson_eq] at h
  obtain ⟨f, known, found⟩ := fields_present ["name", "namespace", "labels"] (by simp) h
  simp only [List.forall_mem_cons] at found
  obtain ⟨name, podNamespace, labels, -⟩ := found
  have name := reads_text.given "" name
  have podNamespace := reads_text.withDefault "" podNamespace String.isEmpty_iff.1
  have labels := reads_text.table.withDefault {} labels empty_of_isEmpty
  simp [ofJson?, known, name, podNamespace, labels]

end ObjectMeta

theorem reads_port : Reads portNumber port := by
  intro n v h
  cases h
  have bounds : (0 : Int) ≤ n.toNat ∧ (n.toNat : Int) ≤ 65535 := by
    have := n.toNat_lt
    omega
  change (if _ then _ else _) = _
  rw [if_pos bounds]
  simp

namespace ContainerPort

theorem toJson_eq (p : ContainerPort) : p.toJson = .object (present [
    ("containerPort", some (portNumber p.containerPort)),
    ("hostPort", p.hostPort.map portNumber),
    ("protocol", some (.string p.protocol))]) := by
  simp only [toJson, present_some, present_optional, present_nil, List.cons_append]

theorem reads : Reads toJson ofJson? := by
  intro p v h
  rw [toJson_eq] at h
  obtain ⟨f, known, found⟩ := fields_present ["containerPort", "hostPort", "protocol"] (by simp) h
  simp only [List.forall_mem_cons] at found
  obtain ⟨containerPort, hostPort, protocol, -⟩ := found
  have containerPort := reads_port.required containerPort
  have hostPort := reads_port.optional rfl hostPort
  have protocol := reads_text.given "TCP" protocol
  simp [ofJson?, known, containerPort, hostPort, protocol]

end ContainerPort

namespace ResourceRequirements

theorem toJson_eq (r : ResourceRequirements) : r.toJson = .object (present [
    ("requests", shownUnless r.requests.isEmpty (ofTable Quantity.toJson r.requests)),
    ("limits", shownUnless r.limits.isEmpty (ofTable Quantity.toJson r.limits))]) := by
  simp only [toJson, present_table, present_nil, List.append_nil]

theorem reads : Reads toJson ofJson? := by
  intro r v h
  rw [toJson_eq] at h
  obtain ⟨f, known, found⟩ := fields_present ["requests", "limits"] (by simp) h
  simp only [List.forall_mem_cons] at found
  obtain ⟨requests, limits, -⟩ := found
  have requests := Resources.reads.withDefault {} requests empty_of_isEmpty
  have limits := Resources.reads.withDefault {} limits empty_of_isEmpty
  simp [ofJson?, known, requests, limits]

theorem eq_of_isEmpty {r : ResourceRequirements} (h : r.isEmpty = true) : r = {} := by
  obtain ⟨requests, limits⟩ := r
  obtain ⟨unrequested, unlimited⟩ := Bool.and_eq_true_iff.1 h
  exact congrArg₂ mk (empty_of_isEmpty unrequested) (empty_of_isEmpty unlimited)

end ResourceRequirements

namespace VolumeMount

theorem toJson_eq (m : VolumeMount) : m.toJson = .object (present [
    ("name", some (.string m.name)),
    ("mountPath", some (.string m.mountPath)),
    ("readOnly", shownUnless (!m.readOnly) (.bool m.readOnly))]) := by
  rw [toJson]
  cases m.readOnly <;> rfl

theorem reads : Reads toJson ofJson? := by
  intro m v h
  rw [toJson_eq] at h
  obtain ⟨f, known, found⟩ := fields_present ["name", "mountPath", "readOnly"] (by simp) h
  simp only [List.forall_mem_cons] at found
  obtain ⟨name, mountPath, readOnly, -⟩ := found
  have name := reads_text.required name
  have mountPath := reads_text.required mountPath
  have readOnly := reads_boolean.withDefault false readOnly (by simp)
  simp [ofJson?, known, name, mountPath, readOnly]

end VolumeMount

namespace PodContainer

theorem toJson_eq (c : PodContainer) : c.toJson = .object (present [
    ("name", some (.string c.name)),
    ("image", some (.string c.image)),
    ("imagePullPolicy", c.imagePullPolicy.map .string),
    ("command", shownUnless c.command.isEmpty (.array (c.command.map .string))),
    ("ports", shownUnless c.ports.isEmpty (.array (c.ports.map ContainerPort.toJson))),
    ("volumeMounts", shownUnless c.volumeMounts.isEmpty
      (.array (c.volumeMounts.map VolumeMount.toJson))),
    ("resources", shownUnless c.resources.isEmpty c.resources.toJson)]) := by
  simp only [toJson, present_some, present_optional, present_list, List.append_assoc,
    List.cons_append]
  simp only [present_unless, present_nil, List.append_nil]

theorem reads : Reads toJson ofJson? := by
  intro c v h
  rw [toJson_eq] at h
  obtain ⟨f, known, found⟩ := fields_present fieldNames (by simp) h
  simp only [List.forall_mem_cons] at found
  obtain ⟨name, image, imagePullPolicy, command, ports, volumeMounts, resources, -⟩ := found
  have name := reads_text.required name
  have image := reads_text.given "" image
  have imagePullPolicy := reads_text.optional rfl imagePullPolicy
  have command := reads_text.list.withDefault [] command List.isEmpty_iff.1
  have ports := ContainerPort.reads.list.withDefault [] ports List.isEmpty_iff.1
  have volumeMounts :=
    VolumeMount.reads.list.withDefault [] volumeMounts List.isEmpty_iff.1
  have resources := ResourceRequirements.reads.withDefault {} resources
    ResourceRequirements.eq_of_isEmpty
  simp [ofJson?, known, name, image, imagePullPolicy, command, ports, volumeMounts, resources]

end PodContainer

namespace Volume

theorem reads_source (name : String) : Reads (sourceToJson name) (sourceOfJson? name) := by
  intro s v h
  have written : Reordered (.object (present [(name, some (.string s))])) v := h
  obtain ⟨f, known, found⟩ := fields_present [name] (by simp) written
  have source := reads_text.required (found _ (List.mem_singleton.2 rfl))
  simp [sourceOfJson?, known, source]

theorem toJson_eq (v : Volume) : v.toJson = .object (present [
    ("name", some (.string v.name)),
    ("emptyDir", shownUnless (!v.emptyDir) (.object [])),
    ("hostPath", v.hostPath.map (sourceToJson "path")),
    ("configMap", v.configMap.map (sourceToJson "name"))]) := by
  simp only [toJson, present_some, present_optional, present_unless, present_nil,
    List.append_nil, List.append_assoc, List.cons_append]
  cases v.emptyDir <;> rfl

/-- An object without members says no more than that it is there. -/
theorem optional_nothing {f : Fields} {name : String} {given : Bool}
    (found : Option.Rel Reordered (shownUnless (!given) (.object [])) (f.find name)) :
    ∃ there, f.optional name (fields []) = some there ∧ there.isSome = given := by
  unfold Fields.optional Fields.withDefault
  generalize f.find name = value at found
  cases given with
  | false =>
      cases found
      exact ⟨none, rfl, rfl⟩
  | true =>
      cases found with
      | some same =>
          obtain ⟨others, rfl, names, -⟩ := same.members (by simp)
          cases List.map_eq_nil_iff.1 (List.nil_perm.1 names)
          exact ⟨_, rfl, rfl⟩

theorem reads : Reads toJson ofJson? := by
  intro volume v h
  rw [toJson_eq] at h
  obtain ⟨f, known, found⟩ :=
    fields_present ["name", "emptyDir", "hostPath", "configMap"] (by simp) h
  simp only [List.forall_mem_cons] at found
  obtain ⟨name, emptyDir, hostPath, configMap, -⟩ := found
  have name := reads_text.required name
  have hostPath := (reads_source "path").optional rfl hostPath
  have configMap := (reads_source "name").optional rfl configMap
  obtain ⟨there, emptyDir, given⟩ := optional_nothing emptyDir
  simp [ofJson?, known, name, emptyDir, given, hostPath, configMap]

end Volume

namespace PodSpec

theorem reads_long : Reads long readLong := by
  intro n v h
  cases h
  have bounds : (-9223372036854775808 : Int) ≤ n.toInt ∧ n.toInt ≤ 9223372036854775807 := by
    have := n.le_toInt
    have := n.toInt_lt
    omega
  change Option.map _ (if _ then _ else _) = _
  rw [if_pos bounds]
  simp

theorem toJson_eq (s : PodSpec) : s.toJson = .object (present [
    ("automountServiceAccountToken", s.automountServiceAccountToken.map .bool),
    ("enableServiceLinks", s.enableServiceLinks.map .bool),
    ("nodeName", s.nodeName.map .string),
    ("terminationGracePeriodSeconds", s.terminationGracePeriodSeconds.map long),
    ("hostUsers", s.hostUsers.map .bool),
    ("restartPolicy", s.restartPolicy.map .string),
    ("resources", s.resources.map ResourceRequirements.toJson),
    ("volumes", shownUnless s.volumes.isEmpty (.array (s.volumes.map Volume.toJson))),
    ("containers", some (.array (s.containers.map PodContainer.toJson)))]) := by
  simp only [toJson, present_some, present_optional, present_list, present_nil, List.append_assoc]

theorem reads : Reads toJson ofJson? := by
  intro s v h
  rw [toJson_eq] at h
  obtain ⟨f, known, found⟩ := fields_present fieldNames (by simp) h
  simp only [List.forall_mem_cons] at found
  obtain ⟨automount, serviceLinks, nodeName, gracePeriod, hostUsers, restartPolicy, resources,
    volumes, containers, -⟩ := found
  have automount := reads_boolean.optional rfl automount
  have serviceLinks := reads_boolean.optional rfl serviceLinks
  have nodeName := reads_text.optional rfl nodeName
  have gracePeriod := reads_long.optional rfl gracePeriod
  have hostUsers := reads_boolean.optional rfl hostUsers
  have restartPolicy := reads_text.optional rfl restartPolicy
  have resources := ResourceRequirements.reads.optional rfl resources
  have volumes := Volume.reads.list.withDefault [] volumes List.isEmpty_iff.1
  have containers := PodContainer.reads.list.given [] containers
  simp [ofJson?, known, automount, serviceLinks, nodeName, gracePeriod, hostUsers, restartPolicy,
    resources, volumes, containers]

end PodSpec

theorem PodPhase.reads : Reads (fun p => .string (PodPhase.name p)) PodPhase.ofJson? := by
  intro p v h
  cases h
  cases p <;> decide

namespace ContainerStatus

theorem toJson_eq (s : ContainerStatus) : s.toJson = .object (present [
    ("name", some (.string s.name)),
    ("containerID", s.containerId.map .string)]) := by
  simp only [toJson, present_some, present_optional, present_nil, List.append_nil]

theorem reads : Reads toJson ofJson? := by
  intro s v h
  rw [toJson_eq] at h
  obtain ⟨f, known, found⟩ := fields_present ["name", "containerID"] (by simp) h
  simp only [List.forall_mem_cons] at found
  obtain ⟨name, containerId, -⟩ := found
  have name := reads_text.required name
  have containerId := reads_text.optional rfl containerId
  simp [ofJson?, known, name, containerId]

end ContainerStatus

namespace PodStatus

theorem toJson_eq (s : PodStatus) : s.toJson = .object (present [
    ("phase", s.phase.map fun p => .string p.name),
    ("hostIP", shownUnless s.hostIp.isEmpty (.string s.hostIp)),
    ("podIP", shownUnless s.podIp.isEmpty (.string s.podIp)),
    ("containerStatuses", shownUnless s.containerStatuses.isEmpty
      (.array (s.containerStatuses.map ContainerStatus.toJson)))]) := by
  simp only [toJson, present_optional, present_text, present_list, present_nil, List.append_nil,
    List.append_assoc]

theorem reads : Reads toJson ofJson? := by
  intro s v h
  rw [toJson_eq] at h
  obtain ⟨f, known, found⟩ :=
    fields_present ["phase", "hostIP", "podIP", "containerStatuses"] (by simp) h
  simp only [List.forall_mem_cons] at found
  obtain ⟨phase, hostIp, podIp, statuses, -⟩ := found
  have phase := PodPhase.reads.optional rfl phase
  have hostIp := reads_text.withDefault "" hostIp String.isEmpty_iff.1
  have podIp := reads_text.withDefault "" podIp String.isEmpty_iff.1
  have statuses :=
    ContainerStatus.reads.list.withDefault [] statuses List.isEmpty_iff.1
  simp [ofJson?, known, phase, hostIp, podIp, statuses]

/-- A status is left out only when there is nothing in it. -/
theorem eq_of_isEmpty {s : PodStatus} (h : s.isEmpty = true) : s = {} := by
  obtain ⟨phase, hostIp, podIp, statuses⟩ := s
  simp only [isEmpty, Bool.and_eq_true, Option.isNone_iff_eq_none, String.isEmpty_iff,
    List.isEmpty_iff] at h
  obtain ⟨⟨⟨rfl, rfl⟩, rfl⟩, rfl⟩ := h
  rfl

end PodStatus

namespace Pod

theorem toJson_eq (p : Pod) : p.toJson = .object (present [
    ("apiVersion", some (.string p.apiVersion)),
    ("kind", some (.string p.kind)),
    ("metadata", some p.metadata.toJson),
    ("spec", some p.spec.toJson),
    ("status", shownUnless p.status.isEmpty p.status.toJson)]) := by
  simp only [toJson, present_some, present_unless, present_nil, List.append_nil]

theorem reads : Reads toJson ofJson? := by
  intro p v h
  rw [toJson_eq] at h
  obtain ⟨f, known, found⟩ :=
    fields_present ["apiVersion", "kind", "metadata", "spec", "status"] (by simp) h
  simp only [List.forall_mem_cons] at found
  obtain ⟨apiVersion, kind, metadata, spec, status, -⟩ := found
  have apiVersion := reads_text.given "v1" apiVersion
  have kind := reads_text.given "Pod" kind
  have metadata := ObjectMeta.reads.given {} metadata
  have spec := PodSpec.reads.given {} spec
  have status := PodStatus.reads.withDefault {} status PodStatus.eq_of_isEmpty
  simp [ofJson?, known, apiVersion, kind, metadata, spec, status]

/-- A pod comes back from every value that is its own up to the order of members, and two pods
never share one. -/
theorem pods_come_back (p : Pod) : ofJson? p.toJson = some p ∧
    (∀ v, Reordered p.toJson v → ofJson? v = some p) ∧
    ∀ q : Pod, (∃ v, Reordered p.toJson v ∧ Reordered q.toJson v) → p = q := by
  refine ⟨reads p _ (.same _), reads p, ?_⟩
  rintro q ⟨v, first, second⟩
  exact Option.some.inj ((reads p v first).symm.trans (reads q v second))

end Pod
end SandboxPods
