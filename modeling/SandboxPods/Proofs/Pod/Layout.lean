import Mathlib.Data.List.Nodup
import Std.Data.String.ToNat
import SandboxPods.Pod.Plan

/-!
# Layout of the built pods

A container refers to the volumes of its pod by name. In a built pod the names are all
different: one for the scratch directory, one for the init program and one for each bind
mount, numbered by its place. What a container mounts is a part of these names, in the same
order, so a mount finds one volume and a volume is mounted at most once. The published ports
stand in one container, whichever that is.
-/
namespace SandboxPods

/-! ## Volumes and their mounts -/

/-- Where the contents of a volume come from. -/
inductive VolumeSource where
  | scratch
  | directory (path : String)
  | configMap (name : String)
  deriving DecidableEq

def Volume.sources (v : Volume) : List VolumeSource :=
  (if v.emptyDir then [.scratch] else []) ++
    v.hostPath.toList.map .directory ++ v.configMap.toList.map .configMap

/-- The volumes that a mount with this name could mean. -/
def Pod.volumesNamed (pod : Pod) (name : String) : List Volume :=
  pod.spec.volumes.filter (·.name = name)

/-- The mounts of a volume in a container. -/
def PodContainer.mountsOf (c : PodContainer) (volume : String) : List VolumeMount :=
  c.volumeMounts.filter (·.name = volume)

/-- Where the keys differ, an entry is the only one under its key. -/
theorem filter_key_eq_singleton {α β : Type} [DecidableEq β] {key : α → β} {l : List α}
    (nodup : (l.map key).Nodup) {a : α} (mem : a ∈ l) :
    l.filter (fun x => key x = key a) = [a] := by
  induction l with
  | nil => simp at mem
  | cons x rest ih =>
      rw [List.map_cons, List.nodup_cons] at nodup
      obtain ⟨fresh, nodup⟩ := nodup
      rcases List.mem_cons.mp mem with rfl | mem
      · have others : rest.filter (fun y => key y = key a) = [] := by
          rw [List.filter_eq_nil_iff]
          intro y hy same
          exact fresh (of_decide_eq_true same ▸ List.mem_map_of_mem hy)
        simp [others]
      · have ne : key x ≠ key a := fun same => fresh (same ▸ List.mem_map_of_mem mem)
        simp [ne, ih nodup mem]

/-- Keys that only the place decides. -/
theorem map_mapIdx_of_key {α β γ : Type} {f : Nat → α → β} {key : β → γ} {name : Nat → γ}
    (h : ∀ i a, key (f i a) = name i) (l : List α) :
    (l.mapIdx f).map key = (List.range l.length).map name := by
  apply List.ext_getElem
  · simp
  · intro i _ _
    simp [h]

namespace PodPlan
variable (p : PodPlan)

/-! ## Names of the volumes -/

theorem bindVolumeName_injective : Function.Injective bindVolumeName := by
  intro i j same
  have digits : i.repr = j.repr := (String.append_right_inj "bind-mount-").mp same
  exact Nat.repr_injective digits

theorem head?_bindVolumeName (i : Nat) : (bindVolumeName i).toList.head? = some 'b' := by
  simp [bindVolumeName]

@[simp] theorem bindVolume_name (i : Nat) (mount : BindMount) :
    (p.bindVolume i mount).name = bindVolumeName i := by
  unfold bindVolume
  split <;> rfl

/-- Names of the volumes for the bind mounts. -/
def bindNames : List String := (List.range p.spec.bindMounts.length).map bindVolumeName

theorem nodup_bindNames : p.bindNames.Nodup :=
  List.nodup_range.map bindVolumeName_injective

theorem names_bindMounts : p.bindMounts.map (·.name) = p.bindNames :=
  map_mapIdx_of_key (f := bindMount) (fun _ _ => rfl) p.spec.bindMounts

theorem names_volumes :
    p.volumes.map (·.name) = scratchVolume :: initVolume :: p.bindNames := by
  simp [volumes, bindNames, map_mapIdx_of_key p.bindVolume_name]

/-- The fixed names begin with another letter than the generated ones. -/
theorem not_mem_bindNames {name : String} (h : name.toList.head? ≠ some 'b') :
    name ∉ p.bindNames := by
  intro mem
  obtain ⟨i, -, same⟩ := List.mem_map.mp mem
  exact h (same ▸ head?_bindVolumeName i)

theorem nodup_names_volumes : (p.volumes.map (·.name)).Nodup := by
  rw [names_volumes, List.nodup_cons, List.nodup_cons, List.mem_cons, not_or]
  exact ⟨⟨by decide, p.not_mem_bindNames (by decide)⟩,
    p.not_mem_bindNames (by decide), p.nodup_bindNames⟩

theorem volumesNamed_pod {v : Volume} (mem : v ∈ p.volumes) : p.pod.volumesNamed v.name = [v] :=
  filter_key_eq_singleton p.nodup_names_volumes mem

theorem mem_volumes_bindVolume {i : Nat} {mount : BindMount}
    (h : p.spec.bindMounts[i]? = some mount) : p.bindVolume i mount ∈ p.volumes := by
  have place : (p.spec.bindMounts.mapIdx p.bindVolume)[i]? = some (p.bindVolume i mount) := by
    simp [h]
  simp [volumes, List.mem_of_getElem? place]

theorem sources_bindVolume (i : Nat) (mount : BindMount) :
    (p.bindVolume i mount).sources =
      [if p.settings.trustedCertsDir = some mount.source
        then .configMap p.settings.trustedCertsConfigMap else .directory mount.source] := by
  unfold bindVolume
  split <;> rfl

theorem exists_source {v : Volume} (mem : v ∈ p.volumes) : ∃ source, v.sources = [source] := by
  simp only [volumes, List.mem_cons, List.mem_mapIdx] at mem
  rcases mem with rfl | rfl | ⟨i, inside, rfl⟩
  · exact ⟨.scratch, rfl⟩
  · exact ⟨.directory p.settings.initBinary, rfl⟩
  · exact ⟨_, p.sources_bindVolume i _⟩

/-! ## Containers -/

theorem hasSidecar_iff :
    p.hasSidecar = true ↔ p.spec.properties.get? workloadProperty = some Role.app := by
  simp [hasSidecar]

theorem names_containers :
    p.containers.map (·.name) = Role.app :: if p.hasSidecar then [Role.sidecar] else [] := by
  unfold containers
  cases p.hasSidecar <;> rfl

variable {p} {c : PodContainer}

theorem eq_of_mem_containers (mem : c ∈ p.containers) :
    c = p.appContainer ∨ c = p.sidecarContainer := by
  rcases List.mem_cons.mp mem with rfl | further
  · exact .inl rfl
  · cases sidecar : p.hasSidecar
    · simp [sidecar] at further
    · exact .inr (by simpa [sidecar] using further)

theorem initMount_bindMounts_sublist (mem : c ∈ p.containers) :
    (initMount :: p.bindMounts).Sublist c.volumeMounts := by
  rcases eq_of_mem_containers mem with rfl | rfl
  · exact List.sublist_cons_self _ _
  · exact List.Sublist.refl _

/-- A container mounts a part of the volumes, in their order. -/
theorem names_volumeMounts_sublist (mem : c ∈ p.containers) :
    (c.volumeMounts.map (·.name)).Sublist (p.volumes.map (·.name)) := by
  rw [names_volumes, ← names_bindMounts]
  rcases eq_of_mem_containers mem with rfl | rfl
  · exact List.Sublist.refl _
  · exact List.sublist_cons_self _ _

theorem mountsOf_name (mem : c ∈ p.containers) {mount : VolumeMount}
    (mounted : mount ∈ initMount :: p.bindMounts) : c.mountsOf mount.name = [mount] :=
  filter_key_eq_singleton (p.nodup_names_volumes.sublist (names_volumeMounts_sublist mem))
    ((initMount_bindMounts_sublist mem).subset mounted)

theorem exists_volume (mem : c ∈ p.containers) {mount : VolumeMount}
    (mounted : mount ∈ c.volumeMounts) : ∃ v, p.pod.volumesNamed mount.name = [v] := by
  have named : mount.name ∈ p.volumes.map (·.name) :=
    (names_volumeMounts_sublist mem).subset (List.mem_map_of_mem mounted)
  obtain ⟨v, declared, same⟩ := List.mem_map.mp named
  exact ⟨v, same ▸ p.volumesNamed_pod declared⟩

theorem mem_bindMounts {i : Nat} {mount : BindMount}
    (h : p.spec.bindMounts[i]? = some mount) : bindMount i mount ∈ p.bindMounts := by
  have place : p.bindMounts[i]? = some (bindMount i mount) := by simp [bindMounts, h]
  exact List.mem_of_getElem? place

/-! ## Ports -/

variable (p)

/-- The role whose container publishes the ports. -/
def publishingRole : String :=
  if p.spec.properties.get? workloadProperty = some Role.app ∧ p.settings.containerProxy
  then Role.sidecar else Role.app

theorem publishingRole_eq :
    p.publishingRole = if p.isProxied then Role.sidecar else Role.app := by
  simp [publishingRole, isProxied, hasSidecar_iff]

theorem ports_pod : p.pod.ports = p.ports := by
  unfold Pod.ports pod containers
  cases sidecar : p.hasSidecar
  · have direct : p.isProxied = false := by simp [isProxied, sidecar]
    simp [appContainer, direct]
  · cases proxied : p.isProxied <;> simp [appContainer, sidecarContainer, proxied]

variable {p}

theorem ports_of_mem_containers (mem : c ∈ p.containers) :
    c.ports = if c.name = p.publishingRole then p.ports else [] := by
  have roles : Role.app ≠ Role.sidecar := by decide
  rw [publishingRole_eq]
  rcases eq_of_mem_containers mem with rfl | rfl
  · cases proxied : p.isProxied <;> simp [appContainer, proxied, roles]
  · cases proxied : p.isProxied <;> simp [sidecarContainer, proxied, roles.symm]

/-! ## The pod -/

variable (p)

/-- A pod whose volumes, mounts, roles and ports fit together, and fit the plan. -/
structure LaidOut (pod : Pod) : Prop where
  nodup_names : (pod.spec.volumes.map (·.name)).Nodup
  source : ∀ v ∈ pod.spec.volumes, ∃ source, v.sources = [source]
  /-- Every mount finds one volume. -/
  mounted : ∀ c ∈ pod.spec.containers, ∀ mount ∈ c.volumeMounts,
    ∃ v, pod.volumesNamed mount.name = [v]
  /-- The volume of a bind mount holds the trusted certificates or the directory asked for. -/
  backed : ∀ i mount, p.spec.bindMounts[i]? = some mount →
    ∃ v, pod.volumesNamed (bindVolumeName i) = [v] ∧
      (v.sources = [.configMap p.settings.trustedCertsConfigMap] ↔
        p.settings.trustedCertsDir = some mount.source) ∧
      (v.sources = [.directory mount.source] ↔ p.settings.trustedCertsDir ≠ some mount.source)
  /-- Each bind mount is in every container, once. -/
  bound : ∀ i mount, p.spec.bindMounts[i]? = some mount → ∀ c ∈ pod.spec.containers,
    c.mountsOf (bindVolumeName i) =
      [{ name := bindVolumeName i, mountPath := mount.destination, readOnly := true }]
  /-- Every container starts the init program, from its volume and read-only. -/
  initBacked : ∃ v, pod.volumesNamed initVolume = [v] ∧
    v.sources = [.directory p.settings.initBinary]
  init : ∀ c ∈ pod.spec.containers, ∃ mount, c.mountsOf initVolume = [mount] ∧
    mount.readOnly = true ∧ c.command = [mount.mountPath]
  roles : pod.spec.containers.map (·.name) = Role.app ::
    if p.spec.properties.get? workloadProperty = some Role.app then [Role.sidecar] else []
  ports : pod.ports = p.ports
  published : ∀ c ∈ pod.spec.containers,
    c.ports = if c.name = p.publishingRole then p.ports else []

theorem backed_pod {i : Nat} {mount : BindMount} (h : p.spec.bindMounts[i]? = some mount) :
    ∃ v, p.pod.volumesNamed (bindVolumeName i) = [v] ∧
      (v.sources = [.configMap p.settings.trustedCertsConfigMap] ↔
        p.settings.trustedCertsDir = some mount.source) ∧
      (v.sources = [.directory mount.source] ↔
        p.settings.trustedCertsDir ≠ some mount.source) := by
  refine ⟨p.bindVolume i mount, ?_, ?_⟩
  · rw [← p.bindVolume_name i mount]
    exact p.volumesNamed_pod (p.mem_volumes_bindVolume h)
  · rw [sources_bindVolume]
    by_cases trusted : p.settings.trustedCertsDir = some mount.source <;> simp [trusted]

/-- Every plan gives a pod whose parts fit together. -/
theorem pod_laidOut : p.LaidOut p.pod where
  nodup_names := p.nodup_names_volumes
  source _ mem := p.exists_source mem
  mounted _ mem _ mounted := exists_volume mem mounted
  backed _ _ h := p.backed_pod h
  bound _ _ h _ mem := mountsOf_name mem (List.mem_cons_of_mem _ (mem_bindMounts h))
  initBacked := ⟨_, p.volumesNamed_pod (List.mem_cons_of_mem _ List.mem_cons_self), rfl⟩
  init c mem := by
    refine ⟨initMount, mountsOf_name mem List.mem_cons_self, rfl, ?_⟩
    rcases eq_of_mem_containers mem with rfl | rfl <;> rfl
  roles := by
    simp only [← hasSidecar_iff]
    exact p.names_containers
  ports := p.ports_pod
  published _ mem := ports_of_mem_containers mem

end PodPlan
end SandboxPods
