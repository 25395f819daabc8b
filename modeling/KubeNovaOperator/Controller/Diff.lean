import KubeNovaOperator.Builder.Web
import Mathlib.Data.List.Nodup

/-!
# The diff engine (`deploymentSpecEqual` and its helpers)

`deploymentSpecEqual existing desired` decides whether the reconciler leaves a stored
Deployment alone.  It reads the replica count, the container count, the first container's
image, literal environment values, resource maps and mount paths, the volume names and the
service account.  Each list comparison builds a Go map from one side with a loop, so a later
entry of a name overrides an earlier one.

* `deploymentSpecEqual_iff`: what the comparison decides: equal replicas and container
  counts, and on the first containers the same image, the same literal environment
  (`EnvEquiv`), the same resource maps (a nil map equal only to a nil one), mount lists of one
  length where the stored list's last mount of each desired mount's name has its path;
  volume lists of one length whose names cover the desired ones; the same service account.
  Value sources, sub-paths, read-only flags and volume sources are never read.
* `compareVolumeMounts_getWebVolumeMounts`: the web tier's mount list names `nginx-config`
  twice, with two paths, so no stored list compares equal to it, not even itself
  (`deploymentSpecEqual_buildWebDeployment`).
-/

namespace KubeNovaOperator

/-! ### The comparisons -/

/-- `compareInt32Ptr`. -/
def compareInt32Ptr : Option Int → Option Int → Bool
  | none, none => true
  | some a, some b => a == b
  | _, _ => false

/-- The map of `compareEnvVars`: name to value of the variables with a literal value. -/
def envMap (env : List EnvVar) : GoMap String String :=
  env.foldl (fun m e => if e.value ≠ "" then m.insert e.name e.value else m) GoMap.empty

/-- `compareEnvVars`. -/
def compareEnvVars (a b : List EnvVar) : Bool :=
  a.length == b.length && (envMap a).deepEqual (envMap b)

/-- `compareResourceRequirements`: `reflect.DeepEqual` on each map. -/
def compareResourceRequirements (a b : ResourceRequirements) : Bool :=
  GoMap.deepEqualNil a.requests b.requests && GoMap.deepEqualNil a.limits b.limits

/-- The map of `compareVolumeMounts`: mount by volume name. -/
def mountMap (mounts : List VolumeMount) : GoMap String VolumeMount :=
  mounts.foldl (fun m vm => m.insert vm.name vm) GoMap.empty

/-- `compareVolumeMounts`: every mount of `b` has the path of `a`'s mount of its name. -/
def compareVolumeMounts (a b : List VolumeMount) : Bool :=
  a.length == b.length &&
    b.all fun vm =>
      match (mountMap a).get? vm.name with
      | some existing => existing.mountPath == vm.mountPath
      | none => false

/-- The map of `compareVolumes`: the names of the volumes. -/
def volumeNames (volumes : List Volume) : GoMap String Bool :=
  volumes.foldl (fun m v => m.insert v.name true) GoMap.empty

/-- `compareVolumes`: every volume name of `b` is one of `a`'s. -/
def compareVolumes (a b : List Volume) : Bool :=
  a.length == b.length && b.all fun v => ((volumeNames a).get? v.name).getD false

/-- The first-container checks of `deploymentSpecEqual`, made only when both sides have a
container. -/
def firstContainersEqual : List Container → List Container → Bool
  | e :: _, d :: _ =>
    e.image == d.image && compareEnvVars e.env d.env &&
      compareResourceRequirements e.resources d.resources &&
      compareVolumeMounts e.volumeMounts d.volumeMounts
  | _, _ => true

/-- `deploymentSpecEqual`: the source's early returns, in order. -/
def deploymentSpecEqual (existing desired : DeploymentSpec) : Bool :=
  compareInt32Ptr existing.replicas desired.replicas &&
    existing.containers.length == desired.containers.length &&
    firstContainersEqual existing.containers desired.containers &&
    compareVolumes existing.volumes desired.volumes &&
    existing.serviceAccountName == desired.serviceAccountName

/-! ### What each comparison decides -/

/-- The literal value the last variable named `n` with one gives. -/
def literalValue (n : String) (env : List EnvVar) : Option String :=
  ((env.filter fun e => e.name = n ∧ e.value ≠ "").getLast?).map EnvVar.value

/-- Two environments agree for the diff engine: same length, same literal values. -/
def EnvEquiv (a b : List EnvVar) : Prop :=
  a.length = b.length ∧ ∀ n, literalValue n a = literalValue n b

/-- The last mount of a volume name. -/
def lastMount (n : String) (mounts : List VolumeMount) : Option VolumeMount :=
  (mounts.filter fun m => m.name = n).getLast?

theorem compareInt32Ptr_iff (a b : Option Int) : compareInt32Ptr a b = true ↔ a = b := by
  cases a <;> cases b <;> simp [compareInt32Ptr]

theorem literalValue_append_singleton (n : String) (env : List EnvVar) (e : EnvVar) :
    literalValue n (env ++ [e]) =
      if e.name = n ∧ e.value ≠ "" then some e.value else literalValue n env := by
  by_cases h : e.name = n ∧ e.value ≠ "" <;> simp [literalValue, h]

theorem envMap_append_singleton (env : List EnvVar) (e : EnvVar) :
    envMap (env ++ [e]) =
      if e.value ≠ "" then (envMap env).insert e.name e.value else envMap env := by
  simp only [envMap, List.foldl_append, List.foldl_cons, List.foldl_nil]

/-- **The environment map reads the last literal value.** -/
@[simp] theorem envMap_get? (env : List EnvVar) (n : String) :
    (envMap env).get? n = literalValue n env := by
  induction env using List.reverseRecOn with
  | nil => rfl
  | append_singleton env e ih =>
    rw [envMap_append_singleton, literalValue_append_singleton]
    by_cases hv : e.value = "" <;> by_cases hn : e.name = n <;> simp [hv, hn, ih, Ne.symm]

theorem compareEnvVars_iff (a b : List EnvVar) : compareEnvVars a b = true ↔ EnvEquiv a b := by
  simp [compareEnvVars, EnvEquiv, GoMap.deepEqual_iff, GoMap.Equiv]

theorem compareResourceRequirements_iff (a b : ResourceRequirements) :
    compareResourceRequirements a b = true ↔
      GoMap.NilEquiv a.requests b.requests ∧ GoMap.NilEquiv a.limits b.limits := by
  simp [compareResourceRequirements, GoMap.deepEqualNil_iff]

theorem lastMount_append_singleton (n : String) (mounts : List VolumeMount) (m : VolumeMount) :
    lastMount n (mounts ++ [m]) = if m.name = n then some m else lastMount n mounts := by
  by_cases h : m.name = n <;> simp [lastMount, h]

/-- **The mount map reads the last mount of a name.** -/
@[simp] theorem mountMap_get? (mounts : List VolumeMount) (n : String) :
    (mountMap mounts).get? n = lastMount n mounts := by
  induction mounts using List.reverseRecOn with
  | nil => rfl
  | append_singleton mounts m ih =>
    simp only [mountMap, List.foldl_append, List.foldl_cons, List.foldl_nil] at ih ⊢
    rw [lastMount_append_singleton]
    by_cases hn : m.name = n <;> simp [hn, ih, Ne.symm]

/-- With distinct names, the last mount of a name is its only one. -/
theorem lastMount_eq_some_iff {mounts : List VolumeMount} (hd : (mounts.map VolumeMount.name).Nodup)
    {n : String} {m : VolumeMount} : lastMount n mounts = some m ↔ m ∈ mounts ∧ m.name = n := by
  induction mounts using List.reverseRecOn with
  | nil => simp [lastMount]
  | append_singleton mounts m' ih =>
    simp only [List.map_append, List.map_cons, List.map_nil, List.nodup_append,
      List.nodup_cons, List.not_mem_nil, not_false_eq_true, List.nodup_nil, and_self,
      List.disjoint_singleton, List.mem_map, not_exists, not_and, true_and] at hd
    rw [lastMount_append_singleton, List.mem_append, List.mem_singleton]
    by_cases hn : m'.name = n
    · subst hn
      simp only [if_true, Option.some.injEq]
      constructor
      · rintro rfl; exact ⟨Or.inr rfl, rfl⟩
      · rintro ⟨hm | rfl, hmn⟩
        · exact absurd hmn (hd.2 m hm)
        · rfl
    · rw [if_neg hn, ih hd.1]
      constructor
      · exact fun ⟨hm, hmn⟩ => ⟨Or.inl hm, hmn⟩
      · rintro ⟨hm | rfl, hmn⟩
        · exact ⟨hm, hmn⟩
        · exact absurd hmn hn

theorem volumeNames_append_singleton (volumes : List Volume) (v : Volume) :
    volumeNames (volumes ++ [v]) = (volumeNames volumes).insert v.name true := by
  simp only [volumeNames, List.foldl_append, List.foldl_cons, List.foldl_nil]

/-- **The volume map holds exactly the names present.** -/
@[simp] theorem volumeNames_get? (volumes : List Volume) (n : String) :
    ((volumeNames volumes).get? n).getD false = decide (n ∈ volumes.map Volume.name) := by
  induction volumes using List.reverseRecOn with
  | nil => rfl
  | append_singleton volumes v ih =>
    rw [volumeNames_append_singleton]
    by_cases hn : n = v.name <;> simp [hn, ih]

theorem compareVolumes_iff (a b : List Volume) :
    compareVolumes a b = true ↔
      a.length = b.length ∧ ∀ v ∈ b, ∃ v' ∈ a, v'.name = v.name := by
  simp [compareVolumes]

/-- One mount of `b` passes `compareVolumeMounts` when `a`'s last mount of its name has its
path. -/
theorem mount_check_iff (a : List VolumeMount) (vm : VolumeMount) :
    (match (mountMap a).get? vm.name with
      | some existing => existing.mountPath == vm.mountPath
      | none => false) = true ↔
      ∃ m, lastMount vm.name a = some m ∧ m.mountPath = vm.mountPath := by
  rw [mountMap_get?]
  cases lastMount vm.name a <;> simp

theorem compareVolumeMounts_iff (a b : List VolumeMount) :
    compareVolumeMounts a b = true ↔
      a.length = b.length ∧
        ∀ m ∈ b, ∃ m', lastMount m.name a = some m' ∧ m'.mountPath = m.mountPath := by
  simp only [compareVolumeMounts, Bool.and_eq_true, beq_iff_eq, List.all_eq_true,
    mount_check_iff]

/-- With distinct names in `a`, a mount check finds a mount of `a` with that name and path. -/
theorem compareVolumeMounts_iff_of_nodup {a : List VolumeMount}
    (hd : (a.map VolumeMount.name).Nodup) (b : List VolumeMount) :
    compareVolumeMounts a b = true ↔
      a.length = b.length ∧ ∀ m ∈ b, ∃ m' ∈ a, m'.name = m.name ∧ m'.mountPath = m.mountPath := by
  simp only [compareVolumeMounts_iff, lastMount_eq_some_iff hd]
  constructor
  · rintro ⟨hl, h⟩
    exact ⟨hl, fun m hm => let ⟨m', ⟨h1, h2⟩, h3⟩ := h m hm; ⟨m', h1, h2, h3⟩⟩
  · rintro ⟨hl, h⟩
    exact ⟨hl, fun m hm => let ⟨m', h1, h2, h3⟩ := h m hm; ⟨m', ⟨h1, h2⟩, h3⟩⟩

/-- What the diff engine decides about two first containers: a desired mount is checked
against the stored container's last mount of its name. -/
def ContainersAgree (e d : Container) : Prop :=
  e.image = d.image ∧ EnvEquiv e.env d.env ∧
    GoMap.NilEquiv e.resources.requests d.resources.requests ∧
    GoMap.NilEquiv e.resources.limits d.resources.limits ∧
    e.volumeMounts.length = d.volumeMounts.length ∧
    ∀ m ∈ d.volumeMounts, ∃ m', lastMount m.name e.volumeMounts = some m' ∧
      m'.mountPath = m.mountPath

theorem firstContainersEqual_iff (e d : List Container) :
    firstContainersEqual e d = true ↔ ∀ ec ∈ e.head?, ∀ dc ∈ d.head?, ContainersAgree ec dc := by
  match e, d with
  | ec :: _, dc :: _ =>
    simp only [firstContainersEqual, Bool.and_eq_true, beq_iff_eq, compareEnvVars_iff,
      compareResourceRequirements_iff, compareVolumeMounts_iff, List.head?_cons,
      Option.mem_def, Option.some.injEq, forall_eq', ContainersAgree, and_assoc]
  | [], _ => simp [firstContainersEqual]
  | _ :: _, [] => simp [firstContainersEqual]

/-- **No mount list compares equal to the web tier's.**  Both files of the nginx ConfigMap
are mounted from the volume `nginx-config`; the map of `a` keeps one mount of that name, so
one of the two paths differs from it. -/
theorem compareVolumeMounts_getWebVolumeMounts (a : List VolumeMount) (kn : KubeNova) :
    compareVolumeMounts a (getWebVolumeMounts kn) = false := by
  rw [Bool.eq_false_iff]
  intro h
  simp only [compareVolumeMounts, Bool.and_eq_true, List.all_eq_true] at h
  have h1 := h.2 ⟨"nginx-config", "/etc/nginx/nginx.conf", "nginx.conf", false⟩
    (by simp [getWebVolumeMounts])
  have h2 := h.2 ⟨"nginx-config", "/etc/nginx/conf.d/default.conf", "default.conf", false⟩
    (by simp [getWebVolumeMounts])
  cases hm : (mountMap a).get? "nginx-config" with
  | none => simp [hm] at h1
  | some m =>
    simp only [hm, beq_iff_eq] at h1 h2
    exact absurd (h1.symm.trans h2) (by decide)

/-- The stored web Deployment is never equal to the desired one, whatever it holds. -/
theorem deploymentSpecEqual_buildWebDeployment (e : DeploymentSpec) (kn : KubeNova) (ns : String) :
    deploymentSpecEqual e (buildWebDeployment kn ns).spec = false := by
  rw [Bool.eq_false_iff]
  intro h
  simp only [deploymentSpecEqual, buildWebDeployment, Bool.and_eq_true] at h
  obtain ⟨⟨⟨⟨-, hlen⟩, hfirst⟩, -⟩, -⟩ := h
  match he : e.containers, hlen, hfirst with
  | [ec], _, hfirst =>
    simp [firstContainersEqual, compareVolumeMounts_getWebVolumeMounts] at hfirst

/-- A spec whose first container mounts each volume once compares equal to itself; the web
Deployment, which mounts `nginx-config` twice, is the exception above. -/
theorem deploymentSpecEqual_self (s : DeploymentSpec)
    (hd : ∀ c ∈ s.containers.head?, (c.volumeMounts.map VolumeMount.name).Nodup) :
    deploymentSpecEqual s s = true := by
  simp only [deploymentSpecEqual, Bool.and_eq_true, beq_self_eq_true, compareInt32Ptr_iff,
    firstContainersEqual_iff, compareVolumes_iff, and_true, true_and]
  refine ⟨fun c hc c' hc' => ?_, fun v hv => ⟨v, hv, rfl⟩⟩
  obtain rfl : c' = c := Option.some_injective _ (hc'.symm.trans hc)
  exact ⟨rfl, ⟨rfl, fun _ => rfl⟩, GoMap.NilEquiv.refl _, GoMap.NilEquiv.refl _, rfl,
    fun m hm => ⟨m, (lastMount_eq_some_iff (hd _ hc)).2 ⟨hm, rfl⟩, rfl⟩⟩

end KubeNovaOperator
