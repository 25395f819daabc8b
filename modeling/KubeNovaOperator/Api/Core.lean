import KubeNovaOperator.Api.Quantity

/-!
# The Kubernetes objects the operator reads and writes

The fragments of `k8s.io/api` (`core/v1`, `apps/v1`, `rbac/v1`, `networking/v1`) that the
controller and the builders of `kube-nova-operator` read or write, one structure per kind,
each with only the fields some modelled function reads or sets.  A pod template is kept flat
inside `DeploymentSpec`, and an object's namespace is part of its key in the store
(`KubeNovaOperator.Store`), not of the object.

A Go `map` is a `GoMap`: the list of its assignments, newest first, read through
`List.lookup`.  `reflect.DeepEqual` on two maps is `GoMap.deepEqual`, which decides
`GoMap.Equiv` (`deepEqual_iff`): the same keys with the same values.  A map field that may be
nil is an `Option GoMap`, and `reflect.DeepEqual` tells a nil map from an empty one
(`GoMap.deepEqualNil`).  `int32` counts are `Int`, since nothing here does arithmetic on them.

What the API server stores of a written Deployment is `Deployment.stored`: its quantities in
canonical form (`canonicalQuantity`) and its empty resource maps dropped, as the `omitempty`
fields of the wire form do.
-/

namespace KubeNovaOperator

/-! ### Go maps -/

/-- A Go `map[κ]ν`, as its assignments with the newest first. -/
structure GoMap (κ ν : Type) where
  entries : List (κ × ν)
  deriving DecidableEq, Repr

namespace GoMap

variable {κ ν : Type} [DecidableEq κ]

/-- The empty map of `make(map[κ]ν)`. -/
def empty : GoMap κ ν := ⟨[]⟩

/-- `m[k] = v`. -/
def insert (m : GoMap κ ν) (k : κ) (v : ν) : GoMap κ ν := ⟨(k, v) :: m.entries⟩

/-- `v, ok := m[k]`, as an option. -/
def get? (m : GoMap κ ν) (k : κ) : Option ν := m.entries.lookup k

/-- The keys of a map (with repeats when a key was assigned twice). -/
def keys (m : GoMap κ ν) : List κ := m.entries.map Prod.fst

/-- `reflect.DeepEqual` of two maps whose values compare with `==`. -/
def deepEqual [DecidableEq ν] (m n : GoMap κ ν) : Bool :=
  (m.keys ++ n.keys).all fun k => m.get? k = n.get? k

/-- Two maps are equivalent when they hold the same value under every key. -/
def Equiv (m n : GoMap κ ν) : Prop := ∀ k, m.get? k = n.get? k

@[simp] theorem get?_empty (k : κ) : (empty : GoMap κ ν).get? k = none := rfl

@[simp] theorem get?_insert (m : GoMap κ ν) (k k' : κ) (v : ν) :
    (m.insert k v).get? k' = if k' = k then some v else m.get? k' := by
  by_cases h : k' = k
  · subst h; simp [get?, insert]
  · simp [get?, insert, List.lookup_cons, beq_false_of_ne h, h]

theorem get?_eq_none_of_not_mem_keys {m : GoMap κ ν} {k : κ} (h : k ∉ m.keys) :
    m.get? k = none := by
  simp only [keys, List.mem_map, not_exists, not_and] at h
  simp only [get?, List.lookup_eq_none_iff]
  exact fun e he => bne_iff_ne.2 (Ne.symm (h e he))

/-- **`deepEqual` decides map equivalence.**  A key outside both key lists reads `none` on
both sides, so checking the keys of both maps is enough. -/
theorem deepEqual_iff [DecidableEq ν] (m n : GoMap κ ν) : m.deepEqual n = true ↔ m.Equiv n := by
  simp only [deepEqual, List.all_eq_true, decide_eq_true_eq, Equiv]
  refine ⟨fun h k => ?_, fun h k _ => h k⟩
  by_cases hk : k ∈ m.keys ++ n.keys
  · exact h k hk
  · simp only [List.mem_append, not_or] at hk
    rw [get?_eq_none_of_not_mem_keys hk.1, get?_eq_none_of_not_mem_keys hk.2]

/-- `delete(m, k)`. -/
def erase (m : GoMap κ ν) (k : κ) : GoMap κ ν := ⟨m.entries.filter fun e => !decide (e.1 = k)⟩

@[simp] theorem get?_erase (m : GoMap κ ν) (k k' : κ) :
    (m.erase k).get? k' = if k' = k then none else m.get? k' := by
  obtain ⟨l⟩ := m
  simp only [erase, get?]
  induction l with
  | nil => simp
  | cons e l ih =>
    obtain ⟨a, b⟩ := e
    by_cases ha : a = k
    · subst ha
      by_cases hk : k' = a
      · subst hk; simpa using ih
      · simp [ih, hk, List.lookup_cons, beq_false_of_ne hk]
    · rw [List.filter_cons_of_pos (by simpa using ha)]
      by_cases hk : k' = a
      · subst hk; simp [ha]
      · simp [ih, List.lookup_cons, beq_false_of_ne hk]

theorem mem_entries_of_get? {m : GoMap κ ν} {k : κ} {v : ν} (h : m.get? k = some v) :
    (k, v) ∈ m.entries := by
  obtain ⟨l⟩ := m
  induction l with
  | nil => simp [get?] at h
  | cons e l ih =>
    obtain ⟨a, b⟩ := e
    by_cases hk : k = a
    · subst hk
      simp only [get?, List.lookup_cons, beq_self_eq_true, Option.some.injEq] at h
      simp [h]
    · simp only [get?, List.lookup_cons, beq_false_of_ne hk] at h
      exact .tail _ (ih h)

theorem Equiv.refl (m : GoMap κ ν) : m.Equiv m := fun _ => rfl

theorem deepEqual_self [DecidableEq ν] (m : GoMap κ ν) : m.deepEqual m = true :=
  (deepEqual_iff m m).2 (Equiv.refl m)

/-- The map with every value passed through `f`. -/
def map {ν' : Type} (f : ν → ν') (m : GoMap κ ν) : GoMap κ ν' :=
  ⟨m.entries.map fun e => (e.1, f e.2)⟩

@[simp] theorem get?_map {ν' : Type} (f : ν → ν') (m : GoMap κ ν) (k : κ) :
    (m.map f).get? k = (m.get? k).map f := by
  obtain ⟨l⟩ := m
  simp only [map, get?]
  induction l with
  | nil => rfl
  | cons e l ih =>
    obtain ⟨a, b⟩ := e
    by_cases hk : k = a
    · subst hk; simp [List.lookup_cons]
    · simp [List.lookup_cons, beq_false_of_ne hk, ih]

/-- `reflect.DeepEqual` of two map fields either of which may be nil: a nil map equals only a
nil map. -/
def deepEqualNil [DecidableEq ν] : Option (GoMap κ ν) → Option (GoMap κ ν) → Bool
  | none, none => true
  | some m, some n => m.deepEqual n
  | _, _ => false

/-- Two map fields agree: both nil, or both non-nil and equivalent. -/
def NilEquiv : Option (GoMap κ ν) → Option (GoMap κ ν) → Prop
  | none, none => True
  | some m, some n => m.Equiv n
  | _, _ => False

theorem deepEqualNil_iff [DecidableEq ν] (a b : Option (GoMap κ ν)) :
    deepEqualNil a b = true ↔ NilEquiv a b := by
  cases a <;> cases b <;> simp [deepEqualNil, NilEquiv, deepEqual_iff]

theorem NilEquiv.refl (a : Option (GoMap κ ν)) : NilEquiv a a := by
  cases a
  exacts [trivial, Equiv.refl _]

end GoMap

/-! ### `core/v1` -/

/-- `corev1.EnvVarSource`: where a variable without a literal value takes its value. -/
inductive EnvVarSource where
  | fieldRef (fieldPath : String)
  | resourceFieldRef (resource : String)
  | configMapKeyRef (name key : String)
  | secretKeyRef (name key : String)
  deriving DecidableEq, Repr

/-- `corev1.EnvVar`. -/
structure EnvVar where
  name : String
  value : String := ""
  valueFrom : Option EnvVarSource := none
  deriving DecidableEq, Repr

/-- `corev1.VolumeMount`. -/
structure VolumeMount where
  name : String
  mountPath : String
  subPath : String := ""
  readOnly : Bool := false
  deriving DecidableEq, Repr

/-- `corev1.KeyToPath`. -/
structure KeyToPath where
  key : String
  path : String
  deriving DecidableEq, Repr

/-- `corev1.VolumeSource`, with the three sources the builders use; a size limit is the
quantity's text. -/
inductive VolumeSource where
  | configMap (name : String) (items : List KeyToPath)
  | secret (secretName : String) (optional : Option Bool) (items : List KeyToPath)
  | emptyDir (sizeLimit : Option String)
  deriving DecidableEq, Repr

/-- `corev1.Volume`. -/
structure Volume where
  name : String
  source : VolumeSource
  deriving DecidableEq, Repr

/-- `corev1.ResourceRequirements`: resource name to quantity text; `none` is a nil map. -/
structure ResourceRequirements where
  requests : Option (GoMap String String) := none
  limits : Option (GoMap String String) := none
  deriving DecidableEq, Repr

/-- `corev1.ContainerPort`. -/
structure ContainerPort where
  name : String := ""
  containerPort : Int
  protocol : String := "TCP"
  deriving DecidableEq, Repr

/-- `corev1.Container`, without the probes, `envFrom` and security context: those are the
same constants for every spec and no modelled function reads them. -/
structure Container where
  name : String
  image : String
  imagePullPolicy : String
  ports : List ContainerPort
  env : List EnvVar
  resources : ResourceRequirements
  volumeMounts : List VolumeMount
  deriving DecidableEq, Repr

/-! ### `apps/v1` -/

/-- `appsv1.DeploymentSpec`, with its pod template's spec kept flat: the fields that the diff
engine reads and that the update path overwrites.  `replicas` is the `*int32`. -/
structure DeploymentSpec where
  replicas : Option Int
  containers : List Container
  volumes : List Volume
  serviceAccountName : String := ""
  imagePullSecrets : List String := []
  deriving DecidableEq, Repr

/-- `appsv1.Deployment`: its name, its spec and the `status.readyReplicas` the deployment
controller reports. -/
structure Deployment where
  name : String
  spec : DeploymentSpec
  readyReplicas : Int := 0
  deriving DecidableEq, Repr

/-! ### What the API server stores of a Deployment -/

/-- A resource map as a `Get` returns it: nil when it was empty, its quantities canonical. -/
def storedResourceList (m : Option (GoMap String String)) : Option (GoMap String String) :=
  m.bind fun m => if m.entries = [] then none else some (m.map canonicalQuantity)

/-- Resource requirements as stored. -/
def ResourceRequirements.stored (r : ResourceRequirements) : ResourceRequirements :=
  { requests := storedResourceList r.requests, limits := storedResourceList r.limits }

/-- A container as stored. -/
def Container.stored (c : Container) : Container := { c with resources := c.resources.stored }

/-- A volume as stored: an `emptyDir` size limit is a quantity. -/
def Volume.stored (v : Volume) : Volume :=
  match v.source with
  | .emptyDir sizeLimit => { v with source := .emptyDir (sizeLimit.map canonicalQuantity) }
  | _ => v

/-- A Deployment spec as stored. -/
def DeploymentSpec.stored (s : DeploymentSpec) : DeploymentSpec :=
  { s with containers := s.containers.map Container.stored, volumes := s.volumes.map Volume.stored }

/-- `Deployment.stored`: what a `Get` returns of a Deployment written as `d`. -/
def Deployment.stored (d : Deployment) : Deployment := { d with spec := d.spec.stored }

@[simp] theorem Deployment.stored_name (d : Deployment) : d.stored.name = d.name := rfl

@[simp] theorem Deployment.stored_spec (d : Deployment) : d.stored.spec = d.spec.stored := rfl

@[simp] theorem Deployment.stored_readyReplicas (d : Deployment) :
    d.stored.readyReplicas = d.readyReplicas := rfl

/-! ### Services, configuration and identity -/

/-- `corev1.ServicePort`; `nodePort = 0` is an unset node port. -/
structure ServicePort where
  name : String
  port : Int
  targetPort : Int
  nodePort : Int := 0
  deriving DecidableEq, Repr

/-- `corev1.Service`. -/
structure Service where
  name : String
  type : String
  ports : List ServicePort
  deriving DecidableEq, Repr

/-- `corev1.ConfigMap`. -/
structure ConfigMap where
  name : String
  data : GoMap String String
  deriving DecidableEq, Repr

/-- `corev1.Secret`; the bytes of a value are its text. -/
structure Secret where
  name : String
  data : GoMap String String
  deriving DecidableEq, Repr

/-- `corev1.ServiceAccount`. -/
structure ServiceAccount where
  name : String
  deriving DecidableEq, Repr

/-- `rbacv1.Subject`. -/
structure Subject where
  (kind name «namespace» : String)
  deriving DecidableEq, Repr

/-- `rbacv1.ClusterRoleBinding`: a cluster-scoped grant of `roleRef` to its subjects. -/
structure ClusterRoleBinding where
  name : String
  subjects : List Subject
  roleRef : String
  deriving DecidableEq, Repr

/-- `networkingv1.Ingress`, with one rule's host and the TLS secrets; the annotations are
left out, since nothing reads them back. -/
structure Ingress where
  name : String
  className : String
  host : String
  tlsSecrets : List String
  deriving DecidableEq, Repr

/-! ### Nodes -/

/-- `corev1.NodeCondition`. -/
structure NodeCondition where
  type : String
  status : String
  deriving DecidableEq, Repr

/-- `corev1.NodeAddress`. -/
structure NodeAddress where
  type : String
  address : String
  deriving DecidableEq, Repr

/-- `corev1.Node`, by its status. -/
structure Node where
  conditions : List NodeCondition
  addresses : List NodeAddress
  deriving DecidableEq, Repr

end KubeNovaOperator
