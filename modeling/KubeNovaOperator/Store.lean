import KubeNovaOperator.Api.V1

/-!
# The resource store and the client the controller calls

The store holds the `KubeNova` roots and one map per dependent kind, each under its
namespace and name (a cluster-scoped object under the namespace `""`), the namespaces, the
nodes, and the store's revision counter, from which every write of a root takes its fresh
`resourceVersion`.

Writes of a root follow the API server.  `Store.updateKubeNova` (the main resource) and
`Store.updateKubeNovaStatus` (the status subresource) refuse a stale `resourceVersion` with
a conflict; the first also refuses to add a finalizer to a root being deleted, writes
metadata and spec, bumps `generation` when the spec changes and removes a root being deleted
once its last finalizer is gone; the second writes only the status.  Dependents carry no
version: a conflict on them is one of the injected errors.  A dependent is stored as the API
server keeps it (`Kind.stored`): a Deployment with its quantities canonical and its empty
resource maps dropped.

The controller's code runs in `Client`, a state monad over a `Cluster`: the store, a log of
the writes issued, and the environment's schedule.  The schedule holds one `Tick` per store
call.  A tick first applies the writes of other parties (`ExtEvent`: a user editing the spec
or deleting the root, another controller adding or removing its own finalizer, the
deployment controller reporting readiness), then either fails the call with an injected
error or lets it run.  Quantifying over schedules covers every failure of every call and
every interleaving of these writes with the controller's calls.

The garbage collector removes a namespaced dependent once the root that owns it
(`SetControllerReference`) is gone.  Runs let it act between passes, and let it remove any
namespaced dependent there (`Store.collectGarbage`), so that what holds over every run holds
whatever it removes.  Within a pass it is left out: the dependents a pass touches are those
of its root's namespace, which the root owns and keeps while it holds `kubenovaFinalizer`,
throughout the pass.  This leaves out a namespace shared with a second root, deleted since,
that created some of those dependents first.  The schedule also fixes the order in which a
`range` over a Go map visits its keys (`MapOrder`), which Go leaves to chance.
-/

namespace KubeNovaOperator

/-- `kubenovaFinalizer`: the controller's deletion-blocking marker. -/
def kubenovaFinalizer : String := "kubenova.io/finalizer"

/-! ### Objects and errors -/

/-- `types.NamespacedName`. -/
structure ObjKey where
  («namespace» name : String)
  deriving DecidableEq, Repr

/-- The errors a store call returns, as the controller tells them apart. -/
inductive ApiError where
  | notFound | conflict | alreadyExists | invalid | other
  deriving DecidableEq, Repr

/-- The reason text of an error. -/
def ApiError.text : ApiError → String
  | .notFound => "NotFound"
  | .conflict => "Conflict"
  | .alreadyExists => "AlreadyExists"
  | .invalid => "Invalid"
  | .other => "InternalError"

/-- The dependent kinds the controller writes. -/
inductive KindTag where
  | serviceAccount | clusterRoleBinding | secret | configMap | deployment | service | ingress
  deriving DecidableEq, Repr

/-- The store. -/
structure Store where
  kubeNovas : GoMap ObjKey KubeNova := GoMap.empty
  namespaces : List String := []
  serviceAccounts : GoMap ObjKey ServiceAccount := GoMap.empty
  clusterRoleBindings : GoMap ObjKey ClusterRoleBinding := GoMap.empty
  secrets : GoMap ObjKey Secret := GoMap.empty
  configMaps : GoMap ObjKey ConfigMap := GoMap.empty
  deployments : GoMap ObjKey Deployment := GoMap.empty
  services : GoMap ObjKey Service := GoMap.empty
  ingresses : GoMap ObjKey Ingress := GoMap.empty
  nodes : List Node := []
  revision : Nat := 0
  deriving DecidableEq, Repr

/-- Whether a dependent of the given kind is stored under a key. -/
def Store.present (s : Store) (tag : KindTag) (key : ObjKey) : Bool :=
  match tag with
  | .serviceAccount => (s.serviceAccounts.get? key).isSome
  | .clusterRoleBinding => (s.clusterRoleBindings.get? key).isSome
  | .secret => (s.secrets.get? key).isSome
  | .configMap => (s.configMaps.get? key).isSome
  | .deployment => (s.deployments.get? key).isSome
  | .service => (s.services.get? key).isSome
  | .ingress => (s.ingresses.get? key).isSome

/-- A dependent kind: its tag, its map in the store, and what the API server keeps of an object
written to it.  Writing the map changes nothing else: no root, no namespace, and no other
kind's objects. -/
structure Kind (α : Type) where
  tag : KindTag
  objects : Store → GoMap ObjKey α
  setObjects : Store → GoMap ObjKey α → Store
  stored : α → α := fun a => a
  objects_setObjects : ∀ s m, objects (setObjects s m) = m := by intros; rfl
  kubeNovas_setObjects : ∀ s m, (setObjects s m).kubeNovas = s.kubeNovas := by intros; rfl
  namespaces_setObjects : ∀ s m, (setObjects s m).namespaces = s.namespaces := by intros; rfl
  present_eq : ∀ s key, s.present tag key = ((objects s).get? key).isSome := by intros; rfl
  present_setObjects :
      ∀ s m t key, t ≠ tag → (setObjects s m).present t key = s.present t key := by
    intro _ _ t _ h; cases t <;> simp_all [Store.present]

/-- Service accounts. -/
def Kind.serviceAccount : Kind ServiceAccount :=
  { tag := .serviceAccount, objects := Store.serviceAccounts
    setObjects := fun s m => { s with serviceAccounts := m } }

/-- Cluster role bindings (cluster-scoped). -/
def Kind.clusterRoleBinding : Kind ClusterRoleBinding :=
  { tag := .clusterRoleBinding, objects := Store.clusterRoleBindings
    setObjects := fun s m => { s with clusterRoleBindings := m } }

/-- Secrets. -/
def Kind.secret : Kind Secret :=
  { tag := .secret, objects := Store.secrets, setObjects := fun s m => { s with secrets := m } }

/-- ConfigMaps. -/
def Kind.configMap : Kind ConfigMap :=
  { tag := .configMap, objects := Store.configMaps
    setObjects := fun s m => { s with configMaps := m } }

/-- Deployments, stored with canonical quantities. -/
def Kind.deployment : Kind Deployment :=
  { tag := .deployment, objects := Store.deployments
    setObjects := fun s m => { s with deployments := m }, stored := Deployment.stored }

@[simp] theorem Kind.deployment_objects (s : Store) : Kind.deployment.objects s = s.deployments :=
  rfl

@[simp] theorem Kind.deployment_stored : Kind.deployment.stored = Deployment.stored := rfl

/-- Services. -/
def Kind.service : Kind Service :=
  { tag := .service, objects := Store.services, setObjects := fun s m => { s with services := m } }

/-- Ingresses. -/
def Kind.ingress : Kind Ingress :=
  { tag := .ingress, objects := Store.ingresses
    setObjects := fun s m => { s with ingresses := m } }

/-- The root under a key. -/
def Store.root (s : Store) (key : ObjKey) : Option KubeNova := s.kubeNovas.get? key

/-- The key of a root. -/
def KubeNova.key (kn : KubeNova) : ObjKey := ⟨kn.meta.namespace, kn.meta.name⟩

/-! ### Writes of a root -/

/-- A root written back under its key with a fresh `resourceVersion`; a root being deleted
with no finalizer left is removed instead. -/
def Store.commitRoot (s : Store) (key : ObjKey) (r : KubeNova) : KubeNova × Store :=
  let rv := s.revision + 1
  let r := { r with meta := { r.meta with resourceVersion := rv } }
  if r.meta.deletionTimestamp.isSome ∧ r.meta.finalizers = [] then
    (r, { s with revision := rv, kubeNovas := s.kubeNovas.erase key })
  else (r, { s with revision := rv, kubeNovas := s.kubeNovas.insert key r })

/-- `Update` of a root: refused on a stale version, and refused as invalid when it adds a
finalizer to a root being deleted (`ValidateNoNewFinalizers`); writes the finalizers and the
spec, advancing `generation` when the spec changed. -/
def Store.updateKubeNova (s : Store) (kn : KubeNova) : Except ApiError (KubeNova × Store) :=
  match s.root kn.key with
  | none => .error .notFound
  | some r =>
    if kn.meta.resourceVersion ≠ r.meta.resourceVersion then .error .conflict
    else if r.meta.deletionTimestamp.isSome ∧ ∃ f ∈ kn.meta.finalizers, f ∉ r.meta.finalizers then
      .error .invalid
    else .ok (s.commitRoot kn.key
      { r with
        meta := { r.meta with
          finalizers := kn.meta.finalizers
          generation := if kn.spec = r.spec then r.meta.generation else r.meta.generation + 1 }
        spec := kn.spec })

/-- `Status().Update` of a root: refused on a stale version; writes only the status. -/
def Store.updateKubeNovaStatus (s : Store) (kn : KubeNova) : Except ApiError (KubeNova × Store) :=
  match s.root kn.key with
  | none => .error .notFound
  | some r =>
    if kn.meta.resourceVersion ≠ r.meta.resourceVersion then .error .conflict
    else .ok (s.commitRoot kn.key { r with status := kn.status })

/-- A dependent removed from the store. -/
def Store.erase (s : Store) : KindTag → ObjKey → Store
  | .serviceAccount, key => { s with serviceAccounts := s.serviceAccounts.erase key }
  | .clusterRoleBinding, key => { s with clusterRoleBindings := s.clusterRoleBindings.erase key }
  | .secret, key => { s with secrets := s.secrets.erase key }
  | .configMap, key => { s with configMaps := s.configMaps.erase key }
  | .deployment, key => { s with deployments := s.deployments.erase key }
  | .service, key => { s with services := s.services.erase key }
  | .ingress, key => { s with ingresses := s.ingresses.erase key }

/-- What the garbage collector may do to a dependent between passes: remove it, unless it is
the cluster-scoped binding, which has no owner.  The collector removes only dependents whose
owner is gone; the model lets it remove any. -/
def Store.collectGarbage (s : Store) (tag : KindTag) (key : ObjKey) : Store :=
  if tag = .clusterRoleBinding then s else s.erase tag key

@[simp] theorem Store.kubeNovas_collectGarbage (s : Store) (tag : KindTag) (key : ObjKey) :
    (s.collectGarbage tag key).kubeNovas = s.kubeNovas := by
  unfold Store.collectGarbage; split <;> [rfl; cases tag <;> rfl]

/-! ### The other parties -/

/-- A write by another party. -/
inductive ExtEvent where
  /-- A user edits the spec. -/
  | editSpec (key : ObjKey) (spec : KubeNovaSpec)
  /-- A user deletes the root at a time. -/
  | requestDeletion (key : ObjKey) (time : Nat)
  /-- Another controller adds its own finalizer. -/
  | addFinalizer (key : ObjKey) (f : String)
  /-- Another controller removes its own finalizer; it never removes `kubenovaFinalizer`. -/
  | removeFinalizer (key : ObjKey) (f : String)
  /-- The deployment controller reports ready replicas. -/
  | setReadyReplicas (key : ObjKey) (n : Int)
  deriving DecidableEq, Repr

/-- The effect of another party's write. -/
def ExtEvent.apply (s : Store) : ExtEvent → Store
  | .editSpec key spec =>
    match s.root key with
    | some r =>
      if r.spec = spec then s
      else (s.commitRoot key
        { r with spec, meta := { r.meta with generation := r.meta.generation + 1 } }).2
    | none => s
  | .requestDeletion key time =>
    match s.root key with
    | some r =>
      if r.meta.deletionTimestamp.isSome then s
      else (s.commitRoot key { r with meta := { r.meta with deletionTimestamp := some time } }).2
    | none => s
  | .addFinalizer key f =>
    match s.root key with
    | some r =>
      if f ∈ r.meta.finalizers ∨ r.meta.deletionTimestamp.isSome then s
      else (s.commitRoot key
        { r with meta := { r.meta with finalizers := r.meta.finalizers ++ [f] } }).2
    | none => s
  | .removeFinalizer key f =>
    match s.root key with
    | some r =>
      if f = kubenovaFinalizer ∨ f ∉ r.meta.finalizers then s
      else (s.commitRoot key
        { r with meta := { r.meta with finalizers := r.meta.finalizers.erase f } }).2
    | none => s
  | .setReadyReplicas key n =>
    match s.deployments.get? key with
    | some d => { s with deployments := s.deployments.insert key { d with readyReplicas := n } }
    | none => s

/-! ### The client -/

/-- A write the controller issued. -/
inductive Op where
  | create (tag : KindTag) (key : ObjKey)
  | update (tag : KindTag) (key : ObjKey)
  | delete (tag : KindTag) (key : ObjKey)
  | updateKubeNova (key : ObjKey)
  | updateKubeNovaStatus (key : ObjKey)
  deriving DecidableEq, Repr

/-- The order in which a `range` over a Go map visits its keys: some permutation. -/
structure MapOrder where
  arrange : List String → List String
  perm : ∀ l, (arrange l).Perm l

/-- Visiting keys in the order they were inserted. -/
def MapOrder.id : MapOrder := ⟨fun l => l, List.Perm.refl⟩

/-- What the environment does at one store call: the other parties' writes that land just
before it, and the error it fails with, if any. -/
structure Tick where
  before : List ExtEvent := []
  fault : Option ApiError := none
  deriving DecidableEq, Repr

/-- The store, the controller's writes (newest first), and the environment's schedule. -/
structure Cluster where
  store : Store
  ticks : List Tick := []
  log : List Op := []
  order : MapOrder := MapOrder.id

/-- The controller's code: a computation over the cluster. -/
abbrev Client := StateM Cluster

/-- The tick of the next call and the rest of the schedule; once the schedule is used up,
calls run undisturbed. -/
def Cluster.nextTick (c : Cluster) : Tick × List Tick :=
  match c.ticks with
  | [] => ({}, [])
  | t :: ts => (t, ts)

/-- One store call: the other parties' writes due before it land, the write is logged, and
the call fails with the injected error or runs `op`. -/
def call {α : Type} (logged : Option Op) (op : Store → Except ApiError (α × Store)) :
    Client (Except ApiError α) := fun c =>
  let (t, ticks) := c.nextTick
  let store := t.before.foldl ExtEvent.apply c.store
  let c := { c with store, ticks, log := logged.elim c.log (· :: c.log) }
  match t.fault with
  | some e => (.error e, c)
  | none =>
    match op store with
    | .ok (a, store) => (.ok a, { c with store })
    | .error e => (.error e, c)

/-- `r.Get` of a root. -/
def getKubeNova (key : ObjKey) : Client (Except ApiError KubeNova) :=
  call none fun s =>
    match s.root key with
    | some r => .ok (r, s)
    | none => .error .notFound

/-- `r.Update` of a root. -/
def updateKubeNova (kn : KubeNova) : Client (Except ApiError KubeNova) :=
  call (some (.updateKubeNova kn.key)) (Store.updateKubeNova · kn)

/-- `r.Status().Update` of a root. -/
def updateKubeNovaStatus (kn : KubeNova) : Client (Except ApiError KubeNova) :=
  call (some (.updateKubeNovaStatus kn.key)) (Store.updateKubeNovaStatus · kn)

/-- `r.Get` of a dependent. -/
def getObject {α : Type} (k : Kind α) (key : ObjKey) : Client (Except ApiError α) :=
  call none fun s =>
    match (k.objects s).get? key with
    | some a => .ok (a, s)
    | none => .error .notFound

/-- `r.Create` of a dependent under its key. -/
def createObject {α : Type} (k : Kind α) (key : ObjKey) (a : α) : Client (Except ApiError Unit) :=
  call (some (.create k.tag key)) fun s =>
    match (k.objects s).get? key with
    | some _ => .error .alreadyExists
    | none => .ok ((), k.setObjects s ((k.objects s).insert key (k.stored a)))

/-- `r.Update` of a dependent. -/
def updateObject {α : Type} (k : Kind α) (key : ObjKey) (a : α) : Client (Except ApiError Unit) :=
  call (some (.update k.tag key)) fun s =>
    match (k.objects s).get? key with
    | some _ => .ok ((), k.setObjects s ((k.objects s).insert key (k.stored a)))
    | none => .error .notFound

/-- `r.Delete` of a dependent. -/
def deleteObject {α : Type} (k : Kind α) (key : ObjKey) : Client (Except ApiError Unit) :=
  call (some (.delete k.tag key)) fun s =>
    match (k.objects s).get? key with
    | some _ => .ok ((), k.setObjects s ((k.objects s).erase key))
    | none => .error .notFound

/-- `r.Get` of a namespace. -/
def getNamespace (name : String) : Client (Except ApiError Unit) :=
  call none fun s => if name ∈ s.namespaces then .ok ((), s) else .error .notFound

/-- `r.List` of the nodes. -/
def listNodes : Client (Except ApiError (List Node)) := call none fun s => .ok (s.nodes, s)

/-- The order of the current pass's map ranges. -/
def mapOrder : Client MapOrder := fun c => (c.order, c)

end KubeNovaOperator
