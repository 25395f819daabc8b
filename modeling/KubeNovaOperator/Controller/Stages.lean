import KubeNovaOperator.Controller.Status
import KubeNovaOperator.Controller.Diff
import KubeNovaOperator.Builder.Config
import KubeNovaOperator.Validator

/-!
# The pipeline stages

Stages 1–7 of `Reconcile`, each returning its wrapped error (`none` for nil).  The
create-or-update blocks of the source come in three shapes, each written once with the
messages of its call sites as parameters:

* `ensureCreated`: get, and create when not found (ServiceAccount, ClusterRoleBinding,
  Services, Ingress);
* `ensureData`: get, create when not found, and overwrite the data when `reflect.DeepEqual`
  finds it changed (Secret, ConfigMaps);
* `ensureDeployment`: get, create when not found, and when `deploymentSpecEqual` finds a
  difference re-fetch and write the desired fields onto the fresh copy.  What is written is
  the splice of the call site: the backend tier writes the service account name, the web
  tier does not.

A step list runs until its first error (`runSteps`).  `controllerutil.SetControllerReference`
is not a store call: it sets the root as the owner of an object in the root's own namespace,
which cannot fail here.  The owner reference is read only by the garbage collector, which
the model keeps as a step of runs (`Store.collectGarbage`) rather than as a field.
-/

namespace KubeNovaOperator

/-! ### The three shapes of a step -/

/-- Get an object; create it when it is not found. -/
def ensureCreated {α : Type} (k : Kind α) (key : ObjKey) (obj : α)
    (createMsg getMsg : String) : Client (Option String) := do
  match ← getObject k key with
  | .ok _ => pure none
  | .error .notFound =>
    match ← createObject k key obj with
    | .ok () => pure none
    | .error e => pure (some (createMsg ++ e.text))
  | .error e => pure (some (getMsg ++ e.text))

/-- Get an object; create it when it is not found; overwrite its data when it differs. -/
def ensureData {α : Type} (k : Kind α) (key : ObjKey) (obj : α) (data : α → GoMap String String)
    (setData : α → GoMap String String → α) (createMsg getMsg updateMsg : String) :
    Client (Option String) := do
  match ← getObject k key with
  | .error .notFound =>
    match ← createObject k key obj with
    | .ok () => pure none
    | .error e => pure (some (createMsg ++ e.text))
  | .error e => pure (some (getMsg ++ e.text))
  | .ok existing =>
    if (data existing).deepEqual (data obj) then pure none
    else
      match ← updateObject k key (setData existing (data obj)) with
      | .ok () => pure none
      | .error e => pure (some (updateMsg ++ e.text))

/-- The fields the backend tier writes onto a fresh copy of its Deployment. -/
def spliceBackend (latest desired : DeploymentSpec) : DeploymentSpec :=
  { latest with
    replicas := desired.replicas
    containers := desired.containers
    volumes := desired.volumes
    serviceAccountName := desired.serviceAccountName
    imagePullSecrets := desired.imagePullSecrets }

/-- The fields the web tier writes: those of `spliceBackend` but the service account. -/
def spliceWeb (latest desired : DeploymentSpec) : DeploymentSpec :=
  { latest with
    replicas := desired.replicas
    containers := desired.containers
    volumes := desired.volumes
    imagePullSecrets := desired.imagePullSecrets }

/-- Messages of a Deployment step. -/
structure DeploymentMsgs where
  create : String
  get : String
  refetch : String
  update : String

/-- Get a Deployment; create it when not found; when `deploymentSpecEqual` finds a
difference, re-fetch it and write the splice onto the fresh copy. -/
def ensureDeployment (key : ObjKey) (desired : Deployment)
    (splice : DeploymentSpec → DeploymentSpec → DeploymentSpec) (msgs : DeploymentMsgs) :
    Client (Option String) := do
  match ← getObject Kind.deployment key with
  | .error .notFound =>
    match ← createObject Kind.deployment key desired with
    | .ok () => pure none
    | .error e => pure (some (msgs.create ++ e.text))
  | .error e => pure (some (msgs.get ++ e.text))
  | .ok existing =>
    if deploymentSpecEqual existing.spec desired.spec then pure none
    else
      match ← getObject Kind.deployment key with
      | .error e => pure (some (msgs.refetch ++ e.text))
      | .ok latest =>
        match ← updateObject Kind.deployment key
            { latest with spec := splice latest.spec desired.spec } with
        | .ok () => pure none
        | .error e => pure (some (msgs.update ++ e.text))

/-- Run steps in order up to the first error. -/
def runSteps : List (Client (Option String)) → Client (Option String)
  | [] => pure none
  | x :: xs => do
    match ← x with
    | some e => pure (some e)
    | none => runSteps xs

/-! ### Stages 1 and 2 -/

/-- `reconcileValidation`: sets `Validating` and the `Validated` condition in memory only. -/
def reconcileValidation (kn : KubeNova) : KubeNova × Option String :=
  let kn := setStatusPhase kn .validating "正在验证配置"
  match validateKubeNova kn with
  | some err =>
    (kn.setCondition ⟨conditionTypeValidated, .conditionFalse, "ValidationFailed",
      "配置验证失败: " ++ err, kn.meta.generation⟩, some err)
  | none =>
    (kn.setCondition ⟨conditionTypeValidated, .conditionTrue, "ValidationSucceeded",
      "配置验证成功", kn.meta.generation⟩, none)

/-- `reconcileNamespace`: the root's namespace must exist. -/
def reconcileNamespace (kn : KubeNova) : Client (Option String) := do
  match ← getNamespace kn.meta.namespace with
  | .ok () => pure none
  | .error .notFound =>
    pure (some ("命名空间 " ++ kn.meta.namespace ++ " 不存在，请先创建命名空间"))
  | .error e => pure (some ("获取命名空间失败: " ++ e.text))

/-! ### Stages 3 to 5 -/

/-- `reconcileRBAC`: the service account, then the cluster-scoped binding. -/
def reconcileRBAC (kn : KubeNova) : Client (Option String) :=
  let ns := kn.meta.namespace
  let sa := buildServiceAccount kn ns
  let crb := buildClusterRoleBinding kn ns
  runSteps
    [ensureCreated Kind.serviceAccount ⟨ns, sa.name⟩ sa
      "创建 ServiceAccount 失败: " "获取 ServiceAccount 失败: ",
     ensureCreated Kind.clusterRoleBinding ⟨"", crb.name⟩ crb
      "创建 ClusterRoleBinding 失败: " "获取 ClusterRoleBinding 失败: "]

/-- `getWebNodePort`: in node-port mode, the web Service's HTTPS node port (when HTTPS is
enabled), else its HTTP one, else the configured HTTP port, else 30080. -/
def getWebNodePort (kn : KubeNova) (ns : String) : Client Int := do
  if kn.spec.web.exposeType ≠ "nodeport" then pure 0 else
  let fallback : Int :=
    match kn.spec.web.nodePort with
    | some np => if np.httpPort > 0 then np.httpPort else 30080
    | none => 30080
  match ← getObject Kind.service ⟨ns, "kube-nova-web"⟩ with
  | .error _ => pure fallback
  | .ok svc =>
    let https :=
      if kn.spec.web.nodePortHTTPSEnabled then
        svc.ports.find? fun p => p.name = "https" ∧ p.nodePort > 0
      else none
    match https <|> svc.ports.find? (fun p => p.name = "http" ∧ p.nodePort > 0) with
    | some p => pure p.nodePort
    | none => pure fallback

/-- `reconcileSecret`: the Secret built from the node address and the web node port. -/
def reconcileSecret (kn : KubeNova) : Client (Option String) := do
  let ns := kn.meta.namespace
  let nodeIP ← getNodeIP
  let nodePort ← getWebNodePort kn ns
  let secret := buildSecret kn ns nodeIP nodePort
  ensureData Kind.secret ⟨ns, secret.name⟩ secret Secret.data (fun s d => { s with data := d })
    "创建 Secret 失败: " "获取 Secret 失败: " "更新 Secret 失败: "

/-- `reconcileConfigMaps`: the seven service ConfigMaps in order. -/
def reconcileConfigMaps (kn : KubeNova) : Client (Option String) :=
  let ns := kn.meta.namespace
  runSteps ((buildAllConfigMaps kn ns).map fun cm =>
    ensureData Kind.configMap ⟨ns, cm.name⟩ cm ConfigMap.data (fun c d => { c with data := d })
      ("创建 ConfigMap " ++ cm.name ++ " 失败: ") "获取 ConfigMap 失败: "
      ("更新 ConfigMap " ++ cm.name ++ " 失败: "))

/-! ### Stages 6 and 7 -/

/-- The body of the `range` in `reconcileServices`: the Deployment, then the Service. -/
def serviceSteps (ns name : String) (res : ServiceResources) : List (Client (Option String)) :=
  [ensureDeployment ⟨ns, res.deployment.name⟩ res.deployment spliceBackend
    ⟨"创建 Deployment " ++ name ++ " 失败: ", "获取 Deployment 失败: ",
      "重新获取 Deployment 失败: ", "更新 Deployment " ++ name ++ " 失败: "⟩,
   ensureCreated Kind.service ⟨ns, res.service.name⟩ res.service
    ("创建 Service " ++ name ++ " 失败: ") "获取 Service 失败: "]

/-- `reconcileServices`: sets `Creating` in memory, then ranges over the enabled services in
the order the pass's map iteration gives. -/
def reconcileServices (kn : KubeNova) : Client (KubeNova × Option String) := do
  let ns := kn.meta.namespace
  let services := buildAllServices kn ns
  let kn := setStatusPhase kn .creating "正在部署后端服务"
  let order ← mapOrder
  let err ← runSteps ((order.arrange services.keys.dedup).flatMap fun name =>
    match services.get? name with
    | some res => serviceSteps ns name res
    | none => [])
  pure (kn, err)

/-- `reconcileWeb`: the nginx ConfigMap (unless a custom one is named), the Deployment, the
Service, and the Ingress in ingress mode. -/
def reconcileWeb (kn : KubeNova) : Client (Option String) :=
  let ns := kn.meta.namespace
  let web := buildWebResources kn ns
  runSteps
    ((web.nginxConfigMap.map fun cm =>
        ensureData Kind.configMap ⟨ns, cm.name⟩ cm ConfigMap.data (fun c d => { c with data := d })
          "创建 Web ConfigMap 失败: " "获取 Web ConfigMap 失败: " "更新 Web ConfigMap 失败: ").toList ++
     [ensureDeployment ⟨ns, web.deployment.name⟩ web.deployment spliceWeb
        ⟨"创建 Web Deployment 失败: ", "获取 Web Deployment 失败: ",
          "重新获取 Web Deployment 失败: ", "更新 Web Deployment 失败: "⟩,
      ensureCreated Kind.service ⟨ns, web.service.name⟩ web.service
        "创建 Web Service 失败: " "获取 Web Service 失败: "] ++
     (web.ingress.map fun ing =>
        ensureCreated Kind.ingress ⟨ns, ing.name⟩ ing "创建 Ingress 失败: " "获取 Ingress 失败: ").toList)

end KubeNovaOperator
