import KubeNovaOperator.Store
import KubeNovaOperator.Builder.Web

/-!
# Status: the retry-safe writer and the aggregator

* `setStatusPhase` and `setStatusCondition` (`meta.SetStatusCondition`) change the caller's
  in-memory status only.
* `updateStatusWithRetry` makes up to three attempts; each re-fetches the root, puts the
  caller's status on the fresh copy and writes it through the status subresource, retrying
  after a conflict on the first two.  On success the caller's copy takes the written status
  and the new `resourceVersion`.  The function returns the caller's copy with its error, as
  the Go code updates it through the pointer.
* `checkComponentStatus` reads the Deployment of each of the seven backend names and of the
  web tier, records each one it reads, derives the access information, sets the phase and
  the `Ready` condition, and writes the status.
-/

namespace KubeNovaOperator

/-! ### In-memory status changes -/

/-- `setStatusPhase`. -/
def setStatusPhase (kn : KubeNova) (phase : DeploymentPhase) (message : String) : KubeNova :=
  { kn with status := { kn.status with phase, message, observedGeneration := kn.meta.generation } }

/-- `meta.SetStatusCondition`: the first condition of the new one's type takes its fields;
without one, the new condition is appended. -/
def setStatusCondition : List Condition → Condition → List Condition
  | [], c => [c]
  | x :: xs, c => if x.type = c.type then c :: xs else x :: setStatusCondition xs c

/-- `meta.FindStatusCondition`, by status. -/
def findConditionStatus (conds : List Condition) (type : String) : Option ConditionStatus :=
  (conds.find? fun c => c.type = type).map Condition.status

@[simp] theorem findConditionStatus_setStatusCondition (conds : List Condition) (c : Condition)
    (type : String) :
    findConditionStatus (setStatusCondition conds c) type =
      if type = c.type then some c.status else findConditionStatus conds type := by
  induction conds with
  | nil => by_cases h : type = c.type <;> simp [setStatusCondition, findConditionStatus, h, eq_comm]
  | cons x xs ih =>
    by_cases hx : x.type = c.type
    · by_cases h : type = c.type
      · simp [setStatusCondition, findConditionStatus, hx, h]
      · simp [setStatusCondition, findConditionStatus, hx, h, Ne.symm h]
    · simp only [setStatusCondition, hx, if_false]
      by_cases h : type = x.type
      · subst h; simp [findConditionStatus, hx]
      · simpa [findConditionStatus, Ne.symm h] using ih

/-- The status of a root's condition `Ready`. -/
def KubeNovaStatus.readyCondition (st : KubeNovaStatus) : Option ConditionStatus :=
  findConditionStatus st.conditions conditionTypeReady

/-- Set a condition on a root's in-memory status. -/
def KubeNova.setCondition (kn : KubeNova) (c : Condition) : KubeNova :=
  { kn with status := { kn.status with conditions := setStatusCondition kn.status.conditions c } }

/-! ### The retry-safe writer -/

/-- Attempts `i, …` of `updateStatusWithRetry`: re-fetch, copy the status, write; retry
after a conflict while `i < 2`. -/
def updateStatusAttempts (kn : KubeNova) : List Nat → Client (KubeNova × Option String)
  | [] => pure (kn, some "状态更新失败，已重试 3 次")
  | i :: rest => do
    match ← getKubeNova kn.key with
    | .error e => pure (kn, some e.text)
    | .ok latest =>
      match ← updateKubeNovaStatus { latest with status := kn.status } with
      | .error e =>
        if e = .conflict ∧ i < 2 then updateStatusAttempts kn rest else pure (kn, some e.text)
      | .ok latest =>
        pure ({ kn with
          status := latest.status,
          meta := { kn.meta with resourceVersion := latest.meta.resourceVersion } }, none)

/-- `updateStatusWithRetry`: three attempts. -/
def updateStatusWithRetry (kn : KubeNova) : Client (KubeNova × Option String) :=
  updateStatusAttempts kn [0, 1, 2]

/-! ### Node addresses -/

/-- A node reports the condition `Ready` as `True`. -/
def Node.isReady (n : Node) : Bool :=
  n.conditions.any fun c => c.type = "Ready" ∧ c.status = "True"

/-- The first address of a type. -/
def firstAddress (type : String) (addrs : List NodeAddress) : Option String :=
  (addrs.find? fun a => a.type = type).map NodeAddress.address

/-- The loop of `getNodeIP` over the nodes: a ready node's external address, else its
internal one, else the next ready node. -/
def readyNodeIP : List Node → Option String
  | [] => none
  | n :: ns =>
    if n.isReady then
      (firstAddress "ExternalIP" n.addresses <|> firstAddress "InternalIP" n.addresses) <|>
        readyNodeIP ns
    else readyNodeIP ns

/-- What `getNodeIP` returns for a node list: a ready node's address, else the first
external or internal address of the first node, else the empty string. -/
def nodeIPOf (nodes : List Node) : String :=
  match readyNodeIP nodes with
  | some ip => ip
  | none =>
    match nodes with
    | [] => ""
    | n :: _ =>
      ((n.addresses.find? fun a => a.type = "ExternalIP" ∨ a.type = "InternalIP").map
        NodeAddress.address).getD ""

/-- `getNodeIP`: the empty string when the nodes cannot be listed. -/
def getNodeIP : Client String := do
  match ← listNodes with
  | .ok nodes => pure (nodeIPOf nodes)
  | .error _ => pure ""

/-! ### Access information -/

/-- The seven backend services, as `checkComponentStatus` and `updateAccessInfo` list them. -/
def managedServices : List String :=
  ["portal-api", "portal-rpc", "manager-api", "manager-rpc", "workload-api", "console-api",
   "console-rpc"]

/-- The node ports of the web Service's `http` and `https` ports (the last of each wins). -/
def webNodePorts (ports : List ServicePort) : Int × Int :=
  ports.foldl (fun acc p =>
    (if p.name = "http" ∧ p.nodePort > 0 then p.nodePort else acc.1,
     if p.name = "https" ∧ p.nodePort > 0 then p.nodePort else acc.2)) ((0 : Int), (0 : Int))

/-- The web address in node-port mode, from the ports and the node address. -/
def nodePortWebURL (ports : Int × Int) (nodeIP : String) : String :=
  let host := if nodeIP ≠ "" then nodeIP else "<NODE-IP>"
  if ports.2 > 0 then "https://" ++ host ++ ":" ++ toString ports.2
  else if ports.1 > 0 then "http://" ++ host ++ ":" ++ toString ports.1
  else "NodePort (端口分配中...)"

/-- The web address `updateAccessInfo` records: the Ingress host in ingress mode, the node
address and node port in node-port mode, else the one already recorded. -/
def accessWebURL (kn : KubeNova) (ns current : String) : Client String :=
  match kn.spec.web.exposeType == "ingress", kn.spec.web.ingress with
  | true, some ing =>
    pure ((if kn.spec.web.ingressTLSEnabled then "https" else "http") ++ "://" ++ ing.host)
  | _, _ =>
    if kn.spec.web.exposeType = "nodeport" then do
      match ← getObject Kind.service ⟨ns, "kube-nova-web"⟩ with
      | .ok svc => pure (nodePortWebURL (webNodePorts svc.ports) (← getNodeIP))
      | .error _ => pure "Service 创建中..."
    else pure current

/-- `updateAccessInfo`: the web address, and the endpoints derived from the spec. -/
def updateAccessInfo (kn : KubeNova) (ns : String) : Client KubeNova := do
  let ai := kn.status.accessInfo.getD {}
  let webURL ← accessWebURL kn ns ai.webURL
  let endpoints := managedServices.foldl
    (fun m svc => m.insert svc (svc ++ "." ++ ns ++ ".svc.cluster.local")) ai.serviceEndpoints
  let ai := { ai with
    webURL
    serviceEndpoints := endpoints
    databaseEndpoint := kn.spec.database.getDatabaseEndpoint
    cacheEndpoint := kn.spec.cache.getCacheEndpoint
    storageEndpoint := kn.spec.storage.getStorageEndpoint
    jaegerUIURL := match kn.spec.telemetry with
      | some t => if t.enabled then t.jaegerEndpoint else ai.jaegerUIURL
      | none => ai.jaegerUIURL }
  pure { kn with status := { kn.status with accessInfo := some ai } }

/-! ### The aggregator -/

/-- The replica count a stored Deployment asks for; the API server stores a nil count as
one. -/
def Deployment.desiredReplicas (d : Deployment) : Int := d.spec.replicas.getD 1

/-- The record of a backend Deployment and whether it is ready. -/
def serviceComponentStatus (d : Deployment) : ComponentStatus × Bool :=
  let desired := d.desiredReplicas
  let ready := d.readyReplicas
  if ready = desired then (⟨.ready, ready, desired, "服务运行正常"⟩, true)
  else if ready > 0 then
    (⟨.running, ready, desired,
      "服务部分就绪 (" ++ toString ready ++ "/" ++ toString desired ++ ")"⟩, false)
  else (⟨.pending, ready, desired, "等待 Pod 启动"⟩, false)

/-- The record of the web Deployment and whether it is ready. -/
def webComponentStatus (d : Deployment) : ComponentStatus × Bool :=
  let desired := d.desiredReplicas
  let ready := d.readyReplicas
  if ready = desired then (⟨.ready, ready, desired, "Web 前端运行正常"⟩, true)
  else
    (⟨.running, ready, desired,
      "Web 前端部分就绪 (" ++ toString ready ++ "/" ++ toString desired ++ ")"⟩, false)

/-- The loop of `checkComponentStatus` over the backend names: a Deployment that cannot be
read is skipped; one that is read is recorded and counts toward `allReady`. -/
def checkServiceStatuses (ns : String) :
    List String → KubeNova → Bool → Client (KubeNova × Bool)
  | [], kn, allReady => pure (kn, allReady)
  | name :: rest, kn, allReady => do
    match ← getObject Kind.deployment ⟨ns, name⟩ with
    | .error _ => checkServiceStatuses ns rest kn allReady
    | .ok d =>
      let (st, ready) := serviceComponentStatus d
      checkServiceStatuses ns rest
        { kn with status := { kn.status with componentStatus :=
          { kn.status.componentStatus with
            services := kn.status.componentStatus.services.insert name st } } }
        (allReady && ready)

/-- The web step of `checkComponentStatus`. -/
def checkWebStatus (ns : String) (kn : KubeNova) (allReady : Bool) : Client (KubeNova × Bool) := do
  match ← getObject Kind.deployment ⟨ns, "kube-nova-web"⟩ with
  | .error _ => pure (kn, allReady)
  | .ok d =>
    let (st, ready) := webComponentStatus d
    pure ({ kn with status := { kn.status with componentStatus :=
      { kn.status.componentStatus with web := some st } } }, allReady && ready)

/-- The phase and `Ready` condition `checkComponentStatus` sets. -/
def setAggregatePhase (kn : KubeNova) (allReady : Bool) : KubeNova :=
  if allReady then
    (setStatusPhase kn .ready "所有组件运行正常").setCondition
      ⟨conditionTypeReady, .conditionTrue, "AllComponentsReady", "所有组件运行正常",
        kn.meta.generation⟩
  else
    (setStatusPhase kn .creating "部分组件尚未就绪").setCondition
      ⟨conditionTypeReady, .conditionFalse, "ComponentsNotReady", "部分组件尚未就绪",
        kn.meta.generation⟩

/-- `checkComponentStatus`. -/
def checkComponentStatus (kn : KubeNova) : Client (KubeNova × Option String) := do
  let ns := kn.meta.namespace
  let (kn, allReady) ← checkServiceStatuses ns managedServices kn true
  let (kn, allReady) ← checkWebStatus ns kn allReady
  let kn ← updateAccessInfo kn ns
  updateStatusWithRetry (setAggregatePhase kn allReady)

end KubeNovaOperator
