import KubeNovaOperator.Api.Core

/-!
# The `KubeNova` resource (`api/v1`)

The custom resource the operator reconciles: its spec (the configuration of the database,
cache, object storage, tracing, the seven backend services and the web front end), its status
(phase, conditions, per-component state, access information) and the helper methods of
`kubenova_types.go` that the builders, the validator and the controller call.

A Go pointer field is an `Option`; the spec's string enums stay strings, since the validator
is what rejects the values outside them.  Times (`LastUpdateTime`, a condition's
`LastTransitionTime`) are left out: no decision of the operator reads them.  A Go `error` is
its text, and `none` is `nil`.
-/

namespace KubeNovaOperator

/-! ### Spec -/

/-- `ImageRegistryConfig`. -/
structure ImageRegistryConfig where
  registry : String
  organization : String
  tag : String
  pullPolicy : String
  pullSecrets : List String := []
  deriving DecidableEq, Repr

/-- `DatabaseConfig` (MySQL). -/
structure DatabaseConfig where
  host : String
  port : Int
  database : String
  user : String
  password : String
  maxOpenConns : Int := 0
  maxIdleConns : Int := 0
  connMaxLifetime : String := ""
  deriving DecidableEq, Repr

/-- `CacheConfig` (Redis). -/
structure CacheConfig where
  host : String
  port : Int
  type : String
  password : String := ""
  tls : Bool := false
  nonBlock : Bool := false
  pingTimeout : String := ""
  deriving DecidableEq, Repr

/-- `MinIOTLSConfig`. -/
structure MinIOTLSConfig where
  enabled : Bool
  secretName : String := ""
  deriving DecidableEq, Repr

/-- `StorageConfig` (MinIO). -/
structure StorageConfig where
  endpoint : String
  endpointProxy : String := ""
  accessKey : String
  secretKey : String
  bucket : String
  tls : Option MinIOTLSConfig := none
  deriving DecidableEq, Repr

/-- `TelemetryConfig` (Jaeger). -/
structure TelemetryConfig where
  enabled : Bool
  jaegerEndpoint : String := ""
  sampler : String := ""
  batcher : String := ""
  deriving DecidableEq, Repr

/-- `JWTConfig`. -/
structure JWTConfig where
  accessSecret : String
  accessExpire : Int := 0
  refreshSecret : String
  refreshExpire : Int := 0
  refreshAfter : Int := 0
  deriving DecidableEq, Repr

/-- `PortalConfig`. -/
structure PortalConfig where
  name : String
  url : String := ""
  demoMode : Bool := false
  deriving DecidableEq, Repr

/-- `ServiceConfig`: the settings of one backend service. -/
structure ServiceConfig where
  enabled : Option Bool := none
  replicas : Int := 0
  image : String := ""
  resources : Option ResourceRequirements := none
  env : List EnvVar := []
  deriving DecidableEq, Repr

/-- `ServicesConfig`: global backend settings and the seven services. -/
structure ServicesConfig where
  globalTimeout : Int := 0
  jwt : JWTConfig
  portal : Option PortalConfig := none
  webhookToken : String := ""
  injectImage : String := ""
  portalAPI : Option ServiceConfig := none
  portalRPC : Option ServiceConfig := none
  managerAPI : Option ServiceConfig := none
  managerRPC : Option ServiceConfig := none
  workloadAPI : Option ServiceConfig := none
  consoleAPI : Option ServiceConfig := none
  consoleRPC : Option ServiceConfig := none
  deriving DecidableEq, Repr

/-- `IngressTLSConfig`. -/
structure IngressTLSConfig where
  enabled : Bool
  secretName : String := ""
  deriving DecidableEq, Repr

/-- `IngressConfig`. -/
structure IngressConfig where
  className : String := ""
  host : String
  tls : Option IngressTLSConfig := none
  annotations : GoMap String String := GoMap.empty
  deriving DecidableEq, Repr

/-- `NodePortHTTPSConfig`. -/
structure NodePortHTTPSConfig where
  enabled : Bool
  port : Int := 0
  secretName : String := ""
  deriving DecidableEq, Repr

/-- `NodePortConfig`. -/
structure NodePortConfig where
  httpPort : Int := 0
  https : Option NodePortHTTPSConfig := none
  deriving DecidableEq, Repr

/-- `MinIOProxyConfig`. -/
structure MinIOProxyConfig where
  enabled : Bool
  pathPrefix : String := ""
  proxyEndpoint : String := ""
  deriving DecidableEq, Repr

/-- `WebConfig`: the front end. -/
structure WebConfig where
  replicas : Int := 0
  image : String := ""
  resources : Option ResourceRequirements := none
  exposeType : String
  ingress : Option IngressConfig := none
  nodePort : Option NodePortConfig := none
  minioProxy : Option MinIOProxyConfig := none
  customNginxConfigMap : String := ""
  deriving DecidableEq, Repr

/-- `KubeNovaSpec`. -/
structure KubeNovaSpec where
  imageRegistry : Option ImageRegistryConfig := none
  database : DatabaseConfig
  cache : CacheConfig
  storage : StorageConfig
  telemetry : Option TelemetryConfig := none
  services : ServicesConfig
  web : WebConfig
  deriving DecidableEq, Repr

/-! ### Status -/

/-- `DeploymentPhase`; `unset` is the empty string a fresh resource carries. -/
inductive DeploymentPhase where
  | unset | validating | pending | creating | ready | updating | failed | deleting
  deriving DecidableEq, Repr

/-- `ComponentState`. -/
inductive ComponentState where
  | unset | pending | creating | running | ready | failed | updating
  deriving DecidableEq, Repr

/-- `metav1.ConditionStatus`. -/
inductive ConditionStatus where
  | conditionTrue | conditionFalse | conditionUnknown
  deriving DecidableEq, Repr

/-- `metav1.Condition`, without its transition time. -/
structure Condition where
  type : String
  status : ConditionStatus
  reason : String
  message : String
  observedGeneration : Int
  deriving DecidableEq, Repr

/-- `ComponentStatus`. -/
structure ComponentStatus where
  state : ComponentState
  readyReplicas : Int
  desiredReplicas : Int
  message : String
  deriving DecidableEq, Repr

/-- `ComponentStatusMap`, with the two entries the controller writes; a nil `Services` map
reads as the empty one. -/
structure ComponentStatusMap where
  services : GoMap String ComponentStatus := GoMap.empty
  web : Option ComponentStatus := none
  deriving DecidableEq, Repr

/-- `AccessInfo`. -/
structure AccessInfo where
  webURL : String := ""
  databaseEndpoint : String := ""
  cacheEndpoint : String := ""
  storageEndpoint : String := ""
  jaegerUIURL : String := ""
  serviceEndpoints : GoMap String String := GoMap.empty
  deriving DecidableEq, Repr

/-- `KubeNovaStatus`. -/
structure KubeNovaStatus where
  phase : DeploymentPhase := .unset
  conditions : List Condition := []
  componentStatus : ComponentStatusMap := {}
  accessInfo : Option AccessInfo := none
  message : String := ""
  observedGeneration : Int := 0
  deriving DecidableEq, Repr

/-- The condition types the controller sets. -/
def conditionTypeReady : String := "Ready"

/-- See `conditionTypeReady`. -/
def conditionTypeValidated : String := "Validated"

/-! ### The resource -/

/-- The `metav1.ObjectMeta` of a `KubeNova`: identity, the store's `generation` and
`resourceVersion`, the deletion timestamp (a time when set) and the finalizers. -/
structure ObjectMeta where
  (name «namespace» : String)
  generation : Int := 1
  resourceVersion : Nat := 0
  deletionTimestamp : Option Nat := none
  finalizers : List String := []
  deriving DecidableEq, Repr

/-- `KubeNova`. -/
structure KubeNova where
  meta : ObjectMeta
  spec : KubeNovaSpec
  status : KubeNovaStatus := {}
  deriving DecidableEq, Repr

/-! ### Helper methods -/

/-- `GetImageRegistry`: the spec's registry or the default one. -/
def KubeNova.getImageRegistry (k : KubeNova) : ImageRegistryConfig :=
  k.spec.imageRegistry.getD
    { registry := "registry.cn-hangzhou.aliyuncs.com", organization := "kube-nova",
      tag := "latest", pullPolicy := "Always" }

/-- `IsServiceEnabled` on a possibly nil `*ServiceConfig`. -/
def ServiceConfig.isServiceEnabled : Option ServiceConfig → Bool
  | none => true
  | some s => s.enabled.getD true

/-- `GetReplicas` on a possibly nil `*ServiceConfig`: two unless a positive count is set. -/
def ServiceConfig.getReplicas : Option ServiceConfig → Int
  | some s => if s.replicas ≤ 0 then 2 else s.replicas
  | none => 2

/-- `IsTelemetryEnabled`. -/
def KubeNova.isTelemetryEnabled (k : KubeNova) : Bool :=
  match k.spec.telemetry with
  | some t => t.enabled
  | none => false

/-- `GetWebReplicas`: three unless a positive count is set. -/
def WebConfig.getWebReplicas (w : WebConfig) : Int :=
  if w.replicas ≤ 0 then 3 else w.replicas

/-- `IsMinIOProxyEnabled`. -/
def KubeNova.isMinIOProxyEnabled (k : KubeNova) : Bool :=
  match k.spec.web.minioProxy with
  | some p => p.enabled
  | none => false

/-- `GetMinIOProxyPath`. -/
def KubeNova.getMinIOProxyPath (k : KubeNova) : String :=
  match k.spec.web.minioProxy with
  | some p => if p.pathPrefix = "" then "/storage" else p.pathPrefix
  | none => "/storage"

/-- Whether the storage TLS block is present and enabled. -/
def StorageConfig.tlsEnabled (s : StorageConfig) : Bool :=
  match s.tls with
  | some t => t.enabled
  | none => false

/-- Whether the node-port HTTPS block is present and enabled. -/
def WebConfig.nodePortHTTPSEnabled (w : WebConfig) : Bool :=
  match w.nodePort.bind NodePortConfig.https with
  | some h => h.enabled
  | none => false

/-- Whether the ingress TLS block is present and enabled. -/
def WebConfig.ingressTLSEnabled (w : WebConfig) : Bool :=
  match w.ingress.bind IngressConfig.tls with
  | some t => t.enabled
  | none => false

/-- `pathPrefix[1:]` when the prefix starts with a slash. -/
def dropLeadingSlash (p : String) : String :=
  if p.startsWith "/" then p.drop 1 else p

/-- `GetMinIOEndpointForBackendWithNodeInfo`: where the backends reach object storage. -/
def KubeNova.getMinIOEndpointForBackendWithNodeInfo (k : KubeNova) (nodeIP : String)
    (nodePort : Int) : String :=
  match k.spec.web.minioProxy with
  | none => k.spec.storage.endpoint
  | some p =>
    if !p.enabled then k.spec.storage.endpoint
    else if p.proxyEndpoint ≠ "" then p.proxyEndpoint
    else
      let pathPrefix := dropLeadingSlash k.getMinIOProxyPath
      match k.spec.web.exposeType == "ingress", k.spec.web.ingress with
      | true, some ing =>
        let protocol := if k.spec.web.ingressTLSEnabled then "https" else "http"
        protocol ++ "://" ++ ing.host ++ "/" ++ pathPrefix
      | _, _ =>
        let protocol := if k.spec.web.nodePortHTTPSEnabled then "https" else "http"
        let ip := if nodeIP = "" then "<NODE_IP>" else nodeIP
        let port := if nodePort = 0 then (if protocol = "https" then 30443 else 30080) else nodePort
        protocol ++ "://" ++ ip ++ ":" ++ toString port ++ "/" ++ pathPrefix

/-- `GetStorageEndpoint`. -/
def StorageConfig.getStorageEndpoint (s : StorageConfig) : String :=
  (if s.tlsEnabled then "https://" else "http://") ++ s.endpoint

/-- `GetCacheEndpoint`. -/
def CacheConfig.getCacheEndpoint (c : CacheConfig) : String := c.host ++ ":" ++ toString c.port

/-- `GetDatabaseEndpoint`. -/
def DatabaseConfig.getDatabaseEndpoint (d : DatabaseConfig) : String :=
  d.host ++ ":" ++ toString d.port

/-- `GetMaxOpenConns`. -/
def DatabaseConfig.getMaxOpenConns (d : DatabaseConfig) : Int :=
  if d.maxOpenConns ≤ 0 then 100 else d.maxOpenConns

/-- `GetMaxIdleConns`. -/
def DatabaseConfig.getMaxIdleConns (d : DatabaseConfig) : Int :=
  if d.maxIdleConns ≤ 0 then 50 else d.maxIdleConns

/-- `GetConnMaxLifetime`. -/
def DatabaseConfig.getConnMaxLifetime (d : DatabaseConfig) : String :=
  if d.connMaxLifetime = "" then "30m" else d.connMaxLifetime

end KubeNovaOperator
