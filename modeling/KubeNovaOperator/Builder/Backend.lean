import KubeNovaOperator.Api.V1

/-!
# Desired state of the backend tier and of the RBAC objects (`internal/builder`)

`buildAllServices` is `BuildAllServices`: a Deployment and a ClusterIP Service for each of
the seven backend services the spec enables.  The seven blocks of the source differ only in
their `serviceConfig` literal, so they are the seven entries of `backendConfigs`, each with
the source's ports, ConfigMap, component and flags, folded in source order.

`buildClusterRoleBinding` is `BuildClusterRoleBinding`, whose name
`kube-nova-{namespace}-{name}-cluster-admin` is the one `reconcileDelete` recomputes.
-/

namespace KubeNovaOperator

/-! ### RBAC -/

/-- `ServiceAccountName`: the account every backend pod runs as. -/
def serviceAccountName : String := "kube-nova-sa"

/-- `BuildServiceAccount`. -/
def buildServiceAccount (_kn : KubeNova) (_ns : String) : ServiceAccount :=
  { name := serviceAccountName }

/-- The name format `kube-nova-%s-%s-cluster-admin` of a root's binding. -/
def clusterRoleBindingName (ns name : String) : String :=
  "kube-nova-" ++ ns ++ "-" ++ name ++ "-cluster-admin"

/-- `BuildClusterRoleBinding`: `cluster-admin` for the namespace's service account. -/
def buildClusterRoleBinding (kn : KubeNova) (ns : String) : ClusterRoleBinding :=
  { name := clusterRoleBindingName ns kn.meta.name
    subjects := [{ kind := "ServiceAccount", name := serviceAccountName, «namespace» := ns }]
    roleRef := "cluster-admin" }

/-! ### One backend service -/

/-- `serviceConfig`: what distinguishes one backend service from another. -/
structure ServiceCfg where
  name : String
  port : Int
  targetPort : Int
  metricsPort : Int
  configMapName : String
  registry : ImageRegistryConfig
  serviceConfig : Option ServiceConfig
  component : String
  needMinIOCerts : Bool := false
  minIOCertSecret : String := ""
  needCache : Bool := false
  deriving DecidableEq, Repr

/-- `ServiceResources`. -/
structure ServiceResources where
  deployment : Deployment
  service : Service
  deriving DecidableEq, Repr

/-- `getServiceResources`: the spec's requirements, or the defaults. -/
def getServiceResources (sc : Option ServiceConfig) : ResourceRequirements :=
  match sc.bind ServiceConfig.resources with
  | some r => r
  | none =>
    { requests := some ⟨[("memory", "256Mi"), ("cpu", "200m")]⟩
      limits := some ⟨[("memory", "512Mi"), ("cpu", "1000m")]⟩ }

/-- Whether the MinIO certificates are mounted (only `portal-rpc` asks for them). -/
def ServiceCfg.mountsCerts (cfg : ServiceCfg) : Bool :=
  cfg.needMinIOCerts && cfg.minIOCertSecret != ""

/-- `getServiceVolumeMounts`. -/
def getServiceVolumeMounts (cfg : ServiceCfg) : List VolumeMount :=
  [{ name := "config", mountPath := "/app/etc", readOnly := true }] ++
  (if cfg.mountsCerts then
    [{ name := "minio-certs", mountPath := "/app/etc/minio-certs", readOnly := true }]
   else []) ++
  (if cfg.needCache then [{ name := "cache", mountPath := "/app/cache" }] else [])

/-- `getServiceVolumes`. -/
def getServiceVolumes (cfg : ServiceCfg) : List Volume :=
  [{ name := "config", source := .configMap cfg.configMapName [] }] ++
  (if cfg.mountsCerts then
    [{ name := "minio-certs",
       source := .secret cfg.minIOCertSecret (some false)
         [{ key := "public.crt", path := "public.crt" },
          { key := "private.key", path := "private.key" }] }]
   else []) ++
  (if cfg.needCache then [{ name := "cache", source := .emptyDir (some "1Gi") }] else [])

/-- The image: the registry path of the service, unless the spec names one. -/
def ServiceCfg.image (cfg : ServiceCfg) : String :=
  let image := cfg.registry.registry ++ "/" ++ cfg.registry.organization ++ "/" ++ cfg.name ++
    ":" ++ cfg.registry.tag
  match cfg.serviceConfig with
  | some sc => if sc.image ≠ "" then sc.image else image
  | none => image

/-- `buildDeployment`: one container running the service under `kube-nova-sa`, with `TZ`,
`POD_NAMESPACE` and the spec's extra variables. -/
def buildDeployment (_kn : KubeNova) (_ns : String) (cfg : ServiceCfg) : Deployment :=
  { name := cfg.name
    spec :=
      { replicas := some (ServiceConfig.getReplicas cfg.serviceConfig)
        containers :=
          [{ name := cfg.name
             image := cfg.image
             imagePullPolicy := cfg.registry.pullPolicy
             ports := [{ containerPort := cfg.targetPort },
                       { name := "metrics", containerPort := cfg.metricsPort }]
             env := [{ name := "TZ", value := "Asia/Shanghai" },
                     { name := "POD_NAMESPACE"
                       valueFrom := some (.fieldRef "metadata.namespace") }] ++
                    ((cfg.serviceConfig.map ServiceConfig.env).getD [])
             resources := getServiceResources cfg.serviceConfig
             volumeMounts := getServiceVolumeMounts cfg }]
        volumes := getServiceVolumes cfg
        serviceAccountName := serviceAccountName
        imagePullSecrets := cfg.registry.pullSecrets } }

/-- `buildK8sService`: a ClusterIP Service on the service port. -/
def buildK8sService (_ns : String) (cfg : ServiceCfg) : Service :=
  { name := cfg.name, type := "ClusterIP",
    ports := [{ name := "http", port := cfg.port, targetPort := cfg.targetPort }] }

/-- `buildService`. -/
def buildService (kn : KubeNova) (ns : String) (cfg : ServiceCfg) : ServiceResources :=
  { deployment := buildDeployment kn ns cfg, service := buildK8sService ns cfg }

/-! ### The seven services -/

/-- The `serviceConfig` literals of `BuildAllServices`, in source order. -/
def backendConfigs (kn : KubeNova) : List ServiceCfg :=
  let registry := kn.getImageRegistry
  let s := kn.spec.services
  [{ name := "portal-api", port := 8810, targetPort := 8810, metricsPort := 9999,
     configMapName := "portal-api-config", registry, serviceConfig := s.portalAPI,
     component := "api" },
   { name := "portal-rpc", port := 30010, targetPort := 30010, metricsPort := 9999,
     configMapName := "portal-rpc-config", registry, serviceConfig := s.portalRPC,
     component := "rpc", needMinIOCerts := kn.spec.storage.tlsEnabled,
     minIOCertSecret :=
       match kn.spec.storage.tls with
       | some t => if t.enabled then t.secretName else ""
       | none => "" },
   { name := "manager-api", port := 8811, targetPort := 8811, metricsPort := 9999,
     configMapName := "manager-api-config", registry, serviceConfig := s.managerAPI,
     component := "api" },
   { name := "manager-rpc", port := 30011, targetPort := 30011, metricsPort := 9999,
     configMapName := "manager-rpc-config", registry, serviceConfig := s.managerRPC,
     component := "rpc" },
   { name := "workload-api", port := 8812, targetPort := 8812, metricsPort := 9999,
     configMapName := "workload-api-config", registry, serviceConfig := s.workloadAPI,
     component := "api" },
   { name := "console-api", port := 8818, targetPort := 8818, metricsPort := 9999,
     configMapName := "console-api-config", registry, serviceConfig := s.consoleAPI,
     component := "api", needCache := true },
   { name := "console-rpc", port := 30018, targetPort := 30018, metricsPort := 9999,
     configMapName := "console-rpc-config", registry, serviceConfig := s.consoleRPC,
     component := "rpc", needCache := true }]

/-- `BuildAllServices`: the enabled services, under their names. -/
def buildAllServices (kn : KubeNova) (ns : String) : GoMap String ServiceResources :=
  (backendConfigs kn).foldl
    (fun services cfg =>
      if ServiceConfig.isServiceEnabled cfg.serviceConfig then
        services.insert cfg.name (buildService kn ns cfg)
      else services)
    GoMap.empty

end KubeNovaOperator
