import KubeNovaOperator.Builder.Backend

/-!
# Credentials and configuration documents (`internal/builder`)

`buildSecret` is `BuildSecret`: every value the backends read from `kube-nova-secret`,
including the MinIO endpoint the front end proxies, which depends on the node address and
node port the controller looks up.  `buildAllConfigMaps` is `BuildAllConfigMaps`: the seven
`config.yaml` documents.  Their templates read nothing from the spec (their `${...}`
placeholders are filled from the Secret inside the pods), so each is kept by its first line.
-/

namespace KubeNovaOperator

/-! ### The Secret -/

/-- `BuildSecret`. -/
def buildSecret (kn : KubeNova) (_ns : String) (nodeIP : String) (nodePort : Int) : Secret :=
  let s := kn.spec
  let useSSL := s.storage.tlsEnabled
  let endpointProxy :=
    if s.storage.endpointProxy ≠ "" then s.storage.endpointProxy
    else if kn.isMinIOProxyEnabled then kn.getMinIOEndpointForBackendWithNodeInfo nodeIP nodePort
    else (if useSSL then "https" else "http") ++ "://" ++ s.storage.endpoint
  let telemetry : List (String × String) :=
    match s.telemetry with
    | some t =>
      if t.enabled then
        [("JAEGER_ENDPOINT", t.jaegerEndpoint), ("TELEMETRY_SAMPLER", t.sampler),
         ("TELEMETRY_BATCHER", t.batcher)]
      else [("JAEGER_ENDPOINT", ""), ("TELEMETRY_SAMPLER", "0"), ("TELEMETRY_BATCHER", "jaeger")]
    | none => [("JAEGER_ENDPOINT", ""), ("TELEMETRY_SAMPLER", "0"), ("TELEMETRY_BATCHER", "jaeger")]
  let portal : List (String × String) :=
    match s.services.portal with
    | some p => [("PORTAL_NAME", p.name), ("PORTAL_URL", p.url), ("DEMO_MODE", toString p.demoMode)]
    | none => [("PORTAL_NAME", "Kube-Nova 云原生平台"), ("PORTAL_URL", ""), ("DEMO_MODE", "false")]
  { name := "kube-nova-secret"
    data := ⟨[("DEFAULT_TIMEOUT", toString s.services.globalTimeout),
      ("MYSQL_HOST", s.database.host),
      ("MYSQL_PORT", toString s.database.port),
      ("MYSQL_DATABASE", s.database.database),
      ("MYSQL_USER", s.database.user),
      ("MYSQL_PASSWORD", s.database.password),
      ("MYSQL_MAX_OPEN_CONNS", toString s.database.getMaxOpenConns),
      ("MYSQL_MAX_IDLE_CONNS", toString s.database.getMaxIdleConns),
      ("MYSQL_CONN_MAX_LIFETIME", s.database.getConnMaxLifetime),
      ("REDIS_HOST", s.cache.host),
      ("REDIS_PORT", toString s.cache.port),
      ("REDIS_PASSWORD", s.cache.password),
      ("REDIS_TYPE", s.cache.type),
      ("REDIS_TLS", toString s.cache.tls),
      ("REDIS_NONBLOCK", toString s.cache.nonBlock),
      ("REDIS_PING_TIMEOUT", s.cache.pingTimeout),
      ("MINIO_ENDPOINT", s.storage.endpoint),
      ("MINIO_ACCESS_KEY", s.storage.accessKey),
      ("MINIO_SECRET_KEY", s.storage.secretKey),
      ("MINIO_BUCKET", s.storage.bucket),
      ("MINIO_USE_SSL", toString useSSL),
      ("MINIO_CA_FILE", if useSSL then "/app/etc/minio-certs/public.crt" else ""),
      ("MINIO_CA_KEY", if useSSL then "/app/etc/minio-certs/private.key" else ""),
      ("MINIO_ENDPOINT_PROXY", endpointProxy),
      ("JWT_ACCESS_SECRET", s.services.jwt.accessSecret),
      ("JWT_ACCESS_EXPIRE", toString s.services.jwt.accessExpire),
      ("JWT_REFRESH_SECRET", s.services.jwt.refreshSecret),
      ("JWT_REFRESH_EXPIRE", toString s.services.jwt.refreshExpire),
      ("JWT_REFRESH_AFTER", toString s.services.jwt.refreshAfter),
      ("ALERTMANAGER_WEBHOOK_TOKEN", s.services.webhookToken)] ++
      telemetry ++ portal ++ [("INJECT_IMAGE", s.services.injectImage)]⟩ }

/-! ### The ConfigMaps -/

/-- A backend service's ConfigMap: one `config.yaml` from a template that reads nothing
from the spec. -/
def buildServiceConfigMap (name template : String) : ConfigMap :=
  { name, data := ⟨[("config.yaml", template)]⟩ }

/-- `buildPortalAPIConfigMap`. -/
def buildPortalAPIConfigMap (_kn : KubeNova) (_ns : String) : ConfigMap :=
  buildServiceConfigMap "portal-api-config" "Name: portal-api\n"

/-- `buildPortalRPCConfigMap`. -/
def buildPortalRPCConfigMap (_kn : KubeNova) (_ns : String) : ConfigMap :=
  buildServiceConfigMap "portal-rpc-config" "Name: portal.rpc\n"

/-- `buildManagerAPIConfigMap`. -/
def buildManagerAPIConfigMap (_kn : KubeNova) (_ns : String) : ConfigMap :=
  buildServiceConfigMap "manager-api-config" "Name: manager-api\n"

/-- `buildManagerRPCConfigMap`. -/
def buildManagerRPCConfigMap (_kn : KubeNova) (_ns : String) : ConfigMap :=
  buildServiceConfigMap "manager-rpc-config" "Name: manager.rpc\n"

/-- `buildWorkloadAPIConfigMap`. -/
def buildWorkloadAPIConfigMap (_kn : KubeNova) (_ns : String) : ConfigMap :=
  buildServiceConfigMap "workload-api-config" "Name: workload-api\n"

/-- `buildConsoleAPIConfigMap`. -/
def buildConsoleAPIConfigMap (_kn : KubeNova) (_ns : String) : ConfigMap :=
  buildServiceConfigMap "console-api-config" "Name: console-api\n"

/-- `buildConsoleRPCConfigMap`. -/
def buildConsoleRPCConfigMap (_kn : KubeNova) (_ns : String) : ConfigMap :=
  buildServiceConfigMap "console-rpc-config" "Name: console.rpc\n"

/-- `BuildAllConfigMaps`. -/
def buildAllConfigMaps (kn : KubeNova) (ns : String) : List ConfigMap :=
  [buildPortalAPIConfigMap kn ns, buildPortalRPCConfigMap kn ns, buildManagerAPIConfigMap kn ns,
   buildManagerRPCConfigMap kn ns, buildWorkloadAPIConfigMap kn ns, buildConsoleAPIConfigMap kn ns,
   buildConsoleRPCConfigMap kn ns]

end KubeNovaOperator
