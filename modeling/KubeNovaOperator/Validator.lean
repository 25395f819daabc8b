import KubeNovaOperator.Api.V1

/-!
# The validator (`internal/validator`)

`validateKubeNova` runs the section validators in the order of `ValidateKubeNova` and
returns the first error, prefixed with its section.  Every validator of the source is a
sequence of guards `if bad { return fmt.Errorf(msg) }`, so each is written here as
`firstError` of its guard list, with the source's messages; `firstError_eq_none_iff`
turns acceptance into "no guard fires".  Lengths are Go's byte lengths (`utf8ByteSize`).
-/

namespace KubeNovaOperator

/-- The first message whose guard fires: a run of `if cond { return errors.New(msg) }`. -/
def firstError : List (Bool × String) → Option String
  | [] => none
  | (c, msg) :: rest => if c then some msg else firstError rest

@[simp] theorem firstError_eq_none_iff (l : List (Bool × String)) :
    firstError l = none ↔ ∀ g ∈ l, g.1 = false := by
  induction l with
  | nil => simp [firstError]
  | cons g rest ih =>
    obtain ⟨c, msg⟩ := g
    cases c <;> simp [firstError, ih]

theorem firstError_nil : firstError [] = none := rfl

theorem firstError_cons_eq_none (c : Bool) (msg : String) (rest : List (Bool × String)) :
    firstError ((c, msg) :: rest) = none ↔ c = false ∧ firstError rest = none := by
  cases c <;> simp [firstError]

/-- `fmt.Errorf(prefix + "%w", err)` on a possibly nil error. -/
def wrapError (pre : String) (e : Option String) : Option String := e.map (pre ++ ·)

@[simp] theorem wrapError_eq_none_iff (pre : String) (e : Option String) :
    wrapError pre e = none ↔ e = none := Option.map_eq_none'

/-- `validateDatabase`. -/
def validateDatabase (db : DatabaseConfig) : Option String :=
  firstError
    [(db.host = "", "数据库主机地址不能为空"),
     (db.database = "", "数据库名称不能为空"),
     (db.user = "", "数据库用户名不能为空"),
     (db.password = "", "数据库密码不能为空"),
     (db.port ≤ 0 ∨ db.port > 65535, "数据库端口无效: " ++ toString db.port)]

/-- `validateCache`. -/
def validateCache (cache : CacheConfig) : Option String :=
  firstError
    [(cache.host = "", "redis 主机地址不能为空"),
     (cache.port ≤ 0 ∨ cache.port > 65535, "redis 端口无效: " ++ toString cache.port),
     (cache.type ≠ "node" ∧ cache.type ≠ "cluster",
       "redis 类型必须是 node 或 cluster，当前值: " ++ cache.type)]

/-- `ValidateMinIOTLS`. -/
def MinIOTLSConfig.validateMinIOTLS (tls : MinIOTLSConfig) : Option String :=
  firstError [(tls.enabled ∧ tls.secretName = "", "MinIO TLS 已启用但未指定证书 Secret 名称")]

/-- `validateStorage`; the TLS block is checked only when present and enabled. -/
def validateStorage (storage : StorageConfig) : Option String :=
  firstError
    [(storage.endpoint = "", "存储端点地址不能为空"),
     (storage.accessKey = "", "存储访问密钥不能为空"),
     (storage.secretKey = "", "存储密钥不能为空"),
     (storage.bucket = "", "存储桶名称不能为空")] <|>
  match storage.tls with
  | some tls =>
    if tls.enabled then wrapError "MinIO TLS 配置错误: " tls.validateMinIOTLS else none
  | none => none

/-- `ValidateTelemetryConfig`. -/
def TelemetryConfig.validateTelemetryConfig (t : TelemetryConfig) : Option String :=
  firstError [(t.enabled ∧ t.jaegerEndpoint = "", "链路追踪已启用但未配置 Jaeger 端点地址")]

/-- `validateJWT`: both secrets set and at least 32 bytes long. -/
def validateJWT (jwt : JWTConfig) : Option String :=
  firstError
    [(jwt.accessSecret = "", "访问令牌密钥不能为空"),
     (jwt.accessSecret.utf8ByteSize < 32,
       "访问令牌密钥长度至少需要 32 个字符，当前长度: " ++ toString jwt.accessSecret.utf8ByteSize),
     (jwt.refreshSecret = "", "刷新令牌密钥不能为空"),
     (jwt.refreshSecret.utf8ByteSize < 32,
       "刷新令牌密钥长度至少需要 32 个字符，当前长度: " ++ toString jwt.refreshSecret.utf8ByteSize)]

/-- `ValidateWebConfig`: the exposure mode is `ingress` (with a host, and a secret when TLS is
on) or `nodeport` (with a secret when HTTPS is on). -/
def WebConfig.validateWebConfig (w : WebConfig) : Option String :=
  if w.exposeType = "ingress" then
    match w.ingress with
    | none => some "暴露方式为 ingress 但未配置 Ingress"
    | some ing =>
      firstError
        [(ing.host = "", "ingress 配置缺少域名"),
         (w.ingressTLSEnabled ∧ (ing.tls.map IngressTLSConfig.secretName) = some "",
           "ingress TLS 已启用但未指定证书 Secret 名称")]
  else if w.exposeType = "nodeport" then
    firstError
      [(w.nodePortHTTPSEnabled ∧
          (w.nodePort.bind NodePortConfig.https).map NodePortHTTPSConfig.secretName = some "",
        "NodePort HTTPS 已启用但未指定证书 Secret 名称")]
  else some ("不支持的暴露方式: " ++ w.exposeType)

/-- `ValidateKubeNova`: the sections in source order, each error wrapped with its section. -/
def validateKubeNova (kn : KubeNova) : Option String :=
  wrapError "数据库配置错误: " (validateDatabase kn.spec.database) <|>
  wrapError "缓存配置错误: " (validateCache kn.spec.cache) <|>
  wrapError "存储配置错误: " (validateStorage kn.spec.storage) <|>
  (match kn.spec.telemetry with
   | some t =>
     if t.enabled then wrapError "链路追踪配置错误: " t.validateTelemetryConfig else none
   | none => none) <|>
  wrapError "JWT 配置错误: " (validateJWT kn.spec.services.jwt) <|>
  wrapError "web 配置错误: " kn.spec.web.validateWebConfig

/-- A backend service's settings asking for the default requests and limits, written as the
API server stores them: a CPU limit of `1`, which the default writes `1000m`. -/
def canonicalServiceConfig : ServiceConfig :=
  { resources := some { requests := some ⟨[("memory", "256Mi"), ("cpu", "200m")]⟩
                        limits := some ⟨[("memory", "512Mi"), ("cpu", "1")]⟩ } }

/-- A spec the validator accepts: every required field set, JWT secrets of 32 bytes, the
front end exposed by node port, and the seven backend services enabled, each with
`canonicalServiceConfig`. -/
def sampleSpec : KubeNovaSpec :=
  { database :=
      { host := "mysql", port := 3306, database := "kube_nova", user := "root", password := "pw" }
    cache := { host := "redis", port := 6379, type := "node" }
    storage :=
      { endpoint := "minio:9000", accessKey := "minio", secretKey := "minio123", bucket := "nova" }
    services :=
      { jwt := { accessSecret := "0123456789abcdef0123456789abcdef"
                 refreshSecret := "fedcba9876543210fedcba9876543210" }
        portalAPI := some canonicalServiceConfig, portalRPC := some canonicalServiceConfig
        managerAPI := some canonicalServiceConfig, managerRPC := some canonicalServiceConfig
        workloadAPI := some canonicalServiceConfig, consoleAPI := some canonicalServiceConfig
        consoleRPC := some canonicalServiceConfig }
    web := { exposeType := "nodeport" } }

example :
    validateKubeNova { meta := { name := "demo", «namespace» := "nova" }, spec := sampleSpec } =
      none := by decide

end KubeNovaOperator
