import KubeNovaOperator.Validator

/-!
# What the validator accepts

`validateKubeNova` accepts a root exactly when every section of its spec is well formed
(`validateKubeNova_eq_none_iff`): the required strings set, both ports in `1..65535`, a known
cache type, signing secrets of at least 32 bytes, a secret named wherever TLS is enabled, and
the front end exposed by an ingress with a host or by node port.  The guards' order decides
only which message a rejected spec gets, and the emptiness checks of the JWT secrets are
subsumed by their length checks.
-/

namespace KubeNovaOperator

/-- A well-formed database section: every field set and a port in `1..65535`. -/
def DatabaseConfig.Valid (db : DatabaseConfig) : Prop :=
  db.host ≠ "" ∧ db.database ≠ "" ∧ db.user ≠ "" ∧ db.password ≠ "" ∧ 0 < db.port ∧
    db.port ≤ 65535

/-- A well-formed cache section: a host, a port in `1..65535`, and a known type. -/
def CacheConfig.Valid (cache : CacheConfig) : Prop :=
  cache.host ≠ "" ∧ 0 < cache.port ∧ cache.port ≤ 65535 ∧
    (cache.type = "node" ∨ cache.type = "cluster")

/-- A well-formed storage section: every field set, and a secret named when TLS is on. -/
def StorageConfig.Valid (s : StorageConfig) : Prop :=
  s.endpoint ≠ "" ∧ s.accessKey ≠ "" ∧ s.secretKey ≠ "" ∧ s.bucket ≠ "" ∧
    ∀ tls ∈ s.tls, tls.enabled → tls.secretName ≠ ""

/-- Enabled tracing names its collector. -/
def TelemetryConfig.Valid (t : TelemetryConfig) : Prop := t.enabled → t.jaegerEndpoint ≠ ""

/-- Both signing secrets have at least 32 bytes. -/
def JWTConfig.Valid (jwt : JWTConfig) : Prop :=
  32 ≤ jwt.accessSecret.utf8ByteSize ∧ 32 ≤ jwt.refreshSecret.utf8ByteSize

/-- The front end is exposed by an ingress with a host, or by node port; a secret is named
wherever TLS is on. -/
def WebConfig.Valid (w : WebConfig) : Prop :=
  (w.exposeType = "ingress" ∧
      ∃ ing ∈ w.ingress, ing.host ≠ "" ∧ ∀ tls ∈ ing.tls, tls.enabled → tls.secretName ≠ "") ∨
    (w.exposeType = "nodeport" ∧
      ∀ https ∈ w.nodePort.bind NodePortConfig.https, https.enabled → https.secretName ≠ "")

/-- A spec whose every section is well formed. -/
def KubeNovaSpec.Valid (spec : KubeNovaSpec) : Prop :=
  spec.database.Valid ∧ spec.cache.Valid ∧ spec.storage.Valid ∧
    (∀ t ∈ spec.telemetry, t.Valid) ∧ spec.services.jwt.Valid ∧ spec.web.Valid

theorem validateDatabase_eq_none_iff (db : DatabaseConfig) :
    validateDatabase db = none ↔ db.Valid := by
  simp only [validateDatabase, DatabaseConfig.Valid, firstError_cons_eq_none, firstError_nil,
    decide_eq_false_iff_not, not_or, Int.not_le, Int.not_lt, gt_iff_lt, and_true, ne_eq]

theorem validateCache_eq_none_iff (cache : CacheConfig) :
    validateCache cache = none ↔ cache.Valid := by
  simp only [validateCache, CacheConfig.Valid, firstError_cons_eq_none, firstError_nil,
    decide_eq_false_iff_not, not_or, Int.not_le, Int.not_lt, gt_iff_lt, and_true, ne_eq,
    not_and_or, and_assoc,
    not_not]

theorem validateStorage_eq_none_iff (s : StorageConfig) :
    validateStorage s = none ↔ s.Valid := by
  simp only [validateStorage, StorageConfig.Valid, Option.orElse_eq_none, firstError_cons_eq_none,
    firstError_nil, decide_eq_false_iff_not, and_true, ne_eq, and_assoc]
  rcases s.tls with _ | ⟨_ | _, secretName⟩ <;>
    simp [MinIOTLSConfig.validateMinIOTLS, wrapError]

theorem ne_empty_of_utf8ByteSize_pos {s : String} (h : 0 < s.utf8ByteSize) : s ≠ "" := by
  rintro rfl; exact absurd h (by decide)

theorem validateJWT_eq_none_iff (jwt : JWTConfig) : validateJWT jwt = none ↔ jwt.Valid := by
  simp only [validateJWT, JWTConfig.Valid, firstError_cons_eq_none, firstError_nil,
    decide_eq_false_iff_not, not_lt, and_true]
  constructor
  · exact fun ⟨_, ha, _, hr⟩ => ⟨ha, hr⟩
  · exact fun ⟨ha, hr⟩ => ⟨ne_empty_of_utf8ByteSize_pos (by omega), ha,
      ne_empty_of_utf8ByteSize_pos (by omega), hr⟩

theorem validateWebConfig_eq_none_iff (w : WebConfig) :
    w.validateWebConfig = none ↔ w.Valid := by
  unfold WebConfig.validateWebConfig WebConfig.Valid WebConfig.ingressTLSEnabled
    WebConfig.nodePortHTTPSEnabled
  split_ifs with hi hn
  · rcases w.ingress with _ | ⟨_, host, _ | ⟨_ | _, secretName⟩, _⟩ <;> simp [hi]
  · rcases w.nodePort.bind NodePortConfig.https with _ | ⟨_ | _, _, secretName⟩ <;> simp [hi, hn]
  · simp [hi, hn]

/-- **The validator accepts a root exactly when every section of its spec is well formed.** -/
theorem validateKubeNova_eq_none_iff (kn : KubeNova) :
    validateKubeNova kn = none ↔ kn.spec.Valid := by
  simp only [validateKubeNova, KubeNovaSpec.Valid, Option.orElse_eq_none, wrapError_eq_none_iff,
    validateDatabase_eq_none_iff, validateCache_eq_none_iff, validateStorage_eq_none_iff,
    validateJWT_eq_none_iff, validateWebConfig_eq_none_iff]
  rcases kn.spec.telemetry with _ | ⟨_ | _, jaegerEndpoint, _, _⟩ <;>
    simp [TelemetryConfig.validateTelemetryConfig, TelemetryConfig.Valid, wrapError]

instance (spec : KubeNovaSpec) : Decidable spec.Valid := by
  unfold KubeNovaSpec.Valid DatabaseConfig.Valid CacheConfig.Valid StorageConfig.Valid
    TelemetryConfig.Valid JWTConfig.Valid WebConfig.Valid
  infer_instance

example : sampleSpec.Valid := by decide

end KubeNovaOperator
