import KubeNovaOperator.Builder.Web
import KubeNovaOperator.Proofs.Acceptance

/-!
# The pod templates the operator builds

Every Deployment the builders produce passes the checks the API server makes on a pod
template's volumes (`DeploymentSpec.WellFormed`: distinct volume names, mounts that name a
declared volume at distinct paths), declares distinct container ports, and is reached by its
Service on a port it declares: the seven backend Deployments (`buildAllServices_wellFormed`)
and the web Deployment (`buildWebResources_wellFormed`), for every spec.

Certificates are another matter: the builders mount a TLS secret only when one is named, so a
front end serving HTTPS, or `portal-rpc` reaching MinIO over TLS, has its certificate mounted
only because the validator rejects an enabled TLS block without a secret
(`buildWebDeployment_mounts_certs`, `portalRPC_mounts_minio_certs`).
-/

namespace KubeNovaOperator

/-- The checks the API server makes on a pod template's volumes, with distinct container
ports: volume names are distinct, and in each container every mount names a declared volume
and no two mounts share a path. -/
def DeploymentSpec.WellFormed (spec : DeploymentSpec) : Prop :=
  (spec.volumes.map Volume.name).Nodup ∧
    ∀ ctr ∈ spec.containers,
      (∀ n ∈ ctr.volumeMounts.map VolumeMount.name, n ∈ spec.volumes.map Volume.name) ∧
        (ctr.volumeMounts.map VolumeMount.mountPath).Nodup ∧
        (ctr.ports.map ContainerPort.containerPort).Nodup

instance (spec : DeploymentSpec) : Decidable spec.WellFormed := by
  unfold DeploymentSpec.WellFormed; infer_instance

/-- Every port of a Service targets a port that a container of the Deployment declares. -/
def Service.Targets (svc : Service) (d : Deployment) : Prop :=
  ∀ p ∈ svc.ports, ∃ ctr ∈ d.spec.containers,
    p.targetPort ∈ ctr.ports.map ContainerPort.containerPort

/-- A root `nova/demo` with a given spec. -/
def specRoot (spec : KubeNovaSpec) : KubeNova :=
  { meta := { name := "demo", «namespace» := "nova" }, spec }

/-! ### The backend tier -/

/-- The names of a backend pod's volumes. -/
theorem getServiceVolumes_names (cfg : ServiceCfg) :
    (getServiceVolumes cfg).map Volume.name =
      ["config"] ++ (if cfg.mountsCerts then ["minio-certs"] else []) ++
        (if cfg.needCache then ["cache"] else []) := by
  unfold getServiceVolumes; split_ifs <;> rfl

theorem getServiceVolumeMounts_names (cfg : ServiceCfg) :
    (getServiceVolumeMounts cfg).map VolumeMount.name =
      ["config"] ++ (if cfg.mountsCerts then ["minio-certs"] else []) ++
        (if cfg.needCache then ["cache"] else []) := by
  unfold getServiceVolumeMounts; split_ifs <;> rfl

theorem getServiceVolumeMounts_paths (cfg : ServiceCfg) :
    (getServiceVolumeMounts cfg).map VolumeMount.mountPath =
      ["/app/etc"] ++ (if cfg.mountsCerts then ["/app/etc/minio-certs"] else []) ++
        (if cfg.needCache then ["/app/cache"] else []) := by
  unfold getServiceVolumeMounts; split_ifs <;> rfl

theorem buildService_wellFormed (kn : KubeNova) (ns : String) (cfg : ServiceCfg)
    (hp : cfg.targetPort ≠ cfg.metricsPort) :
    (buildService kn ns cfg).deployment.spec.WellFormed ∧
      (buildService kn ns cfg).service.Targets (buildService kn ns cfg).deployment := by
  refine ⟨⟨?_, ?_⟩, ?_⟩
  · simp only [buildService, buildDeployment, getServiceVolumes_names]
    cases cfg.mountsCerts <;> cases cfg.needCache <;> decide
  · simp only [buildService, buildDeployment, List.mem_singleton, forall_eq,
      getServiceVolumes_names, getServiceVolumeMounts_names, getServiceVolumeMounts_paths]
    refine ⟨?_, ?_, by simpa using hp⟩ <;> cases cfg.mountsCerts <;> cases cfg.needCache <;> decide
  · simp [Service.Targets, buildService, buildK8sService, buildDeployment]

/-- A backend container mounts each volume once. -/
theorem buildService_mountNames_nodup (kn : KubeNova) (ns : String) (cfg : ServiceCfg) :
    ∀ c ∈ (buildService kn ns cfg).deployment.spec.containers.head?,
      (c.volumeMounts.map VolumeMount.name).Nodup := by
  simp only [buildService, buildDeployment, List.head?_cons, Option.mem_def, Option.some.injEq,
    forall_eq', getServiceVolumeMounts_names]
  cases cfg.mountsCerts <;> cases cfg.needCache <;> decide

theorem backendConfigs_ports (kn : KubeNova) :
    ∀ cfg ∈ backendConfigs kn, cfg.targetPort ≠ cfg.metricsPort := by
  simp [backendConfigs]

theorem mem_buildAllServices {kn : KubeNova} {ns : String} {e : String × ServiceResources}
    (h : e ∈ (buildAllServices kn ns).entries) :
    ∃ cfg ∈ backendConfigs kn, e = (cfg.name, buildService kn ns cfg) := by
  suffices ∀ (l : List ServiceCfg) (init : GoMap String ServiceResources),
      e ∈ (l.foldl (fun services cfg =>
        if ServiceConfig.isServiceEnabled cfg.serviceConfig then
          services.insert cfg.name (buildService kn ns cfg)
        else services) init).entries →
      e ∈ init.entries ∨ ∃ cfg ∈ l, e = (cfg.name, buildService kn ns cfg) by
    simpa [GoMap.empty] using this _ _ h
  intro l
  induction l with
  | nil => exact fun _ h => .inl h
  | cons cfg rest ih =>
    intro init h
    rcases ih _ h with h | ⟨c, hc, rfl⟩
    · dsimp only at h
      split at h
      · rcases List.mem_cons.1 h with rfl | h
        · exact .inr ⟨cfg, .head _, rfl⟩
        · exact .inl h
      · exact .inl h
    · exact .inr ⟨c, .tail _ hc, rfl⟩

/-- **Every backend Deployment the operator builds is a well-formed pod template, under the
service's own name, and its Service targets a port it declares.** -/
theorem buildAllServices_wellFormed (kn : KubeNova) (ns : String) :
    ∀ e ∈ (buildAllServices kn ns).entries,
      e.2.deployment.spec.WellFormed ∧ e.2.service.Targets e.2.deployment ∧
        e.2.deployment.name = e.1 ∧ e.2.service.name = e.1 := by
  intro e he
  obtain ⟨cfg, hcfg, rfl⟩ := mem_buildAllServices he
  exact ⟨(buildService_wellFormed kn ns cfg (backendConfigs_ports kn cfg hcfg)).1,
    (buildService_wellFormed kn ns cfg (backendConfigs_ports kn cfg hcfg)).2, rfl, rfl⟩

/-- The newest entry of `BuildAllServices` for `sampleSpec`. -/
def sampleBackend : String × ServiceResources :=
  (buildAllServices (specRoot sampleSpec) "nova").entries.get ⟨0, by decide⟩

theorem buildAllServices_wellFormed_sampleBackend :
    sampleBackend ∈ (buildAllServices (specRoot sampleSpec) "nova").entries ∧
      (sampleBackend.2.deployment.spec.WellFormed ∧
        sampleBackend.2.service.Targets sampleBackend.2.deployment ∧
        sampleBackend.2.deployment.name = sampleBackend.1 ∧
        sampleBackend.2.service.name = sampleBackend.1) :=
  have h : sampleBackend ∈ (buildAllServices (specRoot sampleSpec) "nova").entries :=
    List.get_mem _ _ _
  ⟨h, buildAllServices_wellFormed _ _ _ h⟩

/-! ### The web tier -/

theorem getWebVolumes_names (kn : KubeNova) (ns : String) :
    (getWebVolumes kn ns).map Volume.name =
      ["nginx-config", "cache", "logs", "run"] ++
        (if kn.spec.web.mountsCerts then ["tls-certs"] else []) := by
  unfold getWebVolumes; dsimp only; split_ifs <;> rfl

theorem getWebVolumeMounts_names (kn : KubeNova) :
    (getWebVolumeMounts kn).map VolumeMount.name =
      ["cache", "logs", "run", "nginx-config", "nginx-config"] ++
        (if kn.spec.web.mountsCerts then ["tls-certs"] else []) := by
  unfold getWebVolumeMounts; split_ifs <;> rfl

theorem getWebVolumeMounts_paths (kn : KubeNova) :
    (getWebVolumeMounts kn).map VolumeMount.mountPath =
      ["/var/cache/nginx", "/var/log/nginx", "/var/run", "/etc/nginx/nginx.conf",
        "/etc/nginx/conf.d/default.conf"] ++
        (if kn.spec.web.mountsCerts then ["/etc/nginx/certs"] else []) := by
  unfold getWebVolumeMounts; split_ifs <;> rfl

theorem getWebPorts_ports (kn : KubeNova) :
    (getWebPorts kn).map ContainerPort.containerPort =
      [80] ++ (if kn.spec.web.servesHTTPS then [443] else []) := by
  unfold getWebPorts; split_ifs <;> rfl

/-- The Service's target ports: HTTP, and HTTPS exactly when the front end serves it. -/
theorem buildWebService_targetPorts (kn : KubeNova) (ns : String) :
    (buildWebService kn ns).ports.map ServicePort.targetPort =
      [80] ++ (if kn.spec.web.servesHTTPS then [443] else []) := by
  unfold buildWebService WebConfig.servesHTTPS WebConfig.nodePortHTTPSEnabled
  dsimp only
  by_cases hi : kn.spec.web.exposeType = "ingress"
  · simp [hi]
  by_cases hn : kn.spec.web.exposeType = "nodeport"
  · rcases kn.spec.web.nodePort.bind NodePortConfig.https with _ | ⟨_ | _, _, _⟩ <;>
      simp only [hn, String.reduceEq, if_false, if_true, beq_self_eq_true, Bool.true_and] <;>
      split_ifs <;> first | rfl | contradiction
  · simp [hi, hn]

/-- **The web Deployment is a well-formed pod template, and its Service targets ports it
declares**, HTTPS exactly when the container declares 443. -/
theorem buildWebResources_wellFormed (kn : KubeNova) (ns : String) :
    (buildWebResources kn ns).deployment.spec.WellFormed ∧
      (buildWebResources kn ns).service.Targets (buildWebResources kn ns).deployment ∧
      ∀ ctr ∈ (buildWebResources kn ns).deployment.spec.containers,
        (443 ∈ (buildWebResources kn ns).service.ports.map ServicePort.targetPort ↔
          443 ∈ ctr.ports.map ContainerPort.containerPort) := by
  refine ⟨⟨?_, ?_⟩, fun p hp => ⟨_, List.mem_singleton_self _, ?_⟩, fun ctr hctr => ?_⟩
  · simp only [buildWebResources, buildWebDeployment, getWebVolumes_names]
    cases kn.spec.web.mountsCerts <;> decide
  · simp only [buildWebResources, buildWebDeployment, List.mem_singleton, forall_eq,
      getWebVolumes_names, getWebVolumeMounts_names, getWebVolumeMounts_paths, getWebPorts_ports]
    cases kn.spec.web.mountsCerts <;> cases kn.spec.web.servesHTTPS <;> decide
  · rw [getWebPorts_ports, ← buildWebService_targetPorts kn ns]
    exact List.mem_map_of_mem _ hp
  · rw [List.mem_singleton.1 hctr, getWebPorts_ports, ← buildWebService_targetPorts kn ns]
    rfl

/-! ### Certificates of an accepted spec -/

theorem WebConfig.mountsCerts_of_valid {w : WebConfig} (hw : w.Valid) (hs : w.servesHTTPS) :
    w.mountsCerts := by
  unfold WebConfig.mountsCerts
  rw [hs, Bool.true_and]
  rcases hw with ⟨hi, -⟩ | ⟨-, hn⟩
  · simp [WebConfig.servesHTTPS, hi] at hs
  · unfold WebConfig.servesHTTPS WebConfig.nodePortHTTPSEnabled at hs
    rcases h : w.nodePort.bind NodePortConfig.https with _ | https
    · simp [h] at hs
    · simp only [h, Bool.and_eq_true] at hs hn
      simpa using hn https rfl hs.2

/-- The web container mounts the certificate exactly when `getWebVolumeMounts` is told to. -/
theorem certMount_mem_getWebVolumeMounts (kn : KubeNova) :
    { name := "tls-certs", mountPath := "/etc/nginx/certs", readOnly := true } ∈
      getWebVolumeMounts kn ↔ kn.spec.web.mountsCerts := by
  unfold getWebVolumeMounts; split <;> simp_all

/-- **A front end that serves HTTPS mounts its certificate exactly when its HTTPS block names a
secret**, and so always for a spec the validator accepts.  Without the validator, HTTPS on
with no secret named builds an nginx that has no certificate to serve. -/
theorem buildWebDeployment_mounts_certs (kn : KubeNova) (ns : String)
    (hs : kn.spec.web.servesHTTPS) :
    ∀ ctr ∈ (buildWebDeployment kn ns).spec.containers,
      ({ name := "tls-certs", mountPath := "/etc/nginx/certs", readOnly := true } ∈
          ctr.volumeMounts ↔
        ((kn.spec.web.nodePort.bind NodePortConfig.https).map
          NodePortHTTPSConfig.secretName).getD "" ≠ "") ∧
      (validateKubeNova kn = none →
        { name := "tls-certs", mountPath := "/etc/nginx/certs", readOnly := true } ∈
          ctr.volumeMounts) := by
  intro ctr hctr
  rw [List.mem_singleton.1 hctr]
  refine ⟨(certMount_mem_getWebVolumeMounts kn).trans ?_, fun hv => ?_⟩
  · simp [WebConfig.mountsCerts, hs]
  · exact (certMount_mem_getWebVolumeMounts kn).2 (WebConfig.mountsCerts_of_valid
      ((validateKubeNova_eq_none_iff kn).1 hv).2.2.2.2.2 hs)

/-- `sampleSpec` serving HTTPS on its node port with the certificate `web-tls`. -/
def httpsRoot : KubeNova :=
  specRoot { sampleSpec with web :=
    { exposeType := "nodeport"
      nodePort := some { https := some { enabled := true, secretName := "web-tls" } } } }

/-- A node-port front end with HTTPS on and no secret named. -/
def httpsNoSecretRoot : KubeNova :=
  specRoot { sampleSpec with web :=
    { exposeType := "nodeport", nodePort := some { https := some { enabled := true } } } }

/-- The certificate is mounted for the accepted `httpsRoot`, and not for `httpsNoSecretRoot`,
which the validator rejects. -/
theorem buildWebDeployment_mounts_certs_httpsRoot :
    httpsRoot.spec.web.servesHTTPS ∧ validateKubeNova httpsRoot = none ∧
      (∀ ctr ∈ (buildWebDeployment httpsRoot "nova").spec.containers,
        { name := "tls-certs", mountPath := "/etc/nginx/certs", readOnly := true } ∈
          ctr.volumeMounts) ∧
      httpsNoSecretRoot.spec.web.servesHTTPS ∧ validateKubeNova httpsNoSecretRoot ≠ none ∧
      ∀ ctr ∈ (buildWebDeployment httpsNoSecretRoot "nova").spec.containers,
        { name := "tls-certs", mountPath := "/etc/nginx/certs", readOnly := true } ∉
          ctr.volumeMounts :=
  have hv : validateKubeNova httpsRoot = none := by decide
  ⟨rfl, hv, fun ctr h => (buildWebDeployment_mounts_certs httpsRoot "nova" rfl ctr h).2 hv, rfl,
    by decide, fun ctr h hm =>
      (buildWebDeployment_mounts_certs httpsNoSecretRoot "nova" rfl ctr h).1.1 hm (by decide)⟩

/-- **For a spec the validator accepts with MinIO TLS on, `portal-rpc` mounts the MinIO
certificates.** -/
theorem portalRPC_mounts_minio_certs (kn : KubeNova) (ns : String)
    (hv : validateKubeNova kn = none) (ht : kn.spec.storage.tlsEnabled) (r : ServiceResources)
    (hr : (buildAllServices kn ns).get? "portal-rpc" = some r) :
    ∀ ctr ∈ r.deployment.spec.containers,
      { name := "minio-certs", mountPath := "/app/etc/minio-certs", readOnly := true } ∈
        ctr.volumeMounts := by
  obtain ⟨cfg, hcfg, he⟩ := mem_buildAllServices (GoMap.mem_entries_of_get? hr)
  obtain ⟨hn, rfl⟩ := Prod.mk.inj he
  have hs := ((validateKubeNova_eq_none_iff kn).1 hv).2.2.1.2.2.2.2
  simp only [backendConfigs, List.mem_cons, List.mem_singleton, List.not_mem_nil, or_false] at hcfg
  rcases hcfg with rfl | rfl | rfl | rfl | rfl | rfl | rfl <;> simp at hn
  unfold StorageConfig.tlsEnabled at ht
  rcases h : kn.spec.storage.tls with _ | ⟨_ | _, secretName⟩ <;>
    simp only [h, Bool.false_eq_true] at ht hs
  have hsec : secretName ≠ "" := hs _ rfl rfl
  simp [buildService, buildDeployment, getServiceVolumeMounts, ServiceCfg.mountsCerts,
    StorageConfig.tlsEnabled, h, hsec]

/-- `sampleSpec` reaching MinIO over TLS with the certificate `minio-tls`. -/
def minioTLSRoot : KubeNova :=
  specRoot { sampleSpec with storage :=
    { sampleSpec.storage with tls := some { enabled := true, secretName := "minio-tls" } } }

theorem portalRPC_mounts_minio_certs_minioTLSRoot :
    validateKubeNova minioTLSRoot = none ∧ minioTLSRoot.spec.storage.tlsEnabled ∧
      ∀ ctr ∈ (((buildAllServices minioTLSRoot "nova").get? "portal-rpc").get
          (by decide)).deployment.spec.containers,
        { name := "minio-certs", mountPath := "/app/etc/minio-certs", readOnly := true } ∈
          ctr.volumeMounts :=
  have hv : validateKubeNova minioTLSRoot = none := by decide
  ⟨hv, rfl, portalRPC_mounts_minio_certs _ _ hv rfl _ (Option.some_get _).symm⟩

end KubeNovaOperator
