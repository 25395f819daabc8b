import KubeNovaOperator.Proofs.Convergence

/-!
# The data stages

Stages 4 and 5 write documents: `reconcileSecret` the Secret `kube-nova-secret`, and
`reconcileConfigMaps` the seven service ConfigMaps, each through `ensureData`, which creates
the document when it is missing and replaces its data when it differs.

* `ensureData_run_quiet`: undisturbed, one such step stores its document with the desired data
  and leaves every other key of its kind alone; `ensureData_run_quiet_of_equiv`: a step whose
  document is already stored with that data writes nothing.
* `reconcileConfigMaps_run_quiet_twice`: undisturbed, the ConfigMap stage succeeds, and run
  again on what it left it writes nothing.  The seven ConfigMaps have distinct names
  (`buildAllConfigMaps_names`), so no step undoes another's.
* `reconcileSecret_https_proxy_uses_http_port`: the Secret is built before the web tier, and
  while the web Service is missing `getWebNodePort` falls back to the configured HTTP port.  A
  front end serving HTTPS on its node port then hands the backends a MinIO address with the
  scheme `https` and that HTTP port (`proxyNodePortRoot`: `https://<NODE_IP>:30080/storage`,
  while the web Service serves HTTPS on 30443).
-/

namespace KubeNovaOperator

variable {c : Cluster}

/-! ### One data step -/

section Data

variable {α : Type} (k : Kind α) (key : ObjKey) (obj : α) (data : α → GoMap String String)
  (setData : α → GoMap String String → α) (createMsg getMsg updateMsg : String)

/-- Undisturbed, a data step reports no error and stores under its key an object with the
desired data, leaving the schedule empty and every other key of its kind alone, for a kind
the API server stores with its data as written. -/
theorem ensureData_run_quiet (hq : c.ticks = []) (hset : ∀ a d, data (setData a d) = d)
    (hstored : ∀ a, data (k.stored a) = data a) :
    ((ensureData k key obj data setData createMsg getMsg updateMsg).run c).1 = none ∧
      ((ensureData k key obj data setData createMsg getMsg updateMsg).run c).2.ticks = [] ∧
      (∃ a, (k.objects ((ensureData k key obj data setData createMsg getMsg updateMsg).run
          c).2.store).get? key = some a ∧ (data a).Equiv (data obj)) ∧
      ∀ key', key' ≠ key →
        (k.objects ((ensureData k key obj data setData createMsg getMsg updateMsg).run
          c).2.store).get? key' = (k.objects c.store).get? key' := by
  simp only [ensureData, Client.run_bind, getObject_run_quiet hq]
  cases h : (k.objects c.store).get? key with
  | none =>
    simp only [Option.elim, Client.run_bind, createObject_run_quiet hq, h, Option.isSome_none,
      Bool.false_eq_true, if_false, Client.run_pure, k.objects_setObjects, GoMap.get?_insert,
      if_true]
    exact ⟨trivial, hq, ⟨_, rfl, hstored obj ▸ GoMap.Equiv.refl _⟩, fun key' hk => by simp [hk]⟩
  | some a =>
    simp only [Option.elim]
    split
    · exact ⟨rfl, hq, ⟨a, h, (GoMap.deepEqual_iff _ _).1 ‹_›⟩, fun _ _ => rfl⟩
    · simp only [Client.run_bind, updateObject_run_quiet hq, h, Option.isSome_some, if_true,
        Client.run_pure,
        k.objects_setObjects, GoMap.get?_insert]
      exact ⟨trivial, hq, ⟨_, rfl, by rw [hstored, hset]; exact GoMap.Equiv.refl _⟩,
        fun key' hk => by simp [hk]⟩

/-- A data step whose object is stored with the desired data writes nothing. -/
theorem ensureData_run_quiet_of_equiv (hq : c.ticks = []) {a : α}
    (h : (k.objects c.store).get? key = some a) (he : (data a).Equiv (data obj)) :
    (ensureData k key obj data setData createMsg getMsg updateMsg).run c = (none, c) := by
  simp only [ensureData, Client.run_bind, getObject_run_quiet hq, h, Option.elim,
    (GoMap.deepEqual_iff _ _).2 he, if_true]
  rfl

end Data

/-! ### The ConfigMaps -/

/-- Undisturbed, the ConfigMap steps over ConfigMaps of distinct names report no error and
store every ConfigMap with its desired data, leaving every other ConfigMap alone. -/
theorem runSteps_configMaps_run_quiet (ns : String) (createMsg updateMsg : String → String)
    (getMsg : String) (l : List ConfigMap) (hnd : (l.map ConfigMap.name).Nodup)
    (hq : c.ticks = []) :
    let steps := l.map fun cm => ensureData Kind.configMap ⟨ns, cm.name⟩ cm ConfigMap.data
      (fun c d => { c with data := d }) (createMsg cm.name) getMsg (updateMsg cm.name)
    ((runSteps steps).run c).1 = none ∧ ((runSteps steps).run c).2.ticks = [] ∧
      (∀ cm ∈ l, ∃ a, ((runSteps steps).run c).2.store.configMaps.get? ⟨ns, cm.name⟩ = some a ∧
        a.data.Equiv cm.data) ∧
      ∀ key, (∀ cm ∈ l, key ≠ ⟨ns, cm.name⟩) →
        ((runSteps steps).run c).2.store.configMaps.get? key = c.store.configMaps.get? key := by
  intro steps
  induction l generalizing c with
  | nil => exact ⟨rfl, hq, by simp, fun _ _ => rfl⟩
  | cons cm rest ih =>
    obtain ⟨e₁, t₁, ⟨a, ha, hae⟩, f₁⟩ := ensureData_run_quiet (c := c) Kind.configMap
      ⟨ns, cm.name⟩ cm ConfigMap.data (fun c d => { c with data := d }) (createMsg cm.name) getMsg
      (updateMsg cm.name) hq (fun _ _ => rfl) fun _ => rfl
    obtain ⟨hnd₁, hnd₂⟩ := List.nodup_cons.1 hnd
    obtain ⟨e₂, t₂, s₂, f₂⟩ := ih hnd₂ t₁
    simp only [steps, List.map_cons, runSteps_cons_run_of_none e₁]
    refine ⟨e₂, t₂, fun cm' hcm' => ?_, fun key hkey => ?_⟩
    · rcases List.mem_cons.1 hcm' with rfl | hcm'
      · refine ⟨a, ?_, hae⟩
        rw [f₂ _ fun c hc h => hnd₁ (List.mem_map.2 ⟨c, hc, (ObjKey.mk.inj h).2.symm⟩)]
        exact ha
      · exact s₂ cm' hcm'
    · rw [f₂ key fun c hc => hkey c (.tail _ hc)]
      exact f₁ key (hkey cm (.head _))

theorem buildAllConfigMaps_names (kn : KubeNova) (ns : String) :
    ((buildAllConfigMaps kn ns).map ConfigMap.name).Nodup := by
  simp only [buildAllConfigMaps, buildPortalAPIConfigMap, buildPortalRPCConfigMap,
    buildManagerAPIConfigMap, buildManagerRPCConfigMap, buildWorkloadAPIConfigMap,
    buildConsoleAPIConfigMap, buildConsoleRPCConfigMap, buildServiceConfigMap, List.map]
  decide

/-- Undisturbed, without a web Service to read, the web node port is the configured HTTP
port, or 30080. -/
theorem getWebNodePort_run_quiet_of_absent (hq : c.ticks = []) (kn : KubeNova) (ns : String)
    (hnp : kn.spec.web.exposeType = "nodeport")
    (hsvc : c.store.services.get? ⟨ns, "kube-nova-web"⟩ = none) :
    (getWebNodePort kn ns).run c =
      ((match kn.spec.web.nodePort with
        | some np => if np.httpPort > 0 then np.httpPort else 30080
        | none => 30080), c) := by
  unfold getWebNodePort
  simp only [hnp, ne_eq, not_true_eq_false, if_false, Client.run_bind, getObject_run_quiet hq]
  simp only [Kind.service, hsvc, Option.elim]
  rfl

/-- The MinIO address the Secret hands the backends. -/
theorem buildSecret_minioEndpointProxy (kn : KubeNova) (ns nodeIP : String) (nodePort : Int) :
    (buildSecret kn ns nodeIP nodePort).data.get? "MINIO_ENDPOINT_PROXY" =
      some (if kn.spec.storage.endpointProxy ≠ "" then kn.spec.storage.endpointProxy
        else if kn.isMinIOProxyEnabled then
          kn.getMinIOEndpointForBackendWithNodeInfo nodeIP nodePort
        else (if kn.spec.storage.tlsEnabled then "https" else "http") ++ "://" ++
          kn.spec.storage.endpoint) := by
  rfl

/-- In node-port mode with HTTPS on, an enabled proxy without an explicit endpoint points
the backends at the node with the scheme `https` and the port it is given. -/
theorem getMinIOEndpointForBackendWithNodeInfo_nodePort_https (kn : KubeNova) (nodeIP : String)
    (nodePort : Int) (p : MinIOProxyConfig) (hnp : kn.spec.web.exposeType = "nodeport")
    (hhttps : kn.spec.web.nodePortHTTPSEnabled) (hp : kn.spec.web.minioProxy = some p)
    (hpe : p.enabled) (hpx : p.proxyEndpoint = "") (h0 : nodePort ≠ 0) :
    kn.getMinIOEndpointForBackendWithNodeInfo nodeIP nodePort =
      "https://" ++ (if nodeIP = "" then "<NODE_IP>" else nodeIP) ++ ":" ++ toString nodePort ++
        "/" ++ dropLeadingSlash kn.getMinIOProxyPath := by
  simp only [KubeNova.getMinIOEndpointForBackendWithNodeInfo, hp, hpe, hpx, hnp, hhttps, h0]
  simp

/-- **Before the web Service exists, a front end serving HTTPS on its node port gets a MinIO
proxy address with the `https` scheme and the HTTP node port**: undisturbed, the Secret
stage stores `https://<node>:<HTTP port or 30080>/<path>`. -/
theorem reconcileSecret_https_proxy_uses_http_port (kn : KubeNova) (c : Cluster)
    (p : MinIOProxyConfig) (hq : c.ticks = []) (hnp : kn.spec.web.exposeType = "nodeport")
    (hhttps : kn.spec.web.nodePortHTTPSEnabled) (hp : kn.spec.web.minioProxy = some p)
    (hpe : p.enabled) (hpx : p.proxyEndpoint = "") (hep : kn.spec.storage.endpointProxy = "")
    (hsvc : c.store.services.get? ⟨kn.meta.namespace, "kube-nova-web"⟩ = none) :
    ∃ s, ((reconcileSecret kn).run c).2.store.secrets.get?
        ⟨kn.meta.namespace, "kube-nova-secret"⟩ = some s ∧
      s.data.get? "MINIO_ENDPOINT_PROXY" =
        some ("https://" ++
          (if nodeIPOf c.store.nodes = "" then "<NODE_IP>" else nodeIPOf c.store.nodes) ++ ":" ++
          toString (match kn.spec.web.nodePort with
            | some np => if np.httpPort > 0 then np.httpPort else 30080
            | none => 30080) ++
          "/" ++ dropLeadingSlash kn.getMinIOProxyPath) := by
  simp only [reconcileSecret, Client.run_bind, getNodeIP_run_quiet hq,
    getWebNodePort_run_quiet_of_absent hq kn _ hnp hsvc]
  obtain ⟨-, -, ⟨s, hs, hse⟩, -⟩ := ensureData_run_quiet (c := c) Kind.secret _ _ Secret.data
    (fun s d => { s with data := d }) "创建 Secret 失败: " "获取 Secret 失败: " "更新 Secret 失败: "
    hq (fun _ _ => rfl) fun _ => rfl
  refine ⟨s, hs, ?_⟩
  have hport : (match kn.spec.web.nodePort with
      | some np => if np.httpPort > 0 then np.httpPort else 30080
      | none => (30080 : Int)) ≠ 0 := by
    split
    · split <;> omega
    · decide
  rw [hse, buildSecret_minioEndpointProxy, KubeNova.isMinIOProxyEnabled, hp,
    getMinIOEndpointForBackendWithNodeInfo_nodePort_https kn _ _ p hnp hhttps hp hpe hpx hport]
  simp [hep, hpe]

/-- The default proxy path loses its leading slash (`String.startsWith` is evaluated by
unfolding its loop once per character of the prefix). -/
theorem dropLeadingSlash_storage : dropLeadingSlash "/storage" = "storage" := by
  have h : "/storage".startsWith "/" = String.substrEq.loop "/storage" "/" 0 0 ⟨1⟩ := rfl
  rw [dropLeadingSlash, h, String.substrEq.loop, dif_pos (by decide)]
  dsimp only
  rw [String.substrEq.loop, dif_neg (by decide)]
  decide

/-- `sampleRoot` served on node ports 30080 and 30443, HTTPS on, with the MinIO proxy on. -/
def proxyNodePortRoot : KubeNova :=
  { sampleRoot with spec := { sampleSpec with web :=
    { exposeType := "nodeport"
      nodePort := some
        { httpPort := 30080
          https := some { enabled := true, port := 30443, secretName := "web-tls" } }
      minioProxy := some { enabled := true } } } }

/-- The store before the first pass over `proxyNodePortRoot`. -/
def proxyNodePortCluster : Cluster :=
  { store := { kubeNovas := GoMap.empty.insert proxyNodePortRoot.key proxyNodePortRoot
               namespaces := ["nova"] } }

theorem reconcileSecret_https_proxy_uses_http_port_proxyNodePortRoot :
    validateKubeNova proxyNodePortRoot = none ∧
      (buildWebService proxyNodePortRoot "nova").ports.map ServicePort.nodePort = [30080, 30443] ∧
      ∃ s, ((reconcileSecret proxyNodePortRoot).run proxyNodePortCluster).2.store.secrets.get?
          ⟨"nova", "kube-nova-secret"⟩ = some s ∧
        s.data.get? "MINIO_ENDPOINT_PROXY" = some "https://<NODE_IP>:30080/storage" :=
  have ⟨s, hs, he⟩ := reconcileSecret_https_proxy_uses_http_port proxyNodePortRoot
    proxyNodePortCluster ⟨true, "", ""⟩ rfl rfl rfl rfl rfl rfl rfl rfl
  ⟨by decide, by decide, s, hs, he.trans (by
    rw [show proxyNodePortRoot.getMinIOProxyPath = "/storage" from rfl, dropLeadingSlash_storage]
    decide)⟩

end KubeNovaOperator
