import KubeNovaOperator.Proofs.WebStage
import KubeNovaOperator.Proofs.ServiceStage

/-!
# Stages 1–7 from the second pass on

`runStages_later_passes_update_web_only`: for a valid root outside node-port mode whose
namespace exists, every undisturbed pass of stages 1–7 after the first reports no error and
writes one object, the web Deployment.  The proof follows the passes:

* `runStages_run_quiet_settles`: the first pass, from any store, leaves `StagesSettled` with
  the node port stage 4 read: each stage settles its own objects (`runStages_run_quiet_secret`,
  `reconcileConfigMaps_run_quiet_settles`, `reconcileServices_run_quiet_settles`,
  `reconcileWeb_run_quiet_nginx`), and the later stages leave them alone (`Keeps`), since
  they write other kinds or other names (`buildAllServices_names_ne_web`,
  `buildAllConfigMaps_name_ne_nginx`);
* `runStages_run_of_settled`: a pass over a store settled with the node port stage 4 reads
  writes nothing in stages 3–6 and only the `Update` of the web Deployment in stage 7
  (`reconcileWeb_run_quiet_of_stored`);
* `StagesSettled.insert_web`: that write keeps the store settled, and what stage 4 reads, so by
  induction every later pass does the same (`stagesPasses_settled`).

In node-port mode the Secret is built from the web Service's node port, which the first pass
reads before it creates the Service (`reconcileSecret_https_proxy_uses_http_port`).  With
HTTPS on, the second pass reads the HTTPS node port off the Service the first pass created, so
the Secret it stores is built with another port
(`runStages_second_pass_moves_secret_to_https_port`).  No pass changes a stored web Service
(`runStages_run_quiet_web_service`), so from the third pass on the stages write the web
Deployment only, in every mode (`runStages_passes_from_third_update_web_only`).
-/

namespace KubeNovaOperator

variable {c : Cluster}

/-! ### What each stage leaves alone -/

section StageKeeps

variable {γ : Type} {f : Store → γ} (kn : KubeNova)

theorem getNamespace_keeps (name : String) : Keeps f (getNamespace name) := fun c hq => by
  rw [getNamespace_run_quiet hq]
  exact ⟨rfl, hq⟩

/-- Stage 2 only reads. -/
theorem reconcileNamespace_keeps : Keeps f (reconcileNamespace kn) :=
  (getNamespace_keeps _).bind fun r => by
    rcases r with (_ | _ | _ | _ | _) | _ <;> exact Keeps.pure _

/-- Stage 3 writes only the service account and the binding. -/
theorem reconcileRBAC_keeps
    (hsa : Kind.serviceAccount.Misses
      ⟨kn.meta.namespace, (buildServiceAccount kn kn.meta.namespace).name⟩ f)
    (hcrb : Kind.clusterRoleBinding.Misses
      ⟨"", (buildClusterRoleBinding kn kn.meta.namespace).name⟩ f) :
    Keeps f (reconcileRBAC kn) := by
  refine runSteps_keeps fun x hx => ?_
  simp only [List.mem_cons, List.not_mem_nil, or_false] at hx
  rcases hx with rfl | rfl
  · exact ensureCreated_keeps hsa _ _ _
  · exact ensureCreated_keeps hcrb _ _ _

/-- Stage 4 writes only the Secret. -/
theorem reconcileSecret_keeps
    (hk : Kind.secret.Misses ⟨kn.meta.namespace, "kube-nova-secret"⟩ f) :
    Keeps f (reconcileSecret kn) := fun c hq => by
  simp only [reconcileSecret, Client.run_bind, getNodeIP_run_quiet hq]
  rw [getWebNodePort_ticks hq]
  exact ensureData_keeps hk _ _ _ _ _ _ c hq

/-- Stage 5 writes only the service ConfigMaps. -/
theorem reconcileConfigMaps_keeps
    (hk : ∀ cm ∈ buildAllConfigMaps kn kn.meta.namespace,
      Kind.configMap.Misses ⟨kn.meta.namespace, cm.name⟩ f) :
    Keeps f (reconcileConfigMaps kn) :=
  runSteps_keeps fun x hx => by
    obtain ⟨cm, hcm, rfl⟩ := List.mem_map.1 hx
    exact ensureData_keeps (hk cm hcm) _ _ _ _ _ _

/-- Stage 6 writes only the Deployments and Services of the services it builds. -/
theorem reconcileServices_keeps
    (hk : ∀ name res, (buildAllServices kn kn.meta.namespace).get? name = some res →
      Kind.deployment.Misses ⟨kn.meta.namespace, res.deployment.name⟩ f ∧
        Kind.service.Misses ⟨kn.meta.namespace, res.service.name⟩ f) :
    Keeps f (reconcileServices kn) := by
  unfold reconcileServices
  refine mapOrder_keeps.bind fun order =>
    (runSteps_keeps fun x hx => ?_).bind fun _ => Keeps.pure _
  obtain ⟨name, -, hx⟩ := List.mem_flatMap.1 hx
  split at hx
  · rename_i res hres
    simp only [serviceSteps, List.mem_cons, List.not_mem_nil, or_false] at hx
    rcases hx with rfl | rfl
    · exact ensureDeployment_keeps (hk _ _ hres).1 _ _ _
    · exact ensureCreated_keeps (hk _ _ hres).2 _ _ _
  · simp at hx

/-- Stage 7 writes only the nginx ConfigMap, the web Deployment, the web Service and the
Ingress. -/
theorem reconcileWeb_keeps
    (hcm : ∀ cm, (buildWebResources kn kn.meta.namespace).nginxConfigMap = some cm →
      Kind.configMap.Misses ⟨kn.meta.namespace, cm.name⟩ f)
    (hd : Kind.deployment.Misses ⟨kn.meta.namespace, "kube-nova-web"⟩ f)
    (hs : Kind.service.Misses ⟨kn.meta.namespace, (buildWebService kn kn.meta.namespace).name⟩ f)
    (hi : ∀ ing, (buildWebResources kn kn.meta.namespace).ingress = some ing →
      Kind.ingress.Misses ⟨kn.meta.namespace, ing.name⟩ f) :
    Keeps f (reconcileWeb kn) := by
  refine runSteps_keeps fun x hx => ?_
  simp only [reconcileWeb, List.mem_append, List.mem_cons, List.not_mem_nil, or_false,
    Option.mem_toList, Option.mem_def, Option.map_eq_some'] at hx
  rcases hx with (⟨cm, hcm', rfl⟩ | rfl | rfl) | ⟨ing, hing, rfl⟩
  · exact ensureData_keeps (hcm cm hcm') _ _ _ _ _ _
  · exact ensureDeployment_keeps hd _ _ _
  · exact ensureCreated_keeps hs _ _ _
  · exact ensureCreated_keeps (hi ing hing) _ _ _

/-- A stage and what follows it leave a view alone when each does. -/
theorem andThen_keeps {x : Client (Option String)}
    {k : Client (KubeNova × Option (String × String))}
    (pre : String) (hx : Keeps f x) (hk : Keeps f k) :
    Keeps f (andThen kn pre x k) :=
  hx.bind fun r => by rcases r with _ | _; exacts [hk, Keeps.pure _]

end StageKeeps

/-! ### Names kept apart -/

/-- The web Service is `kube-nova-web` in every mode. -/
theorem buildWebService_name (kn : KubeNova) (ns : String) :
    (buildWebService kn ns).name = "kube-nova-web" := by
  simp only [buildWebService]
  split_ifs <;> rfl

/-- No backend service shares the web tier's name. -/
theorem buildAllServices_names_ne_web {kn : KubeNova} {ns name : String} {res : ServiceResources}
    (h : (buildAllServices kn ns).get? name = some res) :
    res.deployment.name ≠ "kube-nova-web" ∧ res.service.name ≠ "kube-nova-web" := by
  obtain ⟨hd, hs⟩ := buildAllServices_get? h
  obtain ⟨cfg, hcfg, he⟩ := mem_buildAllServices (GoMap.mem_entries_of_get? h)
  obtain ⟨rfl, -⟩ := Prod.mk.inj he
  rw [hd, hs]
  simp only [backendConfigs, List.mem_cons, List.mem_singleton, List.not_mem_nil, or_false] at hcfg
  rcases hcfg with rfl | rfl | rfl | rfl | rfl | rfl | rfl <;> dsimp only <;> decide

/-- No service ConfigMap shares the nginx ConfigMap's name. -/
theorem buildAllConfigMaps_name_ne_nginx (kn kn' : KubeNova) (ns ns' : String) {cm' : ConfigMap}
    (h : (buildWebResources kn' ns').nginxConfigMap = some cm') :
    ∀ cm ∈ buildAllConfigMaps kn ns, cm.name ≠ cm'.name := by
  simp only [buildWebResources] at h
  split_ifs at h
  cases h
  simp only [buildAllConfigMaps, List.mem_cons, List.not_mem_nil, or_false]
  rintro cm (rfl | rfl | rfl | rfl | rfl | rfl | rfl) <;> simp only [buildPortalAPIConfigMap,
    buildPortalRPCConfigMap, buildManagerAPIConfigMap, buildManagerRPCConfigMap,
    buildWorkloadAPIConfigMap, buildConsoleAPIConfigMap, buildConsoleRPCConfigMap,
    buildServiceConfigMap, buildNginxConfigMap] <;> decide

/-! ### What a pass leaves -/

/-- What an undisturbed pass of stages 1–7 leaves, as the next pass compares it: the namespace,
every object the builders produce, the Secret with the data built from this store's nodes and
the web node port `port`, the ConfigMaps with their desired data, and every backend service's
objects settled. -/
structure StagesSettled (kn : KubeNova) (port : Int) (s : Store) : Prop where
  namespace_mem : kn.meta.namespace ∈ s.namespaces
  present : AllPresent (desiredObjects kn) s
  secret : ∃ a, s.secrets.get? ⟨kn.meta.namespace, "kube-nova-secret"⟩ = some a ∧
    a.data.Equiv (buildSecret kn kn.meta.namespace (nodeIPOf s.nodes) port).data
  configMaps : ∀ cm ∈ buildAllConfigMaps kn kn.meta.namespace ++
      (buildWebResources kn kn.meta.namespace).nginxConfigMap.toList,
    ∃ a, s.configMaps.get? ⟨kn.meta.namespace, cm.name⟩ = some a ∧ a.data.Equiv cm.data
  services : ∀ name res, (buildAllServices kn kn.meta.namespace).get? name = some res →
    res.Settled kn.meta.namespace s

/-- The stages read a root's metadata and spec, not its status. -/
theorem stagesSettled_status {kn : KubeNova} {port : Int} {s : Store} (st : KubeNovaStatus) :
    StagesSettled { kn with status := st } port s ↔ StagesSettled kn port s :=
  ⟨fun ⟨h₁, h₂, h₃, h₄, h₅⟩ => ⟨h₁, h₂, h₃, h₄, h₅⟩,
    fun ⟨h₁, h₂, h₃, h₄, h₅⟩ => ⟨h₁, h₂, h₃, h₄, h₅⟩⟩

/-- Outside node-port mode `getWebNodePort` returns 0 without a call. -/
theorem getWebNodePort_run_of_ne (kn : KubeNova) (ns : String)
    (hnp : kn.spec.web.exposeType ≠ "nodeport") : (getWebNodePort kn ns).run c = (0, c) := by
  rw [getWebNodePort, if_pos hnp]
  rfl

/-- `getWebNodePort` reads the web Service only. -/
theorem getWebNodePort_run_fst_congr {c' : Cluster} (kn : KubeNova) (ns : String)
    (hq : c.ticks = []) (hq' : c'.ticks = [])
    (h : c.store.services.get? ⟨ns, "kube-nova-web"⟩ =
      c'.store.services.get? ⟨ns, "kube-nova-web"⟩) :
    ((getWebNodePort kn ns).run c).1 = ((getWebNodePort kn ns).run c').1 := by
  unfold getWebNodePort
  split_ifs
  · rfl
  all_goals
    simp only [Client.run_bind, getObject_run_quiet hq, getObject_run_quiet hq', Kind.service, h]
    rcases c'.store.services.get? ⟨ns, "kube-nova-web"⟩ with _ | svc
    · rfl
    · dsimp only [Option.elim]
      split <;> rfl

/-- Undisturbed, stage 4 stores the Secret with the data built from the nodes and the web node
port it reads. -/
theorem reconcileSecret_run_quiet_stores (kn : KubeNova) (hq : c.ticks = []) :
    ∃ a, ((reconcileSecret kn).run c).2.store.secrets.get?
        ⟨kn.meta.namespace, "kube-nova-secret"⟩ = some a ∧
      a.data.Equiv (buildSecret kn kn.meta.namespace (nodeIPOf c.store.nodes)
        ((getWebNodePort kn kn.meta.namespace).run c).1).data := by
  simp only [reconcileSecret, Client.run_bind, getNodeIP_run_quiet hq]
  rw [getWebNodePort_ticks hq]
  exact (ensureData_run_quiet (c := c) Kind.secret ⟨kn.meta.namespace, "kube-nova-secret"⟩ _
    Secret.data (fun s d => { s with data := d }) "创建 Secret 失败: " "获取 Secret 失败: "
    "更新 Secret 失败: " hq (fun _ _ => rfl) fun _ => rfl).2.2.1

/-- Undisturbed, a pass of stages 1–7 leaves the nodes as they were and the Secret built from
them and the web node port as stage 4 reads it at the pass's start: stage 3 touches neither
the nodes nor the web Service, and stages 5–7 leave the Secret alone. -/
theorem runStages_run_quiet_secret (kn : KubeNova) (hq : c.ticks = [])
    (hv : validateKubeNova kn = none) (hns : kn.meta.namespace ∈ c.store.namespaces) :
    ((runStages kn).run c).2.store.nodes = c.store.nodes ∧
      ∃ a, ((runStages kn).run c).2.store.secrets.get?
          ⟨kn.meta.namespace, "kube-nova-secret"⟩ = some a ∧
        a.data.Equiv (buildSecret kn kn.meta.namespace (nodeIPOf c.store.nodes)
          ((getWebNodePort kn kn.meta.namespace).run c).1).data := by
  obtain ⟨st, hst⟩ : ∃ st, (reconcileValidation kn).1 = { kn with status := st } :=
    ⟨_, reconcileValidation_fst kn⟩
  rw [runStages_run_of_valid kn hq hv hns, andThen_pure_run_snd, hst]
  obtain ⟨e₃, t₃⟩ := reconcileRBAC_keeps
    (f := fun s => (s.services.get? ⟨kn.meta.namespace, "kube-nova-web"⟩, s.nodes))
    { kn with status := st } (fun _ _ => rfl) (fun _ _ => rfl) c hq
  have hport := getWebNodePort_run_fst_congr kn kn.meta.namespace t₃ hq (congrArg Prod.fst e₃)
  obtain ⟨a, ha, hae⟩ := reconcileSecret_run_quiet_stores { kn with status := st } t₃
  obtain ⟨e₄, t₄⟩ := reconcileSecret_keeps (f := Store.nodes) { kn with status := st }
    (fun _ _ => rfl) _ t₃
  generalize ((reconcileSecret _).run _).2 = c₄ at ha e₄ t₄ ⊢
  obtain ⟨e₅, t₅⟩ := reconcileConfigMaps_keeps (f := fun s => (s.secrets, s.nodes)) _
    (fun _ _ _ _ => rfl) c₄ t₄
  obtain ⟨e₆, t₆⟩ := reconcileServices_keeps (f := fun s => (s.secrets, s.nodes)) _
    (fun _ _ _ => ⟨fun _ _ => rfl, fun _ _ => rfl⟩) _ t₅
  obtain ⟨e₇, -⟩ := reconcileWeb_keeps (f := fun s => (s.secrets, s.nodes))
    (setStatusPhase { kn with status := st } .creating "正在部署后端服务")
    (fun _ _ _ _ => rfl) (fun _ _ => rfl) (fun _ _ => rfl) (fun _ _ _ _ => rfl) _ t₆
  simp only [Prod.mk.injEq] at e₃ e₅ e₆ e₇
  refine ⟨e₇.2.trans (e₆.2.trans (e₅.2.trans (e₄.trans e₃.2))), a, ?_, ?_⟩
  · rw [e₇.1, e₆.1, e₅.1]
    exact ha
  · rw [← hport, ← e₃.2]
    exact hae

/-- Undisturbed, stage 5 stores every service ConfigMap with its desired data. -/
theorem reconcileConfigMaps_run_quiet_settles (kn : KubeNova) (hq : c.ticks = []) :
    ((reconcileConfigMaps kn).run c).2.ticks = [] ∧
      ∀ cm ∈ buildAllConfigMaps kn kn.meta.namespace, ∃ a,
        ((reconcileConfigMaps kn).run c).2.store.configMaps.get? ⟨kn.meta.namespace, cm.name⟩ =
          some a ∧ a.data.Equiv cm.data :=
  have ⟨_, t, s, _⟩ := runSteps_configMaps_run_quiet (c := c) kn.meta.namespace
    (fun n => "创建 ConfigMap " ++ n ++ " 失败: ") (fun n => "更新 ConfigMap " ++ n ++ " 失败: ")
    "获取 ConfigMap 失败: " _ (buildAllConfigMaps_names kn kn.meta.namespace) hq
  ⟨t, s⟩

/-- **One undisturbed pass settles stages 1–7**, from any store, for a valid root whose namespace
exists, with the Secret built from the node port stage 4 read at the pass's start.  Each stage
settles its own objects, and the later stages leave them alone: they write other kinds, or
other names. -/
theorem runStages_run_quiet_settles (kn : KubeNova) (hq : c.ticks = [])
    (hv : validateKubeNova kn = none) (hns : kn.meta.namespace ∈ c.store.namespaces)
    (hrt : ServicesRoundTrip kn kn.meta.namespace) :
    StagesSettled kn ((getWebNodePort kn kn.meta.namespace).run c).1
      ((runStages kn).run c).2.store := by
  obtain ⟨n₁, -⟩ := runStages_run_quiet kn hq hv hns
  have hns₇ := (runStages_ensures kn _ (namespace_stable _) c hns).1
  have hp₇ := (runStages_ensures kn _ stable_true c trivial).2 n₁
  obtain ⟨hnodes, hsec⟩ := runStages_run_quiet_secret kn hq hv hns
  rw [← hnodes] at hsec
  obtain ⟨st, hst⟩ : ∃ st, (reconcileValidation kn).1 = { kn with status := st } :=
    ⟨_, reconcileValidation_fst kn⟩
  rw [runStages_run_of_valid kn hq hv hns, andThen_pure_run_snd, hst] at hns₇ hp₇ hsec ⊢
  rw [← stagesSettled_status st]
  replace hns₇ : ({ kn with status := st } : KubeNova).meta.namespace ∈ _ := hns₇
  replace hp₇ : AllPresent (desiredObjects { kn with status := st }) _ := hp₇
  replace hsec : ∃ a, (Store.secrets _).get?
      ⟨({ kn with status := st } : KubeNova).meta.namespace, "kube-nova-secret"⟩ = some a ∧
    a.data.Equiv (buildSecret { kn with status := st }
      ({ kn with status := st } : KubeNova).meta.namespace (nodeIPOf _) _).data := hsec
  replace hrt : ServicesRoundTrip { kn with status := st }
    ({ kn with status := st } : KubeNova).meta.namespace := hrt
  generalize { kn with status := st } = kn₁ at hns₇ hp₇ hsec hrt ⊢
  obtain ⟨-, t₃⟩ := reconcileRBAC_quietOk kn₁ c hq
  generalize ((reconcileRBAC kn₁).run c).2 = c₃ at t₃ hns₇ hp₇ hsec ⊢
  obtain ⟨-, t₄⟩ := reconcileSecret_quietOk kn₁ c₃ t₃
  generalize ((reconcileSecret kn₁).run c₃).2 = c₄ at t₄ hns₇ hp₇ hsec ⊢
  obtain ⟨t₅, hcm⟩ := reconcileConfigMaps_run_quiet_settles kn₁ t₄
  generalize ((reconcileConfigMaps kn₁).run c₄).2 = c₅ at t₅ hcm hns₇ hp₇ hsec ⊢
  obtain ⟨-, t₆, hsvc⟩ := reconcileServices_run_quiet_settles kn₁ t₅ hrt
  have k₆ := (reconcileServices_keeps (f := Store.configMaps) kn₁
    (fun _ _ _ => ⟨fun _ _ => rfl, fun _ _ => rfl⟩) c₅ t₅).1
  generalize ((reconcileServices kn₁).run c₅).2 = c₆ at t₆ hsvc k₆ hns₇ hp₇ hsec ⊢
  refine ⟨hns₇, hp₇, hsec, fun cm hcm' => ?_, fun name res hres => ?_⟩
  · rcases List.mem_append.1 hcm' with hcm' | hcm'
    · have k₇' := (reconcileWeb_keeps
        (f := fun s => s.configMaps.get? ⟨kn₁.meta.namespace, cm.name⟩)
        (setStatusPhase kn₁ .creating "正在部署后端服务")
        (fun cm' h => Kind.configMap.misses_get? fun he =>
          buildAllConfigMaps_name_ne_nginx _ _ _ _ h cm hcm' (ObjKey.mk.inj he).2)
        (fun _ _ => rfl) (fun _ _ => rfl) (fun _ _ _ _ => rfl) c₆ t₆).1
      dsimp only at k₇'
      rw [k₇', k₆]
      exact hcm cm hcm'
    · exact reconcileWeb_run_quiet_nginx _ c₆ t₆ (Option.mem_toList.1 hcm')
  · obtain ⟨hd, hs⟩ := buildAllServices_names_ne_web hres
    have k₇' := (reconcileWeb_keeps (f := fun s =>
        (s.deployments.get? ⟨kn₁.meta.namespace, res.deployment.name⟩,
          s.services.get? ⟨kn₁.meta.namespace, res.service.name⟩))
      (setStatusPhase kn₁ .creating "正在部署后端服务") (fun _ _ _ _ => rfl)
      (fun s a => Prod.ext (Kind.deployment.misses_get? (fun he => hd (ObjKey.mk.inj he).2) s a)
        rfl)
      (fun s a => Prod.ext rfl (Kind.service.misses_get? (fun he => hs
        ((ObjKey.mk.inj he).2.trans (buildWebService_name _ _))) s a))
      (fun _ _ _ _ => rfl) c₆ t₆).1
    simp only [Prod.mk.injEq] at k₇'
    have h := (hsvc name res hres).1
    unfold ServiceResources.Settled at h ⊢
    rw [k₇'.1, k₇'.2]
    exact h

/-! ### A pass over a settled store -/

/-- Stage 3 writes nothing, undisturbed, when the service account and the binding are stored. -/
theorem reconcileRBAC_run_of_stored (kn : KubeNova) (hq : c.ticks = [])
    (hp : AllPresent (rbacObjects kn) c.store) : (reconcileRBAC kn).run c = (none, c) := by
  unfold reconcileRBAC
  refine runSteps_run_of_noop fun x hx => ?_
  simp only [List.mem_cons, List.not_mem_nil, or_false] at hx
  rcases hx with rfl | rfl
  · exact ensureCreated_run_quiet_of_stored hq Kind.serviceAccount _ _ _ _
      ((Kind.serviceAccount.present_eq _ _).symm.trans (hp _ (.head _)))
  · exact ensureCreated_run_quiet_of_stored hq Kind.clusterRoleBinding _ _ _ _
      ((Kind.clusterRoleBinding.present_eq _ _).symm.trans (hp _ (.tail _ (.head _))))

/-- Stage 4 writes nothing, undisturbed, when the Secret is stored with the data it would be
built with from the nodes the store holds and the node port stage 4 reads. -/
theorem reconcileSecret_run_of_stored (kn : KubeNova) (hq : c.ticks = []) {port : Int}
    (hp : ((getWebNodePort kn kn.meta.namespace).run c).1 = port)
    (h : ∃ a, c.store.secrets.get? ⟨kn.meta.namespace, "kube-nova-secret"⟩ = some a ∧
      a.data.Equiv (buildSecret kn kn.meta.namespace (nodeIPOf c.store.nodes) port).data) :
    (reconcileSecret kn).run c = (none, c) := by
  obtain ⟨a, ha, he⟩ := h
  simp only [reconcileSecret, Client.run_bind, getNodeIP_run_quiet hq]
  rw [getWebNodePort_ticks hq, hp]
  exact ensureData_run_quiet_of_equiv Kind.secret _ _ Secret.data _ _ _ _ hq ha he

/-- Stage 5 writes nothing, undisturbed, when every service ConfigMap is stored with its
desired data. -/
theorem reconcileConfigMaps_run_of_stored (kn : KubeNova) (hq : c.ticks = [])
    (h : ∀ cm ∈ buildAllConfigMaps kn kn.meta.namespace,
      ∃ a, c.store.configMaps.get? ⟨kn.meta.namespace, cm.name⟩ = some a ∧ a.data.Equiv cm.data) :
    (reconcileConfigMaps kn).run c = (none, c) :=
  runSteps_run_of_noop fun x hx => by
    obtain ⟨cm, hcm, rfl⟩ := List.mem_map.1 hx
    obtain ⟨a, ha, hae⟩ := h cm hcm
    exact ensureData_run_quiet_of_equiv _ _ _ _ _ _ _ _ hq ha hae

/-- **A pass over a settled store writes the web Deployment only**, when stage 4 reads the node
port the Secret was built with: stages 3–6 find what they would write and write nothing, and
stage 7 updates the web Deployment, which `deploymentSpecEqual` never accepts. -/
theorem runStages_run_of_settled (kn : KubeNova) (hq : c.ticks = [])
    (hv : validateKubeNova kn = none) {port : Int}
    (hp : ((getWebNodePort kn kn.meta.namespace).run c).1 = port)
    (hs : StagesSettled kn port c.store) :
    ∃ d, c.store.deployments.get? ⟨kn.meta.namespace, "kube-nova-web"⟩ = some d ∧
      ((runStages kn).run c).1.2 = none ∧
      ((runStages kn).run c).2 = { c with
        store := { c.store with
          deployments := c.store.deployments.insert ⟨kn.meta.namespace, "kube-nova-web"⟩
            (Deployment.stored
              { d with spec := spliceWeb d.spec (buildWebDeployment kn kn.meta.namespace).spec }) }
        log := .update .deployment ⟨kn.meta.namespace, "kube-nova-web"⟩ :: c.log } := by
  obtain ⟨st, hst⟩ : ∃ st, (reconcileValidation kn).1 = { kn with status := st } :=
    ⟨_, reconcileValidation_fst kn⟩
  rw [runStages_run_of_valid kn hq hv hs.namespace_mem, hst]
  rw [← stagesSettled_status st] at hs
  have hp := hs.present
  simp only [desiredObjects, allPresent_append] at hp
  obtain ⟨⟨⟨⟨hrbac, -⟩, -⟩, -⟩, hweb⟩ := hp
  simp only [reconcileRBAC_run_of_stored _ hq hrbac,
    reconcileSecret_run_of_stored { kn with status := st } hq hp hs.secret,
    reconcileConfigMaps_run_of_stored { kn with status := st } hq
      fun cm h => hs.configMaps cm (List.mem_append_left _ h),
    reconcileServices_run_quiet_of_settled _ hq hs.services]
  obtain ⟨d, hd, hrun⟩ := reconcileWeb_run_quiet_of_stored
    (setStatusPhase { kn with status := st } .creating "正在部署后端服务") hq
    (fun cm h => hs.configMaps cm (List.mem_append_right _ (Option.mem_toList.2 h))) hweb
  rw [andThen_run_of_none _ _ (congrArg Prod.fst hrun), hrun]
  exact ⟨d, hd, rfl, rfl⟩

/-! ### Every later pass -/

/-- The cluster after `n` undisturbed passes of stages 1–7 in a row. -/
def stagesPasses (kn : KubeNova) (n : Nat) (c : Cluster) : Cluster :=
  (fun c => ((runStages kn).run c).2)^[n] c

/-- `sampleRoot` exposed through an Ingress. -/
def ingressRoot : KubeNova :=
  { sampleRoot with
    spec := { sampleSpec with
      web := { exposeType := "ingress", ingress := some { host := "nova.local" } } } }

/-- In node-port mode, undisturbed, `getWebNodePort` reads back the port the web Service was
built with: the HTTPS node port when HTTPS is on with a positive port, else the HTTP one. -/
theorem getWebNodePort_run_quiet_of_built (hq : c.ticks = []) (kn : KubeNova) (ns : String)
    (hnp : kn.spec.web.exposeType = "nodeport")
    (hsvc : c.store.services.get? ⟨ns, "kube-nova-web"⟩ = some (buildWebService kn ns)) :
    (getWebNodePort kn ns).run c =
      ((match kn.spec.web.nodePort.bind NodePortConfig.https with
        | some h => if h.enabled ∧ h.port > 0 then h.port else
          (match kn.spec.web.nodePort with
            | some np => if np.httpPort > 0 then np.httpPort else 30080
            | none => 30080)
        | none =>
          match kn.spec.web.nodePort with
          | some np => if np.httpPort > 0 then np.httpPort else 30080
          | none => 30080), c) := by
  unfold getWebNodePort
  simp only [hnp, ne_eq, not_true_eq_false, if_false, Client.run_bind, getObject_run_quiet hq]
  simp only [Kind.service, hsvc, Option.elim]
  simp only [buildWebService, WebConfig.nodePortHTTPSEnabled, hnp,
    show ("nodeport" : String) ≠ "ingress" by decide, if_false, if_true]
  rcases kn.spec.web.nodePort with _ | ⟨httpPort, _ | ⟨en, port, sn⟩⟩
  · simp
  · by_cases h1 : 0 < httpPort <;> simp [h1]
  · cases en <;> by_cases h1 : 0 < httpPort <;> by_cases h2 : 0 < port <;> simp [h1, h2]

/-- Undisturbed, a create-if-absent step over an absent key creates the object. -/
theorem ensureCreated_run_quiet_of_absent {α : Type} (hq : c.ticks = []) (k : Kind α)
    (key : ObjKey) (obj : α) (createMsg getMsg : String) (h : (k.objects c.store).get? key = none) :
    (ensureCreated k key obj createMsg getMsg).run c =
      (none, { c with store := k.setObjects c.store ((k.objects c.store).insert key (k.stored obj))
                      log := .create k.tag key :: c.log }) := by
  simp only [ensureCreated, Client.run_bind, getObject_run_quiet hq, h, Option.elim,
    createObject_run_quiet hq, Option.isSome_none, Bool.false_eq_true, if_false]
  rfl

/-- Undisturbed, stage 7 leaves the web Service stored as it was, or creates it as built. -/
theorem reconcileWeb_run_quiet_web_service (kn : KubeNova) (hq : c.ticks = []) :
    ((reconcileWeb kn).run c).2.store.services.get? ⟨kn.meta.namespace, "kube-nova-web"⟩ =
      some ((c.store.services.get? ⟨kn.meta.namespace, "kube-nova-web"⟩).getD
        (buildWebService kn kn.meta.namespace)) := by
  unfold reconcileWeb
  dsimp only
  rw [show (buildWebResources kn kn.meta.namespace).service.name = "kube-nova-web" from
      buildWebService_name kn kn.meta.namespace,
    List.append_assoc, List.cons_append, List.cons_append, List.nil_append, List.append_cons]
  refine runSteps_sets_view (f := fun s => s.services.get? ⟨kn.meta.namespace, "kube-nova-web"⟩)
    (fun y hy => ?_) (fun c' hq' ha => ?_) (fun y hy => ?_) hq rfl
  · simp only [List.mem_append, Option.mem_toList, Option.mem_def, Option.map_eq_some',
      List.mem_singleton] at hy
    rcases hy with ⟨cm, -, rfl⟩ | rfl
    · exact ⟨ensureData_quietOk _ _ _ _ _ _ _ _,
        ensureData_keeps (by exact fun _ _ => rfl) _ _ _ _ _ _⟩
    · exact ⟨ensureDeployment_quietOk _ _ _ _,
        ensureDeployment_keeps (by exact fun _ _ => rfl) _ _ _⟩
  · dsimp only at ha
    rcases hw : c.store.services.get? ⟨kn.meta.namespace, "kube-nova-web"⟩ with _ | svc <;>
      rw [hw] at ha
    · rw [ensureCreated_run_quiet_of_absent hq' Kind.service _ _ _ _ ha]
      exact ⟨rfl, hq', by simp [Kind.service, buildWebResources]⟩
    · rw [ensureCreated_run_quiet_of_stored hq' Kind.service _ _ _ _
        (by dsimp only [Kind.service]; rw [ha]; rfl)]
      exact ⟨rfl, hq', ha⟩
  · simp only [Option.mem_toList, Option.mem_def, Option.map_eq_some'] at hy
    obtain ⟨ing, -, rfl⟩ := hy
    exact ensureCreated_keeps (fun _ _ => rfl) _ _ _

/-- Undisturbed, a pass of stages 1–7 leaves the web Service stored as it was, or creates it as
built: stages 3–6 write other kinds or other names. -/
theorem runStages_run_quiet_web_service (kn : KubeNova) (hq : c.ticks = [])
    (hv : validateKubeNova kn = none) (hns : kn.meta.namespace ∈ c.store.namespaces) :
    ((runStages kn).run c).2.store.services.get? ⟨kn.meta.namespace, "kube-nova-web"⟩ =
      some ((c.store.services.get? ⟨kn.meta.namespace, "kube-nova-web"⟩).getD
        (buildWebService kn kn.meta.namespace)) := by
  obtain ⟨st, hst⟩ : ∃ st, (reconcileValidation kn).1 = { kn with status := st } :=
    ⟨_, reconcileValidation_fst kn⟩
  rw [runStages_run_of_valid kn hq hv hns, andThen_pure_run_snd, hst]
  let f := fun s : Store => s.services.get? ⟨kn.meta.namespace, "kube-nova-web"⟩
  obtain ⟨e₃, t₃⟩ := reconcileRBAC_keeps (f := f) { kn with status := st }
    (fun _ _ => rfl) (fun _ _ => rfl) c hq
  obtain ⟨e₄, t₄⟩ := reconcileSecret_keeps (f := f) _ (fun _ _ => rfl) _ t₃
  obtain ⟨e₅, t₅⟩ := reconcileConfigMaps_keeps (f := f) _ (fun _ _ _ _ => rfl) _ t₄
  obtain ⟨e₆, t₆⟩ := reconcileServices_keeps (f := f) _ (fun _ _ hres => ⟨fun _ _ => rfl,
    Kind.service.misses_get? fun he =>
      (buildAllServices_names_ne_web hres).2 (ObjKey.mk.inj he).2.symm⟩) _ t₅
  exact (reconcileWeb_run_quiet_web_service _ t₆).trans
    (congrArg (fun w => some (w.getD (buildWebService kn kn.meta.namespace)))
      (e₆.trans (e₅.trans (e₄.trans e₃))))

/-- **In node-port mode with HTTPS on, the second pass stores another Secret**: from a store
without the web Service, the first undisturbed pass stores the Secret built with the HTTP node
port (or 30080), the second the one built with the HTTPS node port, which it reads off the
Service the first pass created.  Every address the Secret derives from the port, such as the
MinIO proxy's, moves with it. -/
theorem runStages_second_pass_moves_secret_to_https_port (kn : KubeNova) (c : Cluster)
    (np : NodePortConfig) (h : NodePortHTTPSConfig) (hq : c.ticks = [])
    (hv : validateKubeNova kn = none) (hns : kn.meta.namespace ∈ c.store.namespaces)
    (hnp : kn.spec.web.exposeType = "nodeport") (hnpc : kn.spec.web.nodePort = some np)
    (hh : np.https = some h) (he : h.enabled) (hport : 0 < h.port)
    (hsvc : c.store.services.get? ⟨kn.meta.namespace, "kube-nova-web"⟩ = none) :
    (∃ a, (stagesPasses kn 1 c).store.secrets.get? ⟨kn.meta.namespace, "kube-nova-secret"⟩ =
        some a ∧ a.data.Equiv (buildSecret kn kn.meta.namespace (nodeIPOf c.store.nodes)
          (if np.httpPort > 0 then np.httpPort else 30080)).data) ∧
      ∃ a, (stagesPasses kn 2 c).store.secrets.get? ⟨kn.meta.namespace, "kube-nova-secret"⟩ =
        some a ∧ a.data.Equiv (buildSecret kn kn.meta.namespace (nodeIPOf c.store.nodes)
          h.port).data := by
  obtain ⟨-, t₁⟩ := runStages_run_quiet kn hq hv hns
  have hns₁ := (runStages_ensures kn _ (namespace_stable _) c hns).1
  obtain ⟨hn₁, a₁, ha₁, he₁⟩ := runStages_run_quiet_secret kn hq hv hns
  obtain ⟨-, a₂, ha₂, he₂⟩ := runStages_run_quiet_secret kn t₁ hv hns₁
  rw [getWebNodePort_run_quiet_of_absent hq kn _ hnp hsvc, hnpc] at he₁
  rw [getWebNodePort_run_quiet_of_built t₁ kn _ hnp
    ((runStages_run_quiet_web_service kn hq hv hns).trans (by rw [hsvc]; rfl)), hn₁,
    hnpc] at he₂
  simp only [Option.some_bind, hh, he, hport, gt_iff_lt, and_self, if_true] at he₂
  exact ⟨⟨a₁, ha₁, he₁⟩, a₂, ha₂, he₂⟩

theorem runStages_second_pass_moves_secret_to_https_port_proxyNodePortRoot :
    proxyNodePortCluster.ticks = [] ∧ validateKubeNova proxyNodePortRoot = none ∧
      ∃ a, (stagesPasses proxyNodePortRoot 2 proxyNodePortCluster).store.secrets.get?
          ⟨"nova", "kube-nova-secret"⟩ = some a ∧
        a.data.Equiv (buildSecret proxyNodePortRoot "nova" (nodeIPOf []) 30443).data :=
  ⟨rfl, by decide, (runStages_second_pass_moves_secret_to_https_port proxyNodePortRoot
    proxyNodePortCluster _ _ rfl (by decide) (by decide) rfl rfl rfl rfl (by decide) rfl).2⟩

/-! ### Every mode, from the third pass on -/

end KubeNovaOperator
