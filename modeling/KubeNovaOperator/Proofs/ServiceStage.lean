import KubeNovaOperator.Proofs.Convergence

/-!
# Stage 6 settles in one run

Whatever Deployments and Services the store holds, one undisturbed run of `reconcileServices`
leaves every backend service `Settled`: its Deployment stored with a spec
`deploymentSpecEqual` accepts against the builder's, and its Service stored
(`reconcileServices_run_quiet_settles`).  A second run then writes nothing
(`reconcileServices_run_quiet_twice`).

The pieces: the Deployment step leaves a spec the comparison accepts, because a created
Deployment is the builder's (which compares equal to itself) and an updated one is the
backend splice, which copies every field the comparison reads
(`deploymentSpecEqual_spliceBackend`); the Service step leaves a Service; and the steps of
services of distinct names write distinct keys, so none undoes another
(`runSteps_services_run_quiet`), in whatever order the pass ranges over the map.
-/

namespace KubeNovaOperator

variable {c : Cluster}

/-! ### One service -/

/-- The splice writes every field `deploymentSpecEqual` reads, so the diff sees the stored
splice as it sees the stored desired spec. -/
theorem deploymentSpecEqual_spliceBackend (latest desired : DeploymentSpec) :
    deploymentSpecEqual (spliceBackend latest desired).stored desired =
      deploymentSpecEqual desired.stored desired := rfl

/-- Undisturbed, a Deployment step leaves under its key a Deployment the diff accepts, when
the diff accepts the stored forms of what it writes; it creates the desired Deployment where
none was stored, and touches no other Deployment and no Service. -/
theorem ensureDeployment_run_quiet (hq : c.ticks = []) (key : ObjKey) (desired : Deployment)
    (splice : DeploymentSpec → DeploymentSpec → DeploymentSpec) (msgs : DeploymentMsgs)
    (hself : deploymentSpecEqual desired.spec.stored desired.spec)
    (hsplice : ∀ s, deploymentSpecEqual (splice s desired.spec).stored desired.spec) :
    ((ensureDeployment key desired splice msgs).run c).1 = none ∧
      ((ensureDeployment key desired splice msgs).run c).2.ticks = [] ∧
      (((ensureDeployment key desired splice msgs).run c).2.store.deployments.get? key).any
        (fun d => deploymentSpecEqual d.spec desired.spec) ∧
      (c.store.deployments.get? key = none →
        ((ensureDeployment key desired splice msgs).run c).2.store.deployments.get? key =
          some desired.stored) ∧
      (∀ key', key' ≠ key →
        ((ensureDeployment key desired splice msgs).run c).2.store.deployments.get? key' =
          c.store.deployments.get? key') ∧
      ((ensureDeployment key desired splice msgs).run c).2.store.services = c.store.services := by
  cases h : c.store.deployments.get? key with
  | none =>
    simp only [ensureDeployment, Client.run_bind, getObject_run_quiet hq, Kind.deployment_objects,
      h, Option.elim, createObject_run_quiet hq, Option.isSome_none, Bool.false_eq_true, if_false]
    exact ⟨rfl, hq, by simpa [Kind.deployment] using hself, fun _ => by simp [Kind.deployment],
      fun key' hk => by simp [Kind.deployment, hk], rfl⟩
  | some d =>
    by_cases he : deploymentSpecEqual d.spec desired.spec
    · rw [ensureDeployment_run_quiet_of_equal hq h _ _ _ he]
      exact ⟨rfl, hq, by simpa [h] using he, nofun, fun _ _ => rfl, rfl⟩
    · rw [ensureDeployment_run_quiet_of_differ hq h _ _ _ (by simpa using he)]
      exact ⟨rfl, hq, by simpa using hsplice d.spec, nofun, fun key' hk => by simp [hk], rfl⟩

/-- Undisturbed, a Service step leaves a Service under its key, and touches no other Service
and nothing else of the store. -/
theorem ensureCreated_service_run_quiet (hq : c.ticks = []) (key : ObjKey) (svc : Service)
    (createMsg getMsg : String) :
    ((ensureCreated Kind.service key svc createMsg getMsg).run c).1 = none ∧
      ((ensureCreated Kind.service key svc createMsg getMsg).run c).2.ticks = [] ∧
      (((ensureCreated Kind.service key svc createMsg getMsg).run c).2.store.services.get?
        key).isSome ∧
      (∀ key', key' ≠ key →
        ((ensureCreated Kind.service key svc createMsg getMsg).run c).2.store.services.get? key' =
          c.store.services.get? key') ∧
      ((ensureCreated Kind.service key svc createMsg getMsg).run c).2.store.deployments =
        c.store.deployments := by
  cases h : c.store.services.get? key with
  | none =>
    have h' : (Kind.service.objects c.store).get? key = none := h
    simp only [ensureCreated, Client.run_bind, getObject_run_quiet hq, h', Option.elim,
      createObject_run_quiet hq, Option.isSome_none, Bool.false_eq_true, if_false]
    exact ⟨rfl, hq, by simp [Kind.service], fun key' hk => by simp [Kind.service, hk], rfl⟩
  | some s =>
    rw [ensureCreated_run_quiet_of_stored hq _ _ _ _ _ (by simp [Kind.service, h])]
    exact ⟨rfl, hq, by simp [h], fun _ _ => rfl, rfl⟩

/-- Undisturbed, the two steps of one service settle its objects and write no other key. -/
theorem serviceSteps_run_quiet (hq : c.ticks = []) (ns name : String) (res : ServiceResources)
    (hself : deploymentSpecEqual res.deployment.spec.stored res.deployment.spec)
    (rest : List (Client (Option String))) :
    ∃ c', (runSteps (serviceSteps ns name res ++ rest)).run c = (runSteps rest).run c' ∧
      c'.ticks = [] ∧ res.Settled ns c'.store ∧
      (c.store.deployments.get? ⟨ns, res.deployment.name⟩ = none →
        c'.store.deployments.get? ⟨ns, res.deployment.name⟩ = some res.deployment.stored) ∧
      (∀ key, key ≠ ⟨ns, res.deployment.name⟩ →
        c'.store.deployments.get? key = c.store.deployments.get? key) ∧
      ∀ key, key ≠ ⟨ns, res.service.name⟩ →
        c'.store.services.get? key = c.store.services.get? key := by
  obtain ⟨e₁, t₁, s₁, n₁, f₁, v₁⟩ := ensureDeployment_run_quiet (c := c) hq
    ⟨ns, res.deployment.name⟩ res.deployment spliceBackend
    ⟨"创建 Deployment " ++ name ++ " 失败: ", "获取 Deployment 失败: ",
      "重新获取 Deployment 失败: ", "更新 Deployment " ++ name ++ " 失败: "⟩ hself
    fun s => (deploymentSpecEqual_spliceBackend s _).trans hself
  obtain ⟨e₂, t₂, s₂, f₂, d₂⟩ := ensureCreated_service_run_quiet t₁ ⟨ns, res.service.name⟩
    res.service ("创建 Service " ++ name ++ " 失败: ") "获取 Service 失败: "
  refine ⟨_, by rw [serviceSteps, List.cons_append, List.cons_append,
      runSteps_cons_run_of_none e₁, runSteps_cons_run_of_none e₂, List.nil_append], t₂,
    ⟨by rwa [d₂], s₂⟩, fun h => by rw [d₂, n₁ h], fun key hk => by rw [d₂, f₁ key hk],
    fun key hk => by rw [f₂ key hk, v₁]⟩

/-- A service `BuildAllServices` holds under a name is the builder's, under that name. -/
theorem buildAllServices_get? {kn : KubeNova} {ns name : String} {res : ServiceResources}
    (h : (buildAllServices kn ns).get? name = some res) :
    res.deployment.name = name ∧ res.service.name = name := by
  obtain ⟨cfg, -, he⟩ := mem_buildAllServices (GoMap.mem_entries_of_get? h)
  obtain ⟨rfl, rfl⟩ := Prod.mk.inj he
  exact ⟨rfl, rfl⟩

/-- Every backend Deployment the builders produce compares equal to the form the API server
stores it in, as when its quantities are written canonically and none of its resource maps is
empty. -/
def ServicesRoundTrip (kn : KubeNova) (ns : String) : Prop :=
  ∀ e ∈ (buildAllServices kn ns).entries,
    deploymentSpecEqual e.2.deployment.spec.stored e.2.deployment.spec = true

instance (kn : KubeNova) (ns : String) : Decidable (ServicesRoundTrip kn ns) :=
  inferInstanceAs (Decidable (∀ e ∈ (buildAllServices kn ns).entries, _))

theorem ServicesRoundTrip.get? {kn : KubeNova} {ns name : String} (h : ServicesRoundTrip kn ns)
    {res : ServiceResources} (hres : (buildAllServices kn ns).get? name = some res) :
    deploymentSpecEqual res.deployment.spec.stored res.deployment.spec :=
  h _ (GoMap.mem_entries_of_get? hres)

/-! ### The loop -/

/-- Undisturbed, the steps of services of distinct names report no error, settle the objects
of each, and write no key outside those names. -/
theorem runSteps_services_run_quiet (kn : KubeNova) (ns : String) (names : List String)
    (hnd : names.Nodup) (hrt : ServicesRoundTrip kn ns) (hq : c.ticks = []) :
    let xs := names.flatMap fun name =>
      match (buildAllServices kn ns).get? name with
      | some res => serviceSteps ns name res
      | none => []
    ((runSteps xs).run c).1 = none ∧ ((runSteps xs).run c).2.ticks = [] ∧
      (∀ name ∈ names, ∀ res, (buildAllServices kn ns).get? name = some res →
        res.Settled ns ((runSteps xs).run c).2.store ∧
        (c.store.deployments.get? ⟨ns, name⟩ = none →
          ((runSteps xs).run c).2.store.deployments.get? ⟨ns, name⟩ = some res.deployment.stored)) ∧
      ∀ key, (∀ name ∈ names, key ≠ ⟨ns, name⟩) →
        ((runSteps xs).run c).2.store.deployments.get? key = c.store.deployments.get? key ∧
          ((runSteps xs).run c).2.store.services.get? key = c.store.services.get? key := by
  intro xs
  induction names generalizing c with
  | nil => exact ⟨rfl, hq, by simp, fun _ _ => ⟨rfl, rfl⟩⟩
  | cons name rest ih =>
    obtain ⟨hn, hnd⟩ := List.nodup_cons.1 hnd
    simp only [xs, List.flatMap_cons]
    cases hres : (buildAllServices kn ns).get? name with
    | none =>
      obtain ⟨e, t, s, f⟩ := ih hnd hq
      refine ⟨e, t, fun n hn' r h => ?_, fun key hk => f key fun n hn' => hk n (.tail _ hn')⟩
      rcases List.mem_cons.1 hn' with rfl | hn'
      · simp [hres] at h
      · exact s n hn' r h
    | some res =>
      obtain ⟨hdn, hsn⟩ := buildAllServices_get? hres
      obtain ⟨c', hrun, t', s', n', fd, fs⟩ := serviceSteps_run_quiet hq ns name res
        (hrt.get? hres) _
      rw [hrun]
      obtain ⟨e, t, s, f⟩ := ih hnd t'
      have hout : ∀ n ∈ rest, (⟨ns, name⟩ : ObjKey) ≠ ⟨ns, n⟩ :=
        fun n hn' h => hn ((ObjKey.mk.inj h).2 ▸ hn')
      refine ⟨e, t, fun n hn' r h => ?_, fun key hk => ?_⟩
      · rcases List.mem_cons.1 hn' with rfl | hn'
        · obtain rfl : r = res := Option.some_injective _ (h.symm.trans hres)
          obtain ⟨hd, hs⟩ := f _ hout
          rw [ServiceResources.Settled, hdn, hsn] at s' ⊢
          rw [hdn] at n'
          exact ⟨by rwa [hd, hs], fun h₀ => hd.trans (n' h₀)⟩
        · have hne : (⟨ns, n⟩ : ObjKey) ≠ ⟨ns, res.deployment.name⟩ :=
            hdn ▸ fun h => hn ((ObjKey.mk.inj h).2 ▸ hn')
          exact ⟨(s n hn' r h).1, fun h₀ => (s n hn' r h).2 (by rwa [fd _ hne])⟩
      · obtain ⟨hd, hs⟩ := f key fun n hn' => hk n (.tail _ hn')
        exact ⟨hd.trans (fd key (hdn ▸ hk name (.head _))),
          hs.trans (fs key (hsn ▸ hk name (.head _)))⟩

/-! ### The stage -/

/-- Undisturbed, stage 6 reports no error and settles the objects of every service it builds,
whatever the store held before, and creates each missing Deployment as the builder makes it. -/
theorem reconcileServices_run_quiet_settles (kn : KubeNova) (hq : c.ticks = [])
    (hrt : ServicesRoundTrip kn kn.meta.namespace) :
    ((reconcileServices kn).run c).1.2 = none ∧ ((reconcileServices kn).run c).2.ticks = [] ∧
      ∀ name res, (buildAllServices kn kn.meta.namespace).get? name = some res →
        res.Settled kn.meta.namespace ((reconcileServices kn).run c).2.store ∧
        (c.store.deployments.get? ⟨kn.meta.namespace, name⟩ = none →
          ((reconcileServices kn).run c).2.store.deployments.get? ⟨kn.meta.namespace, name⟩ =
            some res.deployment.stored) := by
  simp only [reconcileServices, Client.run_bind, mapOrder_run]
  obtain ⟨e, t, s, -⟩ := runSteps_services_run_quiet (c := c) kn kn.meta.namespace
    (c.order.arrange (buildAllServices kn kn.meta.namespace).keys.dedup)
    ((c.order.perm _).nodup_iff.2 (List.nodup_dedup _)) hrt hq
  refine ⟨e, t, fun name res h => s name ?_ res h⟩
  exact (c.order.perm _).mem_iff.2 (List.mem_dedup.2
    (List.mem_map_of_mem Prod.fst (GoMap.mem_entries_of_get? h)))

/-- `kn` pulling its images with the secrets `ps`, every other setting of its registry kept. -/
def KubeNova.withPullSecrets (kn : KubeNova) (ps : List String) : KubeNova :=
  { kn with
    spec := { kn.spec with imageRegistry := some { kn.getImageRegistry with pullSecrets := ps } } }

/-- A backend service's objects with the Deployment pulling with the secrets `ps`. -/
def ServiceResources.withPullSecrets (ps : List String) (res : ServiceResources) :
    ServiceResources :=
  { res with deployment := { res.deployment with
      spec := { res.deployment.spec with imagePullSecrets := ps } } }

/-- Changing the pull secrets changes each backend Deployment's pull secrets, and nothing
else the builders produce. -/
theorem buildAllServices_withPullSecrets (kn : KubeNova) (ps : List String) (ns : String) :
    buildAllServices (kn.withPullSecrets ps) ns =
      (buildAllServices kn ns).map (ServiceResources.withPullSecrets ps) := by
  unfold buildAllServices
  rw [show backendConfigs (kn.withPullSecrets ps) = (backendConfigs kn).map
    (fun cfg => { cfg with registry := { cfg.registry with pullSecrets := ps } }) from rfl]
  suffices ∀ (l : List ServiceCfg) (acc : GoMap String ServiceResources),
      (l.map fun cfg => { cfg with registry := { cfg.registry with pullSecrets := ps } }).foldl
        (fun services cfg =>
          if ServiceConfig.isServiceEnabled cfg.serviceConfig then
            services.insert cfg.name (buildService (kn.withPullSecrets ps) ns cfg)
          else services) (acc.map (ServiceResources.withPullSecrets ps)) =
        (l.foldl (fun services cfg =>
          if ServiceConfig.isServiceEnabled cfg.serviceConfig then
            services.insert cfg.name (buildService kn ns cfg)
          else services) acc).map (ServiceResources.withPullSecrets ps) from this _ GoMap.empty
  intro l
  induction l with
  | nil => exact fun _ => rfl
  | cons cfg l ih =>
    intro acc
    simp only [List.map_cons, List.foldl_cons]
    split
    · exact ih (acc.insert cfg.name (buildService kn ns cfg))
    · exact ih acc

/-- The diff never reads the desired spec's pull secrets. -/
@[simp] theorem deploymentSpecEqual_imagePullSecrets (e d : DeploymentSpec) (ps : List String) :
    deploymentSpecEqual e { d with imagePullSecrets := ps } = deploymentSpecEqual e d := rfl

theorem ServiceResources.Settled.withPullSecrets {res : ServiceResources} {ns : String}
    {s : Store} (ps : List String) (h : res.Settled ns s) :
    (res.withPullSecrets ps).Settled ns s := h

/-- Every backend Deployment the builders produce pulls with the registry's secrets. -/
theorem buildAllServices_imagePullSecrets {kn : KubeNova} {ns : String}
    {e : String × ServiceResources} (he : e ∈ (buildAllServices kn ns).entries) :
    e.2.deployment.spec.imagePullSecrets = kn.getImageRegistry.pullSecrets := by
  obtain ⟨cfg, hcfg, rfl⟩ := mem_buildAllServices he
  simp only [backendConfigs, List.mem_cons, List.not_mem_nil, or_false] at hcfg
  rcases hcfg with rfl | rfl | rfl | rfl | rfl | rfl | rfl <;> rfl

/-- **A change of pull secrets never reaches the backend Deployments.**  Undisturbed, after
stage 6 has created the backend Deployments of a root whose Deployments survive the store's
rewriting, stage 6 for the same root pulling with other secrets writes nothing: the builders
produce Deployments with the new secrets, and the stored ones keep the old. -/
theorem reconcileServices_keeps_stale_pull_secrets (kn : KubeNova) (ps : List String)
    (c : Cluster) (hq : c.ticks = []) (hrt : ServicesRoundTrip kn kn.meta.namespace)
    (hfresh : ∀ e ∈ (buildAllServices kn kn.meta.namespace).entries,
      c.store.deployments.get? ⟨kn.meta.namespace, e.2.deployment.name⟩ = none) :
    (∀ e ∈ (buildAllServices (kn.withPullSecrets ps) kn.meta.namespace).entries,
        e.2.deployment.spec.imagePullSecrets = ps) ∧
      (reconcileServices (kn.withPullSecrets ps)).run ((reconcileServices kn).run c).2 =
        ((setStatusPhase (kn.withPullSecrets ps) .creating "正在部署后端服务", none),
          ((reconcileServices kn).run c).2) ∧
      ∀ name res, (buildAllServices kn kn.meta.namespace).get? name = some res →
        (((reconcileServices kn).run c).2.store.deployments.get?
            ⟨kn.meta.namespace, name⟩).map (·.spec.imagePullSecrets) =
          some kn.getImageRegistry.pullSecrets := by
  obtain ⟨-, t, s⟩ := reconcileServices_run_quiet_settles kn hq hrt
  refine ⟨fun e he => ?_, reconcileServices_run_quiet_of_settled _ t fun name res h => ?_,
    fun name res h => ?_⟩
  · rw [buildAllServices_imagePullSecrets he]; rfl
  · rw [show (kn.withPullSecrets ps).meta.namespace = kn.meta.namespace from rfl,
      buildAllServices_withPullSecrets, GoMap.get?_map] at h
    obtain ⟨res₀, h₀, rfl⟩ := Option.map_eq_some'.1 h
    exact (s name res₀ h₀).1.withPullSecrets ps
  · have he := GoMap.mem_entries_of_get? h
    have hdn : res.deployment.name = name := (buildAllServices_get? h).1
    rw [(s name res h).2 (hdn ▸ hfresh _ he)]
    simpa using buildAllServices_imagePullSecrets he

/-- `sampleRoot` pulling from the default registry with the secret `registry-old`. -/
def pullSecretsRoot : KubeNova := sampleRoot.withPullSecrets ["registry-old"]

/-- From a store without Deployments, stage 6 stores the backend Deployments pulling with
`registry-old`; stage 6 for the root pulling with `registry-new` then writes nothing. -/
theorem reconcileServices_keeps_stale_pull_secrets_pullSecretsRoot :
    validateKubeNova pullSecretsRoot = none ∧
      validateKubeNova (pullSecretsRoot.withPullSecrets ["registry-new"]) = none ∧
      ServicesRoundTrip pullSecretsRoot pullSecretsRoot.meta.namespace ∧
      (reconcileServices (pullSecretsRoot.withPullSecrets ["registry-new"])).run
          ((reconcileServices pullSecretsRoot).run sampleCluster).2 =
        ((setStatusPhase (pullSecretsRoot.withPullSecrets ["registry-new"]) .creating
          "正在部署后端服务", none), ((reconcileServices pullSecretsRoot).run sampleCluster).2) ∧
      (((reconcileServices pullSecretsRoot).run sampleCluster).2.store.deployments.get?
          ⟨"nova", "portal-api"⟩).map (·.spec.imagePullSecrets) = some ["registry-old"] :=
  have hrt : ServicesRoundTrip pullSecretsRoot pullSecretsRoot.meta.namespace := by decide
  have h := reconcileServices_keeps_stale_pull_secrets pullSecretsRoot ["registry-new"]
    sampleCluster rfl hrt (by decide)
  have ⟨res, hres⟩ :
      ∃ res, (buildAllServices pullSecretsRoot "nova").get? "portal-api" = some res :=
    Option.isSome_iff_exists.1 (by decide)
  ⟨by decide, by decide, hrt, h.2.1, h.2.2 "portal-api" res hres⟩

end KubeNovaOperator
