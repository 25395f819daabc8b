import KubeNovaOperator.Proofs.Presence
import KubeNovaOperator.Proofs.PodSpecs

/-!
# Second passes

What a pass writes once the store already holds what an earlier pass stored.

* The Deployment step writes nothing when `deploymentSpecEqual` accepts the stored spec
  (`ensureDeployment_run_quiet_of_equal`), and rewrites the stored Deployment otherwise
  (`ensureDeployment_run_quiet_of_differ`).
* A backend Deployment compares equal to itself, so stage 6 writes nothing once the backend
  objects are stored as the builders make them (`reconcileServices_run_quiet_of_built`).
* `deploymentSpecEqual` never accepts the web Deployment the builder produces
  (`deploymentSpecEqual_buildWebDeployment`), so the web Deployment is updated on every
  pass: of two undisturbed runs of stages 1–7, the second issues an `Update` of it
  (`runStages_twice_updates_web_deployment`).

The writes a run issues are the log it produces from an empty log; a step only adds to the
log (`LogGrows`).
-/

namespace KubeNovaOperator

/-! ### The log only grows -/

/-- `x` only adds to the log. -/
def LogGrows {α : Type} (x : Client α) : Prop := ∀ c : Cluster, c.log <:+ (x.run c).2.log

theorem LogGrows.pure {α : Type} (a : α) : LogGrows (pure a : Client α) :=
  fun _ => List.suffix_refl _

theorem LogGrows.bind {α β : Type} {x : Client α} {f : α → Client β} (hx : LogGrows x)
    (hf : ∀ a, LogGrows (f a)) : LogGrows (x >>= f) :=
  fun c => (hx c).trans (hf (x.run c).1 (x.run c).2)

theorem call_logGrows {α : Type} (logged : Option Op) (op : Store → Except ApiError (α × Store)) :
    LogGrows (call logged op) := by
  intro c
  have h : c.log <:+ logged.elim c.log (· :: c.log) := by
    cases logged
    · exact List.suffix_refl _
    · exact List.suffix_cons _ _
  show c.log <:+ (call logged op c).2.log
  unfold call
  dsimp only
  split <;> (try split) <;> exact h

theorem ensureCreated_logGrows {α : Type} (k : Kind α) (key : ObjKey) (obj : α)
    (createMsg getMsg : String) : LogGrows (ensureCreated k key obj createMsg getMsg) := by
  refine (call_logGrows _ _).bind fun r => ?_
  rcases r with (_ | _ | _ | _ | _) | _
  · exact (call_logGrows _ _).bind fun r => by rcases r with _ | _ <;> exact LogGrows.pure _
  iterate 5 exact LogGrows.pure _

theorem runSteps_logGrows {xs : List (Client (Option String))} (h : ∀ x ∈ xs, LogGrows x) :
    LogGrows (runSteps xs) := by
  induction xs with
  | nil => exact LogGrows.pure _
  | cons x xs ih =>
    refine (h x (.head _)).bind fun r => ?_
    rcases r with _ | _
    · exact ih fun x hx => h x (.tail _ hx)
    · exact LogGrows.pure _

/-! ### Steps over stored objects -/

variable {c : Cluster}

theorem ensureCreated_run_quiet_of_stored {α : Type} (hq : c.ticks = []) (k : Kind α)
    (key : ObjKey) (obj : α) (createMsg getMsg : String)
    (h : ((k.objects c.store).get? key).isSome) :
    (ensureCreated k key obj createMsg getMsg).run c = (none, c) := by
  obtain ⟨a, ha⟩ := Option.isSome_iff_exists.1 h
  simp only [ensureCreated, Client.run_bind, getObject_run_quiet hq, ha]
  rfl

/-- A stored Deployment that `deploymentSpecEqual` accepts is left as it is. -/
theorem ensureDeployment_run_quiet_of_equal (hq : c.ticks = []) {key : ObjKey} {d : Deployment}
    (h : c.store.deployments.get? key = some d) (desired : Deployment)
    (splice : DeploymentSpec → DeploymentSpec → DeploymentSpec) (msgs : DeploymentMsgs)
    (heq : deploymentSpecEqual d.spec desired.spec = true) :
    (ensureDeployment key desired splice msgs).run c = (none, c) := by
  simp only [ensureDeployment, Client.run_bind, getObject_run_quiet hq]
  simp only [Kind.deployment_objects, h, Option.elim, heq, if_true]
  rfl

/-- A stored Deployment that `deploymentSpecEqual` rejects is re-read and updated. -/
theorem ensureDeployment_run_quiet_of_differ (hq : c.ticks = []) {key : ObjKey} {d : Deployment}
    (h : c.store.deployments.get? key = some d) (desired : Deployment)
    (splice : DeploymentSpec → DeploymentSpec → DeploymentSpec) (msgs : DeploymentMsgs)
    (hne : deploymentSpecEqual d.spec desired.spec = false) :
    (ensureDeployment key desired splice msgs).run c =
      (none, { c with
        store := { c.store with
          deployments := c.store.deployments.insert key
            (Deployment.stored { d with spec := splice d.spec desired.spec }) }
        log := .update .deployment key :: c.log }) := by
  simp only [ensureDeployment, Client.run_bind, getObject_run_quiet hq]
  simp only [Kind.deployment_objects, h, Option.elim, hne, Bool.false_eq_true, if_false,
    Client.run_bind,
    getObject_run_quiet hq, updateObject_run_quiet hq, Option.isSome_some, if_true]
  rfl

theorem runSteps_run_of_noop {xs : List (Client (Option String))}
    (h : ∀ x ∈ xs, x.run c = (none, c)) : (runSteps xs).run c = (none, c) := by
  induction xs with
  | nil => rfl
  | cons x xs ih =>
    simp only [runSteps, Client.run_bind, h x (.head _)]
    exact ih fun x hx => h x (.tail _ hx)

@[simp] theorem mapOrder_run (c : Cluster) : mapOrder.run c = (c.order, c) := rfl

/-! ### Pull secrets -/

/-- A backend service's objects as stage 6 leaves them: its Deployment stored with a spec
`deploymentSpecEqual` accepts, and its Service stored. -/
def ServiceResources.Settled (res : ServiceResources) (ns : String) (s : Store) : Prop :=
  (s.deployments.get? ⟨ns, res.deployment.name⟩).any
      (fun d => deploymentSpecEqual d.spec res.deployment.spec) ∧
    (s.services.get? ⟨ns, res.service.name⟩).isSome

/-- Stage 6 writes nothing, undisturbed, when the objects of every service it looks up are
settled. -/
theorem reconcileServices_run_quiet_of_settled (kn : KubeNova) (hq : c.ticks = [])
    (hs : ∀ name res, (buildAllServices kn kn.meta.namespace).get? name = some res →
      res.Settled kn.meta.namespace c.store) :
    (reconcileServices kn).run c = ((setStatusPhase kn .creating "正在部署后端服务", none), c) := by
  simp only [reconcileServices, Client.run_bind, mapOrder_run]
  rw [runSteps_run_of_noop]
  · rfl
  intro x hx
  obtain ⟨name, -, hx⟩ := List.mem_flatMap.1 hx
  split at hx
  · rename_i res hres
    obtain ⟨hd, hsv⟩ := hs _ _ hres
    simp only [serviceSteps, List.mem_cons, List.not_mem_nil, or_false] at hx
    rcases hx with rfl | rfl
    · cases hget : c.store.deployments.get? ⟨kn.meta.namespace, res.deployment.name⟩ with
      | none => simp [hget] at hd
      | some d =>
        simp only [hget, Option.any_some] at hd
        exact ensureDeployment_run_quiet_of_equal hq hget _ _ _ hd
    · exact ensureCreated_run_quiet_of_stored hq _ _ _ _ _ hsv
  · simp at hx

/-- Stage 6 writes nothing, undisturbed, when every enabled service's Deployment is stored
with a spec `deploymentSpecEqual` accepts and its Service is stored. -/
theorem reconcileServices_run_quiet_of_stored (kn : KubeNova) (hq : c.ticks = [])
    (hs : ∀ e ∈ (buildAllServices kn kn.meta.namespace).entries,
      (c.store.deployments.get? ⟨kn.meta.namespace, e.2.deployment.name⟩).any
          (fun d => deploymentSpecEqual d.spec e.2.deployment.spec) ∧
        (c.store.services.get? ⟨kn.meta.namespace, e.2.service.name⟩).isSome) :
    (reconcileServices kn).run c = ((setStatusPhase kn .creating "正在部署后端服务", none), c) :=
  reconcileServices_run_quiet_of_settled kn hq fun _ _ h => hs _ (GoMap.mem_entries_of_get? h)

/-- The Deployments and Services of the enabled services, as the store keeps them once
created: the Deployments in the API server's canonical form. -/
def servicesStored (kn : KubeNova) : Cluster :=
  let services := buildAllServices kn "nova"
  { store :=
      { kubeNovas := GoMap.empty.insert kn.key kn, namespaces := ["nova"]
        deployments := ⟨services.entries.map fun e =>
          (⟨"nova", e.2.deployment.name⟩, Deployment.stored e.2.deployment)⟩
        services := ⟨services.entries.map fun e => (⟨"nova", e.2.service.name⟩, e.2.service)⟩ } }

/-- **Undisturbed, stage 6 writes nothing once every enabled service's Deployment is stored
as the builder makes it and its Service is stored**: a backend Deployment, which mounts each
volume once, compares equal to itself. -/
theorem reconcileServices_run_quiet_of_built (kn : KubeNova) (hq : c.ticks = [])
    (hs : ∀ e ∈ (buildAllServices kn kn.meta.namespace).entries,
      c.store.deployments.get? ⟨kn.meta.namespace, e.2.deployment.name⟩ = some e.2.deployment ∧
        (c.store.services.get? ⟨kn.meta.namespace, e.2.service.name⟩).isSome) :
    (reconcileServices kn).run c = ((setStatusPhase kn .creating "正在部署后端服务", none), c) := by
  refine reconcileServices_run_quiet_of_stored kn hq fun e he => ⟨?_, (hs e he).2⟩
  rw [(hs e he).1, Option.any_some]
  obtain ⟨cfg, -, rfl⟩ := mem_buildAllServices he
  exact deploymentSpecEqual_self _ (buildService_mountNames_nodup _ _ _)

theorem reconcileServices_run_quiet_of_built_sampleRoot :
    (servicesStored sampleRoot).ticks = [] ∧
      (∀ e ∈ (buildAllServices sampleRoot sampleRoot.meta.namespace).entries,
        (servicesStored sampleRoot).store.deployments.get?
            ⟨sampleRoot.meta.namespace, e.2.deployment.name⟩ = some e.2.deployment ∧
          ((servicesStored sampleRoot).store.services.get?
            ⟨sampleRoot.meta.namespace, e.2.service.name⟩).isSome) ∧
      (reconcileServices sampleRoot).run (servicesStored sampleRoot) =
        ((setStatusPhase sampleRoot .creating "正在部署后端服务", none), servicesStored sampleRoot) :=
  have hs : ∀ e ∈ (buildAllServices sampleRoot sampleRoot.meta.namespace).entries,
      (servicesStored sampleRoot).store.deployments.get?
          ⟨sampleRoot.meta.namespace, e.2.deployment.name⟩ = some e.2.deployment ∧
        ((servicesStored sampleRoot).store.services.get?
          ⟨sampleRoot.meta.namespace, e.2.service.name⟩).isSome := by decide
  ⟨rfl, hs, reconcileServices_run_quiet_of_built _ rfl hs⟩

/-! ### The web Deployment -/

theorem runSteps_cons_run_of_none {x : Client (Option String)} {xs : List (Client (Option String))}
    (h : (x.run c).1 = none) : (runSteps (x :: xs)).run c = (runSteps xs).run (x.run c).2 := by
  simp only [runSteps, Client.run_bind, h]

theorem runSteps_append_run_of_none {xs ys : List (Client (Option String))}
    (h : ((runSteps xs).run c).1 = none) :
    (runSteps (xs ++ ys)).run c = (runSteps ys).run ((runSteps xs).run c).2 := by
  rw [runSteps_append, Client.run_bind, h]

/-- Undisturbed, steps that report no error and keep every stable property, then a
Deployment step whose comparison always fails, issue an `Update` of a stored Deployment. -/
theorem runSteps_logs_update {pre post : List (Client (Option String))}
    (hpre : ∀ x ∈ pre, QuietOk x ∧ Frames x) (hpost : ∀ x ∈ post, LogGrows x) {key : ObjKey}
    {desired : Deployment} {splice : DeploymentSpec → DeploymentSpec → DeploymentSpec}
    {msgs : DeploymentMsgs}
    (hne : ∀ d : Deployment, deploymentSpecEqual d.spec desired.spec = false)
    (hq : c.ticks = []) (hd : c.store.present .deployment key) :
    .update .deployment key ∈
      ((runSteps (pre ++ ensureDeployment key desired splice msgs :: post)).run c).2.log := by
  induction pre generalizing c with
  | nil =>
    obtain ⟨d, hget⟩ := Option.isSome_iff_exists.1 hd
    have hrun := ensureDeployment_run_quiet_of_differ hq hget desired splice msgs (hne d)
    rw [List.nil_append, runSteps_cons_run_of_none (by rw [hrun]), hrun]
    exact (runSteps_logGrows hpost _).subset (List.mem_cons_self _ _)
  | cons x xs ih =>
    obtain ⟨⟨h1, h2⟩, hf⟩ := And.imp_left (· c hq) (hpre x (.head _))
    rw [List.cons_append, runSteps_cons_run_of_none h1]
    exact ih (fun x hx => hpre x (.tail _ hx)) h2 (hf _ (present_stable _ _) c hd)

/-- **Stage 7 updates a stored web Deployment**, whatever it holds. -/
theorem reconcileWeb_updates_web_deployment (kn : KubeNova) (hq : c.ticks = [])
    (hd : c.store.present .deployment ⟨kn.meta.namespace, "kube-nova-web"⟩) :
    .update .deployment ⟨kn.meta.namespace, "kube-nova-web"⟩ ∈ ((reconcileWeb kn).run c).2.log := by
  unfold reconcileWeb
  dsimp only
  rw [List.append_assoc, List.cons_append, List.cons_append, List.nil_append]
  refine runSteps_logs_update ?_ ?_ (fun d => deploymentSpecEqual_buildWebDeployment d.spec _ _)
    hq hd
  · cases (buildWebResources kn kn.meta.namespace).nginxConfigMap <;>
      simp [ensureData_quietOk, (ensureData_ensures _ _ _ _ _ _ _ _).frames]
  · cases (buildWebResources kn kn.meta.namespace).ingress <;> simp [ensureCreated_logGrows]

/-! ### Two runs of stages 1–7 -/

@[simp] theorem Store.namespaces_commitRoot (s : Store) (key : ObjKey) (r : KubeNova) :
    (s.commitRoot key r).2.namespaces = s.namespaces := by
  simp only [Store.commitRoot]; split <;> rfl

theorem ExtEvent.namespaces_apply (s : Store) (e : ExtEvent) :
    (e.apply s).namespaces = s.namespaces := by
  cases e <;> simp only [ExtEvent.apply] <;> split <;> (try split) <;> simp

/-- No one creates or deletes a namespace. -/
theorem namespace_stable (ns : String) : Stable fun s => ns ∈ s.namespaces := by
  rintro s _ (⟨_, e⟩ | ⟨_, k, key, a⟩) h
  · rwa [ExtEvent.namespaces_apply]
  · rwa [k.namespaces_setObjects]

theorem andThen_pure_run_snd {x : Client (Option String)} (kn : KubeNova) (pre : String)
    (a : KubeNova × Option (String × String)) :
    ((andThen kn pre x (pure a)).run c).2 = (x.run c).2 := by
  simp only [andThen, Client.run_bind]; split <;> rfl

/-- **Of two undisturbed runs of stages 1–7, both succeed and the second issues an `Update`
of the web Deployment**, for every valid root whose namespace exists. -/
theorem runStages_twice_updates_web_deployment (kn : KubeNova) (c : Cluster) (hq : c.ticks = [])
    (hv : validateKubeNova kn = none) (hns : kn.meta.namespace ∈ c.store.namespaces) :
    ((runStages kn).run c).1.2 = none ∧
      ((runStages kn).run { ((runStages kn).run c).2 with log := [] }).1.2 = none ∧
      .update .deployment ⟨kn.meta.namespace, "kube-nova-web"⟩ ∈
        ((runStages kn).run { ((runStages kn).run c).2 with log := [] }).2.log := by
  obtain ⟨n1, t1⟩ := runStages_run_quiet kn hq hv hns
  have hns1 := (runStages_ensures kn _ (namespace_stable _) c hns).1
  have hweb : ((runStages kn).run c).2.store.present .deployment
      ⟨kn.meta.namespace, "kube-nova-web"⟩ :=
    (runStages_ensures kn _ stable_true c trivial).2 n1 (.deployment, ⟨kn.meta.namespace, _⟩)
      (List.mem_append_right _ (List.mem_append_left _ (List.mem_append_right _ (.head _))))
  obtain ⟨n2, -⟩ := runStages_run_quiet (c := { ((runStages kn).run c).2 with log := [] }) kn t1
    hv hns1
  obtain ⟨c', kn', t', hm, hP, he⟩ :=
    runStages_run_quiet_eq (c := { ((runStages kn).run c).2 with log := [] }) kn t1 hv hns1
  refine ⟨n1, n2, ?_⟩
  rw [he, andThen_pure_run_snd, ← hm]
  exact reconcileWeb_updates_web_deployment kn' t' (hm ▸ hP _ (present_stable _ _) hweb)

theorem runStages_twice_updates_web_deployment_sample :
    sampleCluster.ticks = [] ∧ validateKubeNova sampleRoot = none ∧
      sampleRoot.meta.namespace ∈ sampleCluster.store.namespaces ∧
      ((runStages sampleRoot).run sampleCluster).1.2 = none ∧
      ((runStages sampleRoot).run
          { ((runStages sampleRoot).run sampleCluster).2 with log := [] }).1.2 = none ∧
      .update .deployment ⟨sampleRoot.meta.namespace, "kube-nova-web"⟩ ∈
        ((runStages sampleRoot).run
          { ((runStages sampleRoot).run sampleCluster).2 with log := [] }).2.log :=
  ⟨rfl, by decide, by decide,
    runStages_twice_updates_web_deployment sampleRoot sampleCluster rfl (by decide) (by decide)⟩

end KubeNovaOperator
