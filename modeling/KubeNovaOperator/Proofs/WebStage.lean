import KubeNovaOperator.Proofs.DataStages

/-!
# Stage 7 on a second run

Stage 7 writes four objects: the nginx ConfigMap (unless the spec names its own), the web
Deployment, the web Service and, in ingress mode, the Ingress.  Each step writes one kind, so
what one step stores the others leave alone (`Keeps`).

* `reconcileWeb_run_quiet_twice`: undisturbed, run a second time on what it left, stage 7
  issues exactly one write, the `Update` of the web Deployment.  The ConfigMap, the Service and
  the Ingress settle in one run; the Deployment never does, since `deploymentSpecEqual` rejects
  every spec against the one `buildWebDeployment` makes (`deploymentSpecEqual_buildWebDeployment`).
* `reconcileWeb_keeps_serviceAccount`: that `Update` writes `spliceWeb`, which, unlike the
  backend tier's `spliceBackend`, does not copy the service account.  A stored web Deployment
  keeps whatever account it has, whoever set it, while stage 6 puts every backend Deployment
  back on `kube-nova-sa`.
-/

namespace KubeNovaOperator

/-! ### Steps that leave a view of the store alone -/

/-- Undisturbed, `x` leaves the view `f` of the store as it is, and the schedule empty. -/
def Keeps {γ β : Type} (f : Store → γ) (x : Client β) : Prop :=
  ∀ c : Cluster, c.ticks = [] → f (x.run c).2.store = f c.store ∧ (x.run c).2.ticks = []

/-- Storing any object of kind `k` under `key` leaves the view `f` as it is. -/
def Kind.Misses {α γ : Type} (k : Kind α) (key : ObjKey) (f : Store → γ) : Prop :=
  ∀ s (a : α), f (k.setObjects s ((k.objects s).insert key a)) = f s

/-- A write under one key misses what the store holds under another. -/
theorem Kind.misses_get? {α : Type} (k : Kind α) {key key' : ObjKey} (h : key' ≠ key) :
    k.Misses key fun s => (k.objects s).get? key' := fun s a => by
  dsimp only
  rw [k.objects_setObjects, GoMap.get?_insert, if_neg h]

section Keeps

variable {α β γ δ : Type} {f : Store → δ}

theorem Keeps.pure (b : β) : Keeps f (pure b : Client β) := fun _ hq => ⟨rfl, hq⟩

theorem Keeps.bind {x : Client β} {g : β → Client γ} (hx : Keeps f x) (hg : ∀ b, Keeps f (g b)) :
    Keeps f (x >>= g) := fun c hq =>
  have ⟨h₁, t₁⟩ := hx c hq
  have ⟨h₂, t₂⟩ := hg _ _ t₁
  ⟨h₂.trans h₁, t₂⟩

/-- What leaves a view alone leaves every function of it alone. -/
theorem Keeps.comp {x : Client β} (g : δ → γ) (hx : Keeps f x) : Keeps (g ∘ f) x := fun c hq =>
  ⟨congrArg g (hx c hq).1, (hx c hq).2⟩

theorem getObject_keeps (k : Kind α) (key : ObjKey) : Keeps f (getObject k key) :=
  fun c hq => by
    rw [getObject_run_quiet hq]
    exact ⟨rfl, hq⟩

theorem mapOrder_keeps : Keeps f mapOrder := fun _ hq => ⟨rfl, hq⟩

variable {k : Kind α} {key : ObjKey} (hk : k.Misses key f)
include hk

theorem createObject_keeps (a : α) : Keeps f (createObject k key a) :=
  fun c hq => by
    rw [createObject_run_quiet hq]
    split
    exacts [⟨rfl, hq⟩, ⟨hk _ _, hq⟩]

theorem updateObject_keeps (a : α) : Keeps f (updateObject k key a) :=
  fun c hq => by
    rw [updateObject_run_quiet hq]
    split
    exacts [⟨hk _ _, hq⟩, ⟨rfl, hq⟩]

theorem ensureCreated_keeps (obj : α) (createMsg getMsg : String) :
    Keeps f (ensureCreated k key obj createMsg getMsg) := by
  refine (getObject_keeps k key).bind fun r => ?_
  rcases r with (_ | _ | _ | _ | _) | _
  · exact (createObject_keeps hk obj).bind fun r => by
      rcases r with _ | _ <;> exact Keeps.pure _
  all_goals exact Keeps.pure _

theorem ensureData_keeps (obj : α) (data : α → GoMap String String)
    (setData : α → GoMap String String → α) (createMsg getMsg updateMsg : String) :
    Keeps f (ensureData k key obj data setData createMsg getMsg updateMsg) := by
  refine (getObject_keeps k key).bind fun r => ?_
  rcases r with (_ | _ | _ | _ | _) | existing
  · exact (createObject_keeps hk obj).bind fun r => by
      rcases r with _ | _ <;> exact Keeps.pure _
  iterate 4 exact Keeps.pure _
  · dsimp only
    split
    · exact Keeps.pure _
    · exact (updateObject_keeps hk _).bind fun r => by
        rcases r with _ | _ <;> exact Keeps.pure _

end Keeps

theorem ensureDeployment_keeps {γ : Type} {f : Store → γ} {key : ObjKey}
    (hk : Kind.deployment.Misses key f) (desired : Deployment)
    (splice : DeploymentSpec → DeploymentSpec → DeploymentSpec) (msgs : DeploymentMsgs) :
    Keeps f (ensureDeployment key desired splice msgs) := by
  refine (getObject_keeps _ key).bind fun r => ?_
  rcases r with (_ | _ | _ | _ | _) | existing
  · exact (createObject_keeps hk desired).bind fun r => by
      rcases r with _ | _ <;> exact Keeps.pure _
  iterate 4 exact Keeps.pure _
  · dsimp only
    split
    · exact Keeps.pure _
    · refine (getObject_keeps _ key).bind fun r => ?_
      rcases r with _ | latest
      · exact Keeps.pure _
      · exact (updateObject_keeps hk _).bind fun r => by
          rcases r with _ | _ <;> exact Keeps.pure _

theorem runSteps_keeps {γ : Type} {f : Store → γ} {xs : List (Client (Option String))}
    (h : ∀ x ∈ xs, Keeps f x) : Keeps f (runSteps xs) := by
  induction xs with
  | nil => exact Keeps.pure _
  | cons x xs ih =>
    refine (h x (.head _)).bind fun r => ?_
    rcases r with _ | _
    · exact ih fun x hx => h x (.tail _ hx)
    · exact Keeps.pure _

/-! ### Around a Deployment step -/

section Around

variable {c : Cluster} {pre post : List (Client (Option String))} {key : ObjKey}
  {desired : Deployment} {splice : DeploymentSpec → DeploymentSpec → DeploymentSpec}
  {msgs : DeploymentMsgs}

/-- Undisturbed, a step that moves the view `f` from `a` to `b`, between steps that report no
error and leave `f` alone, moves the steps' view from `a` to `b`. -/
theorem runSteps_sets_view {γ : Type} {f : Store → γ} {a b : γ} {x : Client (Option String)}
    (hpre : ∀ y ∈ pre, QuietOk y ∧ Keeps f y)
    (hx : ∀ c : Cluster, c.ticks = [] → f c.store = a →
      (x.run c).1 = none ∧ (x.run c).2.ticks = [] ∧ f (x.run c).2.store = b)
    (hpost : ∀ y ∈ post, Keeps f y) (hq : c.ticks = []) (ha : f c.store = a) :
    f ((runSteps (pre ++ x :: post)).run c).2.store = b := by
  induction pre generalizing c with
  | nil =>
    obtain ⟨h₁, t₁, hb⟩ := hx c hq ha
    rw [List.nil_append, runSteps_cons_run_of_none h₁]
    exact (runSteps_keeps hpost _ t₁).1.trans hb
  | cons y ys ih =>
    obtain ⟨hy, hk⟩ := hpre y (.head _)
    obtain ⟨h₁, t₁⟩ := hy c hq
    rw [List.cons_append, runSteps_cons_run_of_none h₁]
    exact ih (fun y hy => hpre y (.tail _ hy)) t₁ ((hk c hq).1.trans ha)

/-- Undisturbed, a Deployment step whose comparison always fails, between steps that report no
error and leave the Deployments alone, leaves the stored Deployment spliced. -/
theorem runSteps_splices_deployment (hpre : ∀ x ∈ pre, QuietOk x ∧ Keeps Kind.deployment.objects x)
    (hpost : ∀ x ∈ post, Keeps Kind.deployment.objects x)
    (hne : ∀ d : Deployment, deploymentSpecEqual d.spec desired.spec = false) (hq : c.ticks = [])
    {d : Deployment} (hd : c.store.deployments.get? key = some d) :
    ((runSteps (pre ++ ensureDeployment key desired splice msgs :: post)).run
        c).2.store.deployments.get? key =
      some (Deployment.stored { d with spec := splice d.spec desired.spec }) :=
  runSteps_sets_view (f := fun s => s.deployments.get? key)
    (fun x hx => ⟨(hpre x hx).1, (hpre x hx).2.comp (GoMap.get? · key)⟩)
    (fun c hq hd => by
      rw [ensureDeployment_run_quiet_of_differ hq hd desired splice msgs (hne d)]
      exact ⟨rfl, hq, by simp⟩)
    (fun x hx => (hpost x hx).comp (GoMap.get? · key)) hq hd

/-- Undisturbed, when the steps before a Deployment step that finds a difference write
nothing, and so do the steps after it, the steps issue exactly the Update of that
Deployment. -/
theorem runSteps_run_quiet_updates_only (hpre : ∀ x ∈ pre, x.run c = (none, c))
    (hq : c.ticks = []) {d : Deployment} (hd : c.store.deployments.get? key = some d)
    (hne : deploymentSpecEqual d.spec desired.spec = false)
    (hpost : ∀ x ∈ post, x.run { c with
        store := { c.store with
          deployments := c.store.deployments.insert key
            (Deployment.stored { d with spec := splice d.spec desired.spec }) }
        log := .update .deployment key :: c.log } = (none, { c with
        store := { c.store with
          deployments := c.store.deployments.insert key
            (Deployment.stored { d with spec := splice d.spec desired.spec }) }
        log := .update .deployment key :: c.log })) :
    (runSteps (pre ++ ensureDeployment key desired splice msgs :: post)).run c = (none, { c with
        store := { c.store with
          deployments := c.store.deployments.insert key
            (Deployment.stored { d with spec := splice d.spec desired.spec }) }
        log := .update .deployment key :: c.log }) := by
  have hrun := ensureDeployment_run_quiet_of_differ hq hd desired splice msgs hne
  rw [runSteps_append_run_of_none (by rw [runSteps_run_of_noop hpre]), runSteps_run_of_noop hpre,
    runSteps_cons_run_of_none (by rw [hrun]), hrun, runSteps_run_of_noop hpost]

end Around

/-! ### Stage 7 -/

/-- Undisturbed, stage 7 writes a stored web Deployment back as `spliceWeb` makes it. -/
theorem reconcileWeb_run_quiet_web_deployment (kn : KubeNova) (c : Cluster) (hq : c.ticks = [])
    {d : Deployment}
    (hd : c.store.deployments.get? ⟨kn.meta.namespace, "kube-nova-web"⟩ = some d) :
    ((reconcileWeb kn).run c).2.store.deployments.get? ⟨kn.meta.namespace, "kube-nova-web"⟩ =
      some (Deployment.stored
        { d with spec := spliceWeb d.spec (buildWebDeployment kn kn.meta.namespace).spec }) := by
  unfold reconcileWeb
  dsimp only
  rw [List.append_assoc, List.cons_append, List.cons_append, List.nil_append]
  refine runSteps_splices_deployment ?_ ?_
    (fun d => deploymentSpecEqual_buildWebDeployment d.spec _ _) hq hd
  · cases (buildWebResources kn kn.meta.namespace).nginxConfigMap
    · simp
    · simpa using ⟨ensureData_quietOk _ _ _ _ _ _ _ _,
        ensureData_keeps (fun _ _ => rfl) _ _ _ _ _ _⟩
  · cases (buildWebResources kn kn.meta.namespace).ingress
    · simpa using ensureCreated_keeps (fun _ _ => rfl) _ _ _
    · simpa using ⟨ensureCreated_keeps (fun _ _ => rfl) _ _ _,
        ensureCreated_keeps (fun _ _ => rfl) _ _ _⟩

/-- **Stage 7 never restores the web Deployment's service account**: undisturbed, it writes a
stored web Deployment back with `spliceWeb`, which, unlike `spliceBackend`, does not copy the
service account, so the account stays whatever it was, whoever set it. -/
theorem reconcileWeb_keeps_serviceAccount (kn : KubeNova) (c : Cluster) (hq : c.ticks = [])
    {d : Deployment}
    (hd : c.store.deployments.get? ⟨kn.meta.namespace, "kube-nova-web"⟩ = some d) :
    ∃ d', ((reconcileWeb kn).run c).2.store.deployments.get?
        ⟨kn.meta.namespace, "kube-nova-web"⟩ = some d' ∧
      d'.spec.serviceAccountName = d.spec.serviceAccountName :=
  ⟨_, reconcileWeb_run_quiet_web_deployment kn c hq hd, rfl⟩

/-- `sampleRoot`'s web Deployment, moved by another party onto the account `default-admin`. -/
def foreignAccountWeb : Deployment :=
  { buildWebDeployment sampleRoot "nova" with
    spec := { (buildWebDeployment sampleRoot "nova").spec with
      serviceAccountName := "default-admin" } }

/-- `sampleCluster` with that web Deployment stored. -/
def foreignAccountCluster : Cluster :=
  { sampleCluster with
    store := { sampleCluster.store with
      deployments := GoMap.empty.insert ⟨"nova", "kube-nova-web"⟩ foreignAccountWeb } }

theorem reconcileWeb_keeps_serviceAccount_foreignAccount :
    foreignAccountCluster.ticks = [] ∧
      foreignAccountCluster.store.deployments.get? ⟨sampleRoot.meta.namespace, "kube-nova-web"⟩ =
        some foreignAccountWeb ∧
      ∃ d', ((reconcileWeb sampleRoot).run foreignAccountCluster).2.store.deployments.get?
          ⟨sampleRoot.meta.namespace, "kube-nova-web"⟩ = some d' ∧
        d'.spec.serviceAccountName = foreignAccountWeb.spec.serviceAccountName :=
  have hd : foreignAccountCluster.store.deployments.get?
      ⟨sampleRoot.meta.namespace, "kube-nova-web"⟩ = some foreignAccountWeb := rfl
  ⟨rfl, hd, reconcileWeb_keeps_serviceAccount _ _ rfl hd⟩

/-- Undisturbed, stage 7 stores its nginx ConfigMap with the desired data. -/
theorem reconcileWeb_run_quiet_nginx (kn : KubeNova) (c : Cluster) (hq : c.ticks = [])
    {cm : ConfigMap} (hcm : (buildWebResources kn kn.meta.namespace).nginxConfigMap = some cm) :
    ∃ a, ((reconcileWeb kn).run c).2.store.configMaps.get? ⟨kn.meta.namespace, cm.name⟩ =
      some a ∧ a.data.Equiv cm.data := by
  obtain ⟨h₁, t₁, ⟨a, ha, he⟩, -⟩ := ensureData_run_quiet (c := c) Kind.configMap
    ⟨kn.meta.namespace, cm.name⟩ cm ConfigMap.data (fun c d => { c with data := d })
    "创建 Web ConfigMap 失败: " "获取 Web ConfigMap 失败: " "更新 Web ConfigMap 失败: " hq
    (fun _ _ => rfl) fun _ => rfl
  unfold reconcileWeb
  dsimp only
  rw [hcm, Option.map_some', Option.toList_some, List.singleton_append, List.cons_append,
    runSteps_cons_run_of_none h₁]
  refine ⟨a, (congrArg (GoMap.get? · _)
    (runSteps_keeps (f := Kind.configMap.objects) ?_ _ t₁).1).trans ha, he⟩
  simp only [List.mem_cons, List.mem_append, Option.mem_toList, Option.mem_def,
    Option.map_eq_some']
  rintro x ((rfl | rfl | h) | ⟨ing, -, rfl⟩)
  · exact ensureDeployment_keeps (by exact fun _ _ => rfl) _ _ _
  · exact ensureCreated_keeps (by exact fun _ _ => rfl) _ _ _
  · simp at h
  · exact ensureCreated_keeps (by exact fun _ _ => rfl) _ _ _

/-- Undisturbed, stage 7 on a store that holds its nginx ConfigMap with the desired data and
every object it builds issues exactly one write, the `Update` of the web Deployment. -/
theorem reconcileWeb_run_quiet_of_stored (kn : KubeNova) {c : Cluster} (hq : c.ticks = [])
    (hcm : ∀ cm, (buildWebResources kn kn.meta.namespace).nginxConfigMap = some cm →
      ∃ a, c.store.configMaps.get? ⟨kn.meta.namespace, cm.name⟩ = some a ∧ a.data.Equiv cm.data)
    (hp : AllPresent (webObjects kn) c.store) :
    ∃ d, c.store.deployments.get? ⟨kn.meta.namespace, "kube-nova-web"⟩ = some d ∧
      (reconcileWeb kn).run c = (none, { c with
        store := { c.store with
          deployments := c.store.deployments.insert ⟨kn.meta.namespace, "kube-nova-web"⟩
            (Deployment.stored
              { d with spec := spliceWeb d.spec (buildWebDeployment kn kn.meta.namespace).spec }) }
        log := .update .deployment ⟨kn.meta.namespace, "kube-nova-web"⟩ :: c.log }) := by
  obtain ⟨d, hd⟩ := Option.isSome_iff_exists.1
    (hp (.deployment, ⟨kn.meta.namespace, "kube-nova-web"⟩)
      (List.mem_append_left _ (List.mem_append_right _ (.head _))))
  have hsvc := hp (.service, ⟨kn.meta.namespace, (buildWebService kn kn.meta.namespace).name⟩)
    (List.mem_append_left _ (List.mem_append_right _ (.tail _ (.head _))))
  dsimp only at hd hsvc
  refine ⟨d, hd, ?_⟩
  unfold reconcileWeb
  dsimp only
  rw [show (buildWebResources kn kn.meta.namespace).deployment =
      buildWebDeployment kn kn.meta.namespace from rfl,
    show (buildWebDeployment kn kn.meta.namespace).name = "kube-nova-web" from rfl,
    List.append_assoc, List.cons_append, List.cons_append, List.nil_append,
    runSteps_run_quiet_updates_only ?_ hq hd (deploymentSpecEqual_buildWebDeployment _ _ _) ?_]
  · cases h : (buildWebResources kn kn.meta.namespace).nginxConfigMap with
    | none => simp
    | some cm =>
      obtain ⟨a, ha, he⟩ := hcm cm h
      simpa using ensureData_run_quiet_of_equiv Kind.configMap _ cm ConfigMap.data _ _ _ _ hq ha he
  · simp only [List.mem_cons, List.mem_append, Option.mem_toList, Option.mem_def,
      Option.map_eq_some']
    rintro x (rfl | ⟨ing, hing, rfl⟩)
    · exact ensureCreated_run_quiet_of_stored (by exact hq) Kind.service _ _ _ _
        (by exact (Kind.service.present_eq _ _).symm.trans hsvc)
    · have hi := hp (.ingress, ⟨kn.meta.namespace, ing.name⟩)
        (List.mem_append_right _ (by simp [hing]))
      exact ensureCreated_run_quiet_of_stored (by exact hq) Kind.ingress _ _ _ _
        (by exact (Kind.ingress.present_eq _ _).symm.trans hi)

/-- **Run a second time, stage 7 issues exactly one write, the Update of the web
Deployment**: undisturbed, the first run succeeds and leaves the nginx ConfigMap, the Service
and the Ingress as the second run wants them, while `deploymentSpecEqual` never accepts the
web Deployment. -/
theorem reconcileWeb_run_quiet_twice (kn : KubeNova) (c : Cluster) (hq : c.ticks = []) :
    ((reconcileWeb kn).run c).1 = none ∧
      ((reconcileWeb kn).run ((reconcileWeb kn).run c).2).1 = none ∧
      ((reconcileWeb kn).run ((reconcileWeb kn).run c).2).2.log =
        .update .deployment ⟨kn.meta.namespace, "kube-nova-web"⟩ ::
          ((reconcileWeb kn).run c).2.log := by
  obtain ⟨r₁, t₁⟩ := reconcileWeb_quietOk kn c hq
  obtain ⟨d, -, hrun⟩ := reconcileWeb_run_quiet_of_stored kn t₁
    (fun cm h => reconcileWeb_run_quiet_nginx kn c hq h)
    ((reconcileWeb_ensures kn _ stable_true c trivial).2 r₁)
  rw [hrun]
  exact ⟨r₁, rfl, rfl⟩

theorem reconcileWeb_run_quiet_twice_sample :
    sampleCluster.ticks = [] ∧
      ((reconcileWeb sampleRoot).run sampleCluster).1 = none ∧
      ((reconcileWeb sampleRoot).run ((reconcileWeb sampleRoot).run sampleCluster).2).1 = none ∧
      ((reconcileWeb sampleRoot).run ((reconcileWeb sampleRoot).run sampleCluster).2).2.log =
        .update .deployment ⟨sampleRoot.meta.namespace, "kube-nova-web"⟩ ::
          ((reconcileWeb sampleRoot).run sampleCluster).2.log :=
  ⟨rfl, reconcileWeb_run_quiet_twice _ _ rfl⟩

end KubeNovaOperator
