import KubeNovaOperator.Proofs.StatusWrites

/-!
# Runs that nothing disturbs

A cluster whose schedule is empty runs every call undisturbed: no other party writes and no
call fails.  `call_run_quiet` and its instances give the exact result of each store call on
such a schedule, which stays empty.  On a quiet schedule each shape of a step, and each stage,
reports no error (`QuietOk`), and stages 1–7 succeed as soon as the spec validates and the
namespace exists (`runStages_run_quiet`): the pipeline is not only safe when it succeeds, it
does succeed when nothing fails.
-/

namespace KubeNovaOperator

@[simp] theorem Client.run_bind {α β : Type} (x : Client α) (f : α → Client β) (c : Cluster) :
    (x >>= f).run c = (f (x.run c).1).run (x.run c).2 := rfl

@[simp] theorem Client.run_pure {α : Type} (a : α) (c : Cluster) :
    (pure a : Client α).run c = (a, c) := rfl

variable {α : Type} {c : Cluster}

theorem call_run_quiet (hq : c.ticks = []) (logged : Option Op)
    (op : Store → Except ApiError (α × Store)) :
    (call logged op).run c =
      match op c.store with
      | .ok (a, s) => (.ok a, { c with store := s, log := logged.elim c.log (· :: c.log) })
      | .error e => (.error e, { c with log := logged.elim c.log (· :: c.log) }) := by
  obtain ⟨store, ticks, log, order⟩ := c
  subst hq
  rcases h : op store with _ | ⟨_, _⟩ <;>
    simp only [call, StateT.run, Cluster.nextTick, Tick.fault, Tick.before, List.foldl_nil, h]

theorem getObject_run_quiet (hq : c.ticks = []) (k : Kind α) (key : ObjKey) :
    (getObject k key).run c = (((k.objects c.store).get? key).elim (.error .notFound) .ok, c) := by
  rw [getObject, call_run_quiet hq]
  cases (k.objects c.store).get? key <;> rfl

theorem createObject_run_quiet (hq : c.ticks = []) (k : Kind α) (key : ObjKey) (a : α) :
    (createObject k key a).run c =
      if ((k.objects c.store).get? key).isSome then
        (.error .alreadyExists, { c with log := .create k.tag key :: c.log })
      else
        (.ok (), { c with
          store := k.setObjects c.store ((k.objects c.store).insert key (k.stored a))
          log := .create k.tag key :: c.log }) := by
  rw [createObject, call_run_quiet hq]
  cases (k.objects c.store).get? key <;> rfl

theorem updateObject_run_quiet (hq : c.ticks = []) (k : Kind α) (key : ObjKey) (a : α) :
    (updateObject k key a).run c =
      if ((k.objects c.store).get? key).isSome then
        (.ok (), { c with
          store := k.setObjects c.store ((k.objects c.store).insert key (k.stored a))
          log := .update k.tag key :: c.log })
      else (.error .notFound, { c with log := .update k.tag key :: c.log }) := by
  rw [updateObject, call_run_quiet hq]
  cases (k.objects c.store).get? key <;> rfl

theorem getKubeNova_run_quiet (hq : c.ticks = []) (key : ObjKey) :
    (getKubeNova key).run c = ((c.store.root key).elim (.error .notFound) .ok, c) := by
  rw [getKubeNova, call_run_quiet hq]
  cases c.store.root key <;> rfl

theorem getNamespace_run_quiet (hq : c.ticks = []) (name : String) :
    (getNamespace name).run c =
      (if name ∈ c.store.namespaces then .ok () else .error .notFound, c) := by
  rw [getNamespace, call_run_quiet hq]
  by_cases h : name ∈ c.store.namespaces <;> simp [h]

theorem listNodes_run_quiet (hq : c.ticks = []) : listNodes.run c = (.ok c.store.nodes, c) := by
  rw [listNodes, call_run_quiet hq]; rfl

/-- On a quiet schedule, `x` reports no error and leaves the schedule quiet. -/
def QuietOk (x : Client (Option String)) : Prop :=
  ∀ c : Cluster, c.ticks = [] → (x.run c).1 = none ∧ (x.run c).2.ticks = []

theorem ensureCreated_quietOk (k : Kind α) (key : ObjKey) (obj : α) (createMsg getMsg : String) :
    QuietOk (ensureCreated k key obj createMsg getMsg) := by
  intro c hq
  simp only [ensureCreated, Client.run_bind, getObject_run_quiet hq]
  cases h : (k.objects c.store).get? key <;> simp [createObject_run_quiet hq, h, hq]

theorem ensureData_quietOk (k : Kind α) (key : ObjKey) (obj : α) (data : α → GoMap String String)
    (setData : α → GoMap String String → α) (createMsg getMsg updateMsg : String) :
    QuietOk (ensureData k key obj data setData createMsg getMsg updateMsg) := by
  intro c hq
  simp only [ensureData, Client.run_bind, getObject_run_quiet hq]
  cases h : (k.objects c.store).get? key
  · simp [createObject_run_quiet hq, h, hq]
  · dsimp only [Option.elim]
    split <;> simp [updateObject_run_quiet hq, h, hq]

theorem ensureDeployment_quietOk (key : ObjKey) (desired : Deployment)
    (splice : DeploymentSpec → DeploymentSpec → DeploymentSpec) (msgs : DeploymentMsgs) :
    QuietOk (ensureDeployment key desired splice msgs) := by
  intro c hq
  simp only [ensureDeployment, Client.run_bind, getObject_run_quiet hq, Kind.deployment_objects]
  cases h : c.store.deployments.get? key
  · simp [createObject_run_quiet hq, h, hq]
  · dsimp only [Option.elim]
    split <;> simp [getObject_run_quiet hq, updateObject_run_quiet hq, h, hq]

theorem runSteps_quietOk {xs : List (Client (Option String))} (h : ∀ x ∈ xs, QuietOk x) :
    QuietOk (runSteps xs) := by
  induction xs with
  | nil => exact fun c hq => ⟨rfl, hq⟩
  | cons x xs ih =>
    intro c hq
    obtain ⟨h1, h2⟩ := h x (.head _) c hq
    simp only [runSteps, Client.run_bind, h1]
    exact ih (fun x hx => h x (.tail _ hx)) _ h2

/-! ### Stages -/

/-- Stages that, on a quiet schedule, report no error and leave the schedule quiet. -/
def QuietStagesOk (x : Client (KubeNova × Option (String × String))) : Prop :=
  ∀ c : Cluster, c.ticks = [] → (x.run c).1.2 = none ∧ (x.run c).2.ticks = []

theorem andThen_quietOk {x : Client (Option String)}
    {k : Client (KubeNova × Option (String × String))} (kn : KubeNova) (pre : String)
    (hx : QuietOk x) (hk : QuietStagesOk k) : QuietStagesOk (andThen kn pre x k) := by
  intro c hq
  obtain ⟨h1, h2⟩ := hx c hq
  simp only [andThen, Client.run_bind, h1]
  exact hk _ h2

theorem reconcileNamespace_run_quiet (hq : c.ticks = []) (kn : KubeNova)
    (hns : kn.meta.namespace ∈ c.store.namespaces) : (reconcileNamespace kn).run c = (none, c) := by
  simp [reconcileNamespace, getNamespace_run_quiet hq, hns]

theorem getNodeIP_run_quiet (hq : c.ticks = []) :
    getNodeIP.run c = (nodeIPOf c.store.nodes, c) := by
  simp [getNodeIP, listNodes_run_quiet hq]

theorem getWebNodePort_ticks (hq : c.ticks = []) (kn : KubeNova) (ns : String) :
    ((getWebNodePort kn ns).run c).2 = c := by
  unfold getWebNodePort
  split
  · rfl
  · simp only [Client.run_bind, getObject_run_quiet hq]
    cases (Kind.service.objects c.store).get? ⟨ns, "kube-nova-web"⟩
    · rfl
    · dsimp only [Option.elim]; split <;> rfl

theorem reconcileRBAC_quietOk (kn : KubeNova) : QuietOk (reconcileRBAC kn) :=
  runSteps_quietOk (by simp [ensureCreated_quietOk])

theorem reconcileSecret_quietOk (kn : KubeNova) : QuietOk (reconcileSecret kn) := by
  intro c hq
  simp only [reconcileSecret, Client.run_bind, getNodeIP_run_quiet hq]
  rw [getWebNodePort_ticks hq]
  exact ensureData_quietOk _ _ _ _ _ _ _ _ _ hq

theorem reconcileConfigMaps_quietOk (kn : KubeNova) : QuietOk (reconcileConfigMaps kn) :=
  runSteps_quietOk (by simp [ensureData_quietOk])

theorem reconcileServices_quiet (kn : KubeNova) (hq : c.ticks = []) :
    ((reconcileServices kn).run c).1.2 = none ∧ ((reconcileServices kn).run c).2.ticks = [] :=
  runSteps_quietOk (fun x hx => by
    obtain ⟨name, -, hx⟩ := List.mem_flatMap.1 hx
    split at hx
    · simp only [serviceSteps, List.mem_cons, List.not_mem_nil, or_false] at hx
      rcases hx with rfl | rfl
      · exact ensureDeployment_quietOk _ _ _ _
      · exact ensureCreated_quietOk _ _ _ _ _
    · simp at hx) c hq

theorem reconcileWeb_quietOk (kn : KubeNova) : QuietOk (reconcileWeb kn) := by
  refine runSteps_quietOk fun x hx => ?_
  simp only [reconcileWeb, List.mem_append, List.mem_cons, List.not_mem_nil, or_false] at hx
  rcases hx with (hx | rfl | rfl) | hx
  · cases h : (buildWebResources kn kn.meta.namespace).nginxConfigMap <;> simp_all
    exact hx ▸ ensureData_quietOk _ _ _ _ _ _ _ _
  · exact ensureDeployment_quietOk _ _ _ _
  · exact ensureCreated_quietOk _ _ _ _ _
  · cases h : (buildWebResources kn kn.meta.namespace).ingress <;> simp_all
    exact hx ▸ ensureCreated_quietOk _ _ _ _ _

theorem andThen_run_of_none {x : Client (Option String)}
    {k : Client (KubeNova × Option (String × String))} (kn : KubeNova) (pre : String)
    (h : (x.run c).1 = none) : (andThen kn pre x k).run c = k.run (x.run c).2 := by
  simp only [andThen, Client.run_bind, h]

/-- Undisturbed, a valid root whose namespace exists gets through stages 1–6 without an
error: the pass is stage 7, on the store stages 3–6 leave, with the copy stage 6 returns. -/
theorem runStages_run_of_valid (kn : KubeNova) (hq : c.ticks = [])
    (hv : validateKubeNova kn = none) (hns : kn.meta.namespace ∈ c.store.namespaces) :
    (runStages kn).run c =
      (andThen (setStatusPhase (reconcileValidation kn).1 .creating "正在部署后端服务")
        "部署 Web 前端失败: "
        (reconcileWeb (setStatusPhase (reconcileValidation kn).1 .creating "正在部署后端服务"))
        (pure (setStatusPhase (reconcileValidation kn).1 .creating "正在部署后端服务", none))).run
      ((reconcileServices (reconcileValidation kn).1).run
        ((reconcileConfigMaps (reconcileValidation kn).1).run
          ((reconcileSecret (reconcileValidation kn).1).run
            ((reconcileRBAC (reconcileValidation kn).1).run c).2).2).2).2 := by
  unfold runStages
  split
  · rename_i hv1
    rw [← reconcileValidation_snd, hv1] at hv
    cases hv
  · rename_i kn1 hv1
    have hkn1 : (reconcileValidation kn).1 = kn1 := by rw [hv1]
    have hns1 := reconcileNamespace_run_quiet hq kn1 (by
      rw [← hkn1, reconcileValidation_fst]; exact hns)
    obtain ⟨r1, t1⟩ := reconcileRBAC_quietOk kn1 c hq
    obtain ⟨r2, t2⟩ := reconcileSecret_quietOk kn1 _ t1
    obtain ⟨r3, t3⟩ := reconcileConfigMaps_quietOk kn1 _ t2
    obtain ⟨r4, -⟩ := reconcileServices_quiet kn1 t3
    have hfst := (reconcileServices_spec (P := fun _ => True) (fun _ _ _ _ => trivial) kn1
      ((reconcileConfigMaps kn1).run ((reconcileSecret kn1).run ((reconcileRBAC kn1).run c).2).2).2
      trivial).2.1
    rw [hkn1, andThen_run_of_none _ _ (by rw [hns1]), hns1, andThen_run_of_none _ _ r1,
      andThen_run_of_none _ _ r2, andThen_run_of_none _ _ r3, Client.run_bind,
      show ((reconcileServices kn1).run _).1 = (_, none) from Prod.ext hfst r4]
    rfl

/-- **Undisturbed, stages 1–6 of a valid root whose namespace exists succeed**: what is left
is stage 7, on a quiet schedule, in a store where every stable property that held holds. -/
theorem runStages_run_quiet_eq (kn : KubeNova) (hq : c.ticks = [])
    (hv : validateKubeNova kn = none) (hns : kn.meta.namespace ∈ c.store.namespaces) :
    ∃ (c' : Cluster) (kn' : KubeNova), c'.ticks = [] ∧ kn'.meta = kn.meta ∧
      (∀ P, Stable P → P c.store → P c'.store) ∧
      (runStages kn).run c =
        (andThen kn' "部署 Web 前端失败: " (reconcileWeb kn') (pure (kn', none))).run c' := by
  obtain ⟨-, t1⟩ := reconcileRBAC_quietOk (reconcileValidation kn).1 c hq
  obtain ⟨-, t2⟩ := reconcileSecret_quietOk _ _ t1
  obtain ⟨-, t3⟩ := reconcileConfigMaps_quietOk _ _ t2
  refine ⟨_, _, (reconcileServices_quiet _ t3).2, by rw [setStatusPhase, reconcileValidation_fst],
    fun P hP h => ?_, runStages_run_of_valid kn hq hv hns⟩
  exact (reconcileServices_spec hP _ _ <| (reconcileConfigMaps_ensures _).frames P hP _ <|
    (reconcileSecret_ensures _).frames P hP _ <| (reconcileRBAC_ensures _).frames P hP _ h).1

/-- **Stages 1–7 succeed when nothing fails**, as soon as the spec validates and the root's
namespace exists. -/
theorem runStages_run_quiet (kn : KubeNova) (hq : c.ticks = [])
    (hv : validateKubeNova kn = none) (hns : kn.meta.namespace ∈ c.store.namespaces) :
    ((runStages kn).run c).1.2 = none ∧ ((runStages kn).run c).2.ticks = [] := by
  obtain ⟨c', kn', t', -, -, he⟩ := runStages_run_quiet_eq kn hq hv hns
  rw [he]
  exact andThen_quietOk kn' _ (reconcileWeb_quietOk _) (k := pure (kn', none))
    (fun c hq => ⟨rfl, hq⟩) c' t'

/-- The pipeline reports no error when nothing fails, the spec validates and the namespace
exists. -/
theorem reconcileFetched_run_quiet (kn : KubeNova) (hq : c.ticks = [])
    (hv : validateKubeNova kn = none) (hns : kn.meta.namespace ∈ c.store.namespaces) :
    ((reconcileFetched kn).run c).1.2 = none := by
  obtain ⟨h1, -⟩ := runStages_run_quiet kn hq hv hns
  simp only [reconcileFetched, Client.run_bind]
  split
  · simp_all
  · simp only [Client.run_bind]; split <;> rfl

end KubeNovaOperator
