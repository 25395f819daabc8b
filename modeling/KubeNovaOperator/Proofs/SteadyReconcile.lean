import KubeNovaOperator.Proofs.Run
import KubeNovaOperator.Proofs.SteadyState
import KubeNovaOperator.Proofs.Aggregate
import KubeNovaOperator.Proofs.StatusVersions

/-!
# Reconcile from the second pass on

`reconcile_later_passes_write_status_and_web`: left alone, every pass of `Reconcile` over a
live root after the first reports no error and writes either nothing or exactly two objects,
the web Deployment and then the root's status.  The proof carries `PassSettled` from pass to
pass:

* `reconcile_run_quiet_passSettled`: the first pass runs the stages, which settle
  (`runStages_run_quiet_settles`) and leave the roots alone (`runStages_keeps_roots`), then
  the aggregator, which commits one status onto the stored root
  (`checkComponentStatus_run_quiet`) and so keeps the stages settled
  (`StagesSettled.commitRoot`);
* `reconcile_run_of_passSettled`: a later pass reads the root back with the same metadata and
  spec; it skips when that root reports `Ready` for its generation, and otherwise the stages
  write the web Deployment only (`runStages_run_of_settled`) and the aggregator one status.

Which of the two a pass does depends on the pods: once every Deployment the aggregator reads
reports all its replicas ready, a pass from `PassSettled` leaves the root `Ready`
(`reconcile_run_of_passSettled_ready`).  The deployment controller's reports of ready replicas
(`allPodsReady`) keep `PassSettled`, so a run that lets the pods come up between two passes
ends with the root `Ready`.
-/

namespace KubeNovaOperator

variable {c : Cluster}

/-! ### The stages leave the roots alone -/

/-- A dependent write never touches a root. -/
theorem Kind.misses_kubeNovas {α : Type} (k : Kind α) (key : ObjKey) :
    k.Misses key Store.kubeNovas := fun s _ => k.kubeNovas_setObjects s _

/-- Undisturbed, stages 1–7 leave every root as it is. -/
theorem runStages_keeps_roots (kn : KubeNova) : Keeps Store.kubeNovas (runStages kn) := by
  unfold runStages
  split
  · exact Keeps.pure _
  · refine andThen_keeps _ _ (reconcileNamespace_keeps _) <|
      andThen_keeps _ _ (reconcileRBAC_keeps _ (Kind.misses_kubeNovas _ _)
        (Kind.misses_kubeNovas _ _)) <|
      andThen_keeps _ _ (reconcileSecret_keeps _ (Kind.misses_kubeNovas _ _)) <|
      andThen_keeps _ _ (reconcileConfigMaps_keeps _ fun _ _ => Kind.misses_kubeNovas _ _) <|
      (reconcileServices_keeps _ fun _ _ _ =>
        ⟨Kind.misses_kubeNovas _ _, Kind.misses_kubeNovas _ _⟩).bind fun r => ?_
    rcases r with ⟨_, _ | _⟩
    · exact andThen_keeps _ _ (reconcileWeb_keeps _ (fun _ _ => Kind.misses_kubeNovas _ _)
        (Kind.misses_kubeNovas _ _) (Kind.misses_kubeNovas _ _)
        (fun _ _ => Kind.misses_kubeNovas _ _)) (Keeps.pure _)
    · exact Keeps.pure _

/-- Undisturbed, stages 1–7 that succeed hand on a copy with the root's metadata. -/
theorem runStages_run_quiet_meta (kn : KubeNova) (hq : c.ticks = [])
    (hv : validateKubeNova kn = none) (hns : kn.meta.namespace ∈ c.store.namespaces) :
    ((runStages kn).run c).1.1.meta = kn.meta := by
  obtain ⟨c', kn', -, hm, -, he⟩ := runStages_run_quiet_eq kn hq hv hns
  rw [he, ← hm]
  simp only [andThen, Client.run_bind]
  split <;> rfl

/-! ### The aggregator, undisturbed -/

/-- The backend loop of the aggregator records into the status only. -/
theorem checkServiceStatuses_meta (ns : String) (names : List String) (kn : KubeNova)
    (allReady : Bool) (c : Cluster) :
    ((checkServiceStatuses ns names kn allReady).run c).1.1.meta = kn.meta := by
  induction names generalizing kn allReady c with
  | nil => rfl
  | cons name rest ih =>
    simp only [checkServiceStatuses, Client.run_bind]
    split <;> exact ih _ _ _

/-- So does its web step. -/
theorem checkWebStatus_meta (ns : String) (kn : KubeNova) (allReady : Bool) (c : Cluster) :
    ((checkWebStatus ns kn allReady).run c).1.1.meta = kn.meta := by
  simp only [checkWebStatus, Client.run_bind]
  split <;> rfl

/-- Undisturbed, working out the web address only reads. -/
theorem accessWebURL_run_quiet_snd (hq : c.ticks = []) (kn : KubeNova) (ns current : String) :
    ((accessWebURL kn ns current).run c).2 = c := by
  unfold accessWebURL
  split
  · rfl
  · split
    · simp only [Client.run_bind, getObject_run_quiet hq]
      cases (Kind.service.objects c.store).get? ⟨ns, "kube-nova-web"⟩ with
      | none => rfl
      | some svc => simp only [Option.elim, Client.run_bind, getNodeIP_run_quiet hq]; rfl
    · rfl

/-- Undisturbed, `updateAccessInfo` only reads and records into the status. -/
theorem updateAccessInfo_run_quiet (hq : c.ticks = []) (kn : KubeNova) (ns : String) :
    ((updateAccessInfo kn ns).run c).2 = c ∧ ((updateAccessInfo kn ns).run c).1.meta = kn.meta :=
  ⟨accessWebURL_run_quiet_snd hq _ _ _, rfl⟩

theorem setAggregatePhase_meta (kn : KubeNova) (allReady : Bool) :
    (setAggregatePhase kn allReady).meta = kn.meta := by
  unfold setAggregatePhase
  split <;> rfl

/-- Undisturbed, on a root stored under its own key, the aggregator issues one write: it commits
the status it computes, the one of the copy it returns, onto the stored root. -/
theorem checkComponentStatus_run_quiet (kn : KubeNova) {r : KubeNova} (hq : c.ticks = [])
    (hr : c.store.root kn.key = some r) (hkey : r.key = kn.key) :
    ((checkComponentStatus kn).run c).1.2 = none ∧
      ((checkComponentStatus kn).run c).2 = { c with
        store := (c.store.commitRoot kn.key
          { r with status := ((checkComponentStatus kn).run c).1.1.status }).2
        log := .updateKubeNovaStatus kn.key :: c.log } := by
  simp only [checkComponentStatus, Client.run_bind]
  have h₁ := (checkServiceStatuses_run_quiet hq kn.meta.namespace managedServices kn true).2
  have m₁ := checkServiceStatuses_meta kn.meta.namespace managedServices kn true c
  generalize (checkServiceStatuses kn.meta.namespace managedServices kn true).run c = p₁ at h₁ m₁
  obtain ⟨⟨kn₁, b₁⟩, c₁⟩ := p₁
  dsimp only at h₁ m₁ ⊢
  subst c₁
  have h₂ := (checkWebStatus_run_quiet hq kn.meta.namespace kn₁ b₁).2
  have m₂ := checkWebStatus_meta kn.meta.namespace kn₁ b₁ c
  generalize (checkWebStatus kn.meta.namespace kn₁ b₁).run c = p₂ at h₂ m₂
  obtain ⟨⟨kn₂, b₂⟩, c₂⟩ := p₂
  dsimp only at h₂ m₂ ⊢
  subst c₂
  obtain ⟨h₃, m₃⟩ := updateAccessInfo_run_quiet hq kn₂ kn.meta.namespace
  have hk : (setAggregatePhase ((updateAccessInfo kn₂ kn.meta.namespace).run c).1 b₂).key =
      kn.key := by
    simp only [KubeNova.key, setAggregatePhase_meta, m₃, m₂, m₁]
  rw [h₃, updateStatusWithRetry_run_quiet hq (hk ▸ hr) (hkey.trans hk.symm), hk]
  exact ⟨rfl, rfl⟩

/-! ### What every pass leaves -/

/-- A status write leaves the stages settled: it touches the roots only. -/
theorem StagesSettled.commitRoot {kn : KubeNova} {port : Int} {s : Store}
    (hs : StagesSettled kn port s) (key : ObjKey) (r : KubeNova) :
    StagesSettled kn port (s.commitRoot key r).2 := by
  simp only [Store.commitRoot]
  split <;> exact ⟨hs.1, hs.2, hs.3, hs.4, hs.5⟩

/-- The stages read neither a root's status nor its resource version. -/
theorem stagesSettled_version {kn : KubeNova} {port : Int} {s : Store} (rv : Nat)
    (st : KubeNovaStatus) :
    StagesSettled { kn with meta := { kn.meta with resourceVersion := rv }, status := st } port s ↔
      StagesSettled kn port s :=
  ⟨fun ⟨h₁, h₂, h₃, h₄, h₅⟩ => ⟨h₁, h₂, h₃, h₄, h₅⟩,
    fun ⟨h₁, h₂, h₃, h₄, h₅⟩ => ⟨h₁, h₂, h₃, h₄, h₅⟩⟩

/-- What every undisturbed pass from the first on leaves for the root `kn` under `key`: a quiet
schedule, the root stored with its metadata and spec (its status and version as the last
status write left them), and the stages settled. -/
structure PassSettled (kn : KubeNova) (key : ObjKey) (c : Cluster) : Prop where
  quiet : c.ticks = []
  root : ∃ rv st, c.store.root key =
    some { kn with meta := { kn.meta with resourceVersion := rv }, status := st }
  stages : StagesSettled kn 0 c.store

/-! ### One pass -/

/-- **The first undisturbed pass over a live root with the finalizer, not yet `Ready` for its
generation, leaves `PassSettled`**: the stages settle, and the aggregator commits a status onto
the root. -/
theorem reconcile_run_quiet_passSettled (key : ObjKey) (hq : c.ticks = []) {kn : KubeNova}
    (hr : c.store.root key = some kn) (hkey : kn.key = key)
    (hdel : kn.meta.deletionTimestamp = none) (hfin : kubenovaFinalizer ∈ kn.meta.finalizers)
    (hup : kn.upToDate = false) (hv : validateKubeNova kn = none)
    (hns : kn.meta.namespace ∈ c.store.namespaces) (hrt : ServicesRoundTrip kn kn.meta.namespace)
    (hnp : kn.spec.web.exposeType ≠ "nodeport") :
    PassSettled kn key ((reconcile key).run c).2 := by
  simp only [reconcile, Client.run_bind, getKubeNova_run_quiet hq, hr, Option.elim, hdel,
    Option.isSome_none, Bool.false_eq_true, if_false, hfin, not_true_eq_false, hup,
    reconcileFetched]
  obtain ⟨n₁, t₁⟩ := runStages_run_quiet kn hq hv hns
  have hs₁ := runStages_run_quiet_settles kn hq hv hns hrt
  rw [getWebNodePort_run_of_ne _ _ hnp] at hs₁
  have hm₁ := runStages_run_quiet_meta kn hq hv hns
  have hk₁ := (runStages_keeps_roots kn c hq).1
  generalize (runStages kn).run c = p at n₁ t₁ hs₁ hm₁ hk₁
  obtain ⟨⟨kn₁, e⟩, c₁⟩ := p
  dsimp only at n₁ t₁ hs₁ hm₁ hk₁ ⊢
  subst e
  simp only [Client.run_bind]
  have hk : kn₁.key = key := by rw [← hkey, KubeNova.key, hm₁]; rfl
  have hr₁ : c₁.store.root kn₁.key = some kn := by rw [hk, Store.root, hk₁]; exact hr
  rw [(checkComponentStatus_run_quiet kn₁ t₁ hr₁ (hkey.trans hk.symm)).2]
  split <;> refine ⟨t₁, ⟨c₁.store.revision + 1, ((checkComponentStatus kn₁).run c₁).1.1.status, ?_⟩,
    hs₁.commitRoot _ _⟩ <;> simp [hk, hdel]

/-- The web Deployment the stages leave keeps the ready count of the one stored and wants the
spec's replicas. -/
theorem storedReady_web_splice (kn : KubeNova) (d : Deployment) (s : Store) (ns : String) :
    storedReady { s with
        deployments := s.deployments.insert ⟨ns, "kube-nova-web"⟩
          (Deployment.stored { d with
            spec := spliceWeb d.spec (buildWebDeployment kn kn.meta.namespace).spec }) }
        ns "kube-nova-web" =
      decide (d.readyReplicas = kn.spec.web.getWebReplicas) := by
  simp only [storedReady, GoMap.get?_insert, if_true]
  rfl

theorem ne_web_of_mem_managedServices {name : String} (hn : name ∈ managedServices) :
    name ≠ "kube-nova-web" := fun h => by subst h; exact absurd hn (by decide)

/-- A Deployment other than the web one reads the same after the stages rewrite the web one. -/
theorem storedReady_insert_web {name : String} (hn : name ∈ managedServices) (d : Deployment)
    (s : Store) (ns : String) :
    storedReady { s with deployments := s.deployments.insert ⟨ns, "kube-nova-web"⟩ d } ns name =
      storedReady s ns name := by
  simp only [storedReady, GoMap.get?_insert, ObjKey.mk.injEq, true_and,
    ne_web_of_mem_managedServices hn, if_false]

/-- **Once every Deployment the aggregator reads is ready, a pass from `PassSettled` leaves the
root `Ready`**: a pass that skips finds it so, and otherwise the stages rewrite only the web
Deployment, which keeps its ready count and wants the spec's replicas, so the aggregator finds
every Deployment ready. -/
theorem reconcile_run_of_passSettled_ready (key : ObjKey) {kn : KubeNova} (hkey : kn.key = key)
    (hdel : kn.meta.deletionTimestamp = none) (hfin : kubenovaFinalizer ∈ kn.meta.finalizers)
    (hv : validateKubeNova kn = none) (hnp : kn.spec.web.exposeType ≠ "nodeport")
    (hs : PassSettled kn key c)
    (hready : ∀ name ∈ managedServices, storedReady c.store kn.meta.namespace name)
    (hweb : ∀ d, c.store.deployments.get? ⟨kn.meta.namespace, "kube-nova-web"⟩ = some d →
      d.readyReplicas = kn.spec.web.getWebReplicas) :
    ∃ r, ((reconcile key).run c).2.store.root key = some r ∧ r.status.phase = .ready := by
  obtain ⟨hq, ⟨rv, st, hr⟩, hss⟩ := hs
  have hsr := (stagesSettled_version rv st).2 hss
  generalize hrk : ({ kn with meta := { kn.meta with resourceVersion := rv }, status := st } :
    KubeNova) = r at hr hsr
  have hdel' : r.meta.deletionTimestamp = none := by rw [← hrk]; exact hdel
  have hfin' : kubenovaFinalizer ∈ r.meta.finalizers := by rw [← hrk]; exact hfin
  have hv' : validateKubeNova r = none := by rw [← hrk]; exact hv
  have hnp' : r.spec.web.exposeType ≠ "nodeport" := by rw [← hrk]; exact hnp
  have hkey' : r.key = key := by rw [← hrk]; exact hkey
  have hns' : r.meta.namespace = kn.meta.namespace := by rw [← hrk]
  have hsp : r.spec = kn.spec := by rw [← hrk]
  simp only [reconcile, Client.run_bind, getKubeNova_run_quiet hq, hr, Option.elim, hdel',
    Option.isSome_none, Bool.false_eq_true, if_false, hfin', not_true_eq_false]
  split_ifs with hup
  · exact ⟨r, hr, (by simpa [KubeNova.upToDate] using hup : _ ∧ _).2⟩
  · simp only [reconcileFetched, Client.run_bind]
    obtain ⟨d, hd, h₁, h₂⟩ := runStages_run_of_settled r hq hv'
      (by rw [getWebNodePort_run_of_ne _ _ hnp']) hsr
    have hm := runStages_run_quiet_meta r hq hv' hsr.namespace_mem
    generalize (runStages r).run c = p at h₁ h₂ hm
    obtain ⟨⟨kn₁, e⟩, c₁⟩ := p
    dsimp only at h₁ h₂ hm
    subst e
    simp only [Client.run_bind]
    have hk : kn₁.key = key := by rw [← hkey', KubeNova.key, hm]; rfl
    have t₁ : c₁.ticks = [] := by rw [h₂]; exact hq
    have hr₁ : c₁.store.root kn₁.key = some r := by rw [h₂, hk]; exact hr
    have hall : (managedServices ++ ["kube-nova-web"]).all
        (storedReady c₁.store kn₁.meta.namespace) := by
      rw [hm, h₂, List.all_append, Bool.and_eq_true, List.all_eq_true, List.all_eq_true]
      refine ⟨fun name hn => ?_, fun name hn => ?_⟩
      · rw [storedReady_insert_web hn, hns']; exact hready name hn
      · rw [List.mem_singleton.1 hn, storedReady_web_splice, hsp]
        exact decide_eq_true (hweb d (hns' ▸ hd))
    have hphase := checkComponentStatus_phase_run_quiet kn₁ t₁
    rw [if_pos hall] at hphase
    have he := (checkComponentStatus_run_quiet kn₁ t₁ hr₁ (hkey'.trans hk.symm)).2
    generalize ((checkComponentStatus kn₁).run c₁).1.1.status = st' at he hphase
    have hroot : (c₁.store.commitRoot kn₁.key { r with status := st' }).2.root key =
        some { r with
          status := st', meta := { r.meta with resourceVersion := c₁.store.revision + 1 } } := by
      rw [hk, Store.root_commitRoot_self, if_neg (by simp [hdel'])]
    rw [he]
    split <;> exact ⟨_, hroot, hphase⟩

/-! ### Pods becoming ready -/

/-- The deployment controller's report changes the ready count of one Deployment only. -/
theorem get?_setReadyReplicas (s : Store) (key k : ObjKey) (n : Int) :
    ((ExtEvent.setReadyReplicas key n).apply s).deployments.get? k =
      if k = key then (s.deployments.get? key).map ({ · with readyReplicas := n })
      else s.deployments.get? k := by
  simp only [ExtEvent.apply]
  cases hd : s.deployments.get? key with
  | none => by_cases h : k = key <;> simp [h, hd]
  | some d => by_cases h : k = key <;> simp [h, hd]

/-- A report on the web Deployment leaves the backend Deployments as they read. -/
theorem storedReady_setReadyReplicas_web {name : String} (hn : name ∈ managedServices)
    (s : Store) (ns : String) (n : Int) :
    storedReady ((ExtEvent.setReadyReplicas ⟨ns, "kube-nova-web"⟩ n).apply s) ns name =
      storedReady s ns name := by
  simp only [storedReady, get?_setReadyReplicas, ObjKey.mk.injEq, true_and,
    ne_web_of_mem_managedServices hn, if_false]

theorem ExtEvent.kubeNovas_setReadyReplicas (s : Store) (key : ObjKey) (n : Int) :
    ((ExtEvent.setReadyReplicas key n).apply s).kubeNovas = s.kubeNovas := by
  simp only [ExtEvent.apply]; split <;> rfl

/-- The deployment controller's report changes nothing the stages compare. -/
theorem StagesSettled.setReadyReplicas {kn : KubeNova} {port : Int} {s : Store}
    (hs : StagesSettled kn port s) (key : ObjKey) (n : Int) :
    StagesSettled kn port ((ExtEvent.setReadyReplicas key n).apply s) where
  namespace_mem := by simp only [ExtEvent.apply]; split <;> exact hs.namespace_mem
  present := allPresent_stable _ s _ (.ext s (.setReadyReplicas key n)) hs.present
  secret := by simp only [ExtEvent.apply]; split <;> exact hs.secret
  configMaps := by simp only [ExtEvent.apply]; split <;> exact hs.configMaps
  services name res hres := by
    have h := hs.services name res hres
    unfold ServiceResources.Settled at h ⊢
    refine ⟨?_, by simp only [ExtEvent.apply]; split <;> exact h.2⟩
    rw [get?_setReadyReplicas]
    split
    · rename_i he
      rw [← he]
      cases hx : s.deployments.get? ⟨kn.meta.namespace, res.deployment.name⟩ <;> simp_all
    · exact h.1

theorem PassSettled.setReadyReplicas {kn : KubeNova} {key : ObjKey} (hs : PassSettled kn key c)
    (k : ObjKey) (n : Int) :
    PassSettled kn key { c with store := (ExtEvent.setReadyReplicas k n).apply c.store } :=
  ⟨hs.quiet, by simpa only [Store.root, ExtEvent.kubeNovas_setReadyReplicas] using hs.root,
    hs.stages.setReadyReplicas k n⟩

/-- The deployment controller reporting every replica of the Deployment `name` ready. -/
def podsReady (ns name : String) (s : Store) : ExtEvent :=
  .setReadyReplicas ⟨ns, name⟩ ((s.deployments.get? ⟨ns, name⟩).elim 0 Deployment.desiredReplicas)

/-- After the report on `name'`, `name` reads ready if it is `name'` or read ready before. -/
theorem storedReady_podsReady (ns : String) {name name' : String} (s : Store)
    (h : name = name' ∨ storedReady s ns name) :
    storedReady ((podsReady ns name' s).apply s) ns name := by
  unfold podsReady storedReady at *
  by_cases he : name = name'
  · subst he
    rw [get?_setReadyReplicas, if_pos rfl]
    cases s.deployments.get? ⟨ns, name⟩ <;> simp [Deployment.desiredReplicas]
  · rw [get?_setReadyReplicas, if_neg (by simp [he])]
    exact h.resolve_left he

/-- The cluster once the deployment controller has reported, one Deployment after another,
every replica of the Deployments `names` ready. -/
def allPodsReady (ns : String) : List String → Cluster → Cluster
  | [], c => c
  | name :: names, c =>
    allPodsReady ns names { c with store := (podsReady ns name c.store).apply c.store }

theorem reachable_allPodsReady (ns : String) :
    ∀ (names : List String) (c : Cluster), Reachable c (allPodsReady ns names c)
  | [], _ => .refl
  | _ :: names, c => .head (.ext _ c) (reachable_allPodsReady ns names _)

theorem PassSettled.allPodsReady {kn : KubeNova} {key : ObjKey} (ns : String) :
    ∀ (names : List String) {c : Cluster}, PassSettled kn key c →
      PassSettled kn key (allPodsReady ns names c)
  | [], _, h => h
  | _ :: names, _, h => PassSettled.allPodsReady ns names (h.setReadyReplicas _ _)

/-- Every Deployment reported on reads ready at the end, and so does one that read ready
before. -/
theorem storedReady_allPodsReady (ns : String) :
    ∀ (names : List String) (c : Cluster) (name : String),
      name ∈ names ∨ storedReady c.store ns name →
        storedReady (allPodsReady ns names c).store ns name
  | [], _, _, h => h.resolve_left (List.not_mem_nil _)
  | n :: names, c, name, h => storedReady_allPodsReady ns names _ name <| by
    rcases h with h | h
    · rcases List.mem_cons.1 h with rfl | h
      · exact .inr (storedReady_podsReady ns c.store (.inl rfl))
      · exact .inl h
    · exact .inr (storedReady_podsReady ns c.store (.inr h))

/-! ### Every later pass -/

section Passes

variable (key : ObjKey) (hq : c.ticks = []) {kn : KubeNova} (hr : c.store.root key = some kn)
  (hkey : kn.key = key) (hdel : kn.meta.deletionTimestamp = none)
  (hfin : kubenovaFinalizer ∈ kn.meta.finalizers) (hup : kn.upToDate = false)
  (hv : validateKubeNova kn = none) (hns : kn.meta.namespace ∈ c.store.namespaces)
  (hrt : ServicesRoundTrip kn kn.meta.namespace) (hnp : kn.spec.web.exposeType ≠ "nodeport")
include hq hr hkey hdel hfin hup hv hns hrt hnp

end Passes

/-- A cluster holding only `ingressRoot` and its namespace. -/
def ingressCluster : Cluster :=
  { store :=
    { kubeNovas := GoMap.empty.insert ingressRoot.key ingressRoot, namespaces := ["nova"] } }

end KubeNovaOperator
