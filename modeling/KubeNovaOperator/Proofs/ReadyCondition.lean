import KubeNovaOperator.Proofs.SteadyReconcile

/-!
# The phase `Ready` and the condition `Ready`

In every state a run reaches from stores whose roots satisfy `StatusOk`, every stored root
whose phase is `Ready` carries the condition `Ready` with status `True`
(`ready_phase_has_true_ready_condition`).  Other parties never write a status
(`ExtEvent.root_apply`); the controller writes a status only through
`updateStatusWithRetry`, always with a phase it has just set, and `Ready` only together with
the condition.

The converse fails: no path of the code clears the condition when it sets another phase, so
the condition `Ready`, once `True`, outlives the phase.  A user's edit that the validator
rejects turns a `Ready` root into a `Failed` one whose condition `Ready` is still `True`
(`failed_phase_keeps_true_ready_condition`).
-/

namespace KubeNovaOperator

/-! ### The invariant -/

/-- Every stored root's status passes `StatusOk`. -/
def RootsOk (s : Store) : Prop := ∀ key r, s.root key = some r → StatusOk r.status

theorem RootsOk.commitRoot {s : Store} (hs : RootsOk s) {key : ObjKey} {r : KubeNova}
    (hr : StatusOk r.status) : RootsOk (s.commitRoot key r).2 := fun _ _ h =>
  (Store.root_commitRoot h).elim (fun ⟨_, hst⟩ => hst ▸ hr) (hs _ _)

theorem rootsOk_stable : Stable RootsOk := by
  rintro s _ (⟨_, e⟩ | ⟨_, k, key', a⟩) hs key r h
  · obtain ⟨r₀, h₀, hst⟩ := ExtEvent.root_apply h
    exact hst ▸ hs _ _ h₀
  · exact hs key r (by simpa [Store.root, k.kubeNovas_setObjects] using h)

/-- **In every reachable state, a root in phase `Ready` carries the condition `Ready` with
status `True`**, for runs that start from roots that satisfy it. -/
theorem ready_phase_has_true_ready_condition (c₀ c : Cluster) (h₀ : RootsOk c₀.store)
    (h : Reachable c₀ c) (key : ObjKey) (r : KubeNova) (hr : c.store.root key = some r)
    (hready : r.status.phase = .ready) : r.status.readyCondition = some .conditionTrue :=
  Reachable.induction_on_steps rootsOk_stable (fun _ hst _ _ _ hs _ => hs.commitRoot hst)
    (fun _ _ _ _ hs hr hst => hs.commitRoot (hst ▸ hs _ _ hr))
    (fun _ _ hs key r h => hs key r (by simpa [Store.root] using h))
    (fun _ _ _ hs key r h => hs key r (by simpa [Store.root] using h)) h₀ h key r hr hready

/-- A store holding `readyRoot` alone. -/
def readyCluster : Cluster :=
  { store := { kubeNovas := GoMap.empty.insert readyRoot.key readyRoot, namespaces := ["nova"] } }

/-- `RootsOk` of a store, read off its entries. -/
theorem RootsOk.of_entries {s : Store} (h : ∀ e ∈ s.kubeNovas.entries, StatusOk e.2.status) :
    RootsOk s := fun _ _ hr => h _ (GoMap.mem_entries_of_get? hr)

/-- `ingressCluster` after one pass, once the deployment controller has reported every pod of
every Deployment ready. -/
def podsReadyCluster : Cluster :=
  let c := allPodsReady "nova" managedServices ((reconcile ingressRoot.key).run ingressCluster).2
  { c with store := (ExtEvent.setReadyReplicas ⟨"nova", "kube-nova-web"⟩
      ingressRoot.spec.web.getWebReplicas).apply c.store }

/-- The root as the pass that follows leaves it. -/
def readyAfterPass : KubeNova :=
  (((reconcile ingressRoot.key).run podsReadyCluster).2.store.root ingressRoot.key).getD
    ingressRoot

/-- The pass after the pods' readiness writes the phase `Ready`, and the condition with it. -/
theorem ready_phase_has_true_ready_condition_podsReady :
    RootsOk ingressCluster.store ∧
      Reachable ingressCluster ((reconcile ingressRoot.key).run podsReadyCluster).2 ∧
      ((reconcile ingressRoot.key).run podsReadyCluster).2.store.root ingressRoot.key =
        some readyAfterPass ∧
      readyAfterPass.status.phase = .ready ∧
      readyAfterPass.status.readyCondition = some .conditionTrue := by
  have h₀ : RootsOk ingressCluster.store := RootsOk.of_entries (by decide)
  have h₁ := reconcile_run_quiet_passSettled ingressRoot.key (c := ingressCluster) rfl
    (by decide) rfl rfl (by decide) (by decide) (by decide) (by decide) (by decide) (by decide)
  have h₂ : PassSettled ingressRoot ingressRoot.key podsReadyCluster :=
    (h₁.allPodsReady "nova" managedServices).setReadyReplicas _ _
  have hready : ∀ name ∈ managedServices, storedReady podsReadyCluster.store "nova" name :=
    fun name hn => by
      rw [podsReadyCluster, storedReady_setReadyReplicas_web hn]
      exact storedReady_allPodsReady "nova" managedServices _ name (.inl hn)
  have hweb : ∀ d, podsReadyCluster.store.deployments.get? ⟨"nova", "kube-nova-web"⟩ = some d →
      d.readyReplicas = ingressRoot.spec.web.getWebReplicas := fun d hd => by
    rw [podsReadyCluster, get?_setReadyReplicas, if_pos rfl] at hd
    obtain ⟨_, -, rfl⟩ := Option.map_eq_some'.1 hd
    rfl
  obtain ⟨r, hr, hph⟩ := reconcile_run_of_passSettled_ready ingressRoot.key rfl rfl
    (by decide) (by decide) (by decide) h₂ hready hweb
  have hreach : Reachable ingressCluster ((reconcile ingressRoot.key).run podsReadyCluster).2 :=
    (((Relation.ReflTransGen.single (Step.pass _ _)).trans
      (reachable_allPodsReady _ _ _)).tail (Step.ext _ _)).tail (Step.pass _ _)
  have hroot : ((reconcile ingressRoot.key).run podsReadyCluster).2.store.root ingressRoot.key =
      some readyAfterPass := by rw [readyAfterPass, hr]; rfl
  rw [hr, Option.some_inj] at hroot
  rw [← hroot]
  exact ⟨h₀, hreach, hr, hph,
    ready_phase_has_true_ready_condition _ _ h₀ hreach _ _ hr hph⟩

/-! ### The condition outlives the phase -/

/-- `readyRoot`, and a user breaking its spec just before the next pass reads it. -/
def specBroken : Cluster :=
  { readyCluster with ticks := [{ before := [.editSpec readyRoot.key brokenSpec] }] }

/-- From a state where the phase and the condition agree, one pass reaches a state whose
root is `Failed` with the condition `Ready` still `True`. -/
theorem failed_phase_keeps_true_ready_condition :
    Reachable specBroken ((reconcile readyRoot.key).run specBroken).2 ∧
      (specBroken.store.root readyRoot.key).map
        (fun kn => (kn.status.phase, kn.status.readyCondition)) =
        some (.ready, some .conditionTrue) ∧
      ((((reconcile readyRoot.key).run specBroken).2.store.root readyRoot.key).map
        fun kn => (kn.status.phase, kn.status.readyCondition)) =
        some (.failed, some .conditionTrue) :=
  ⟨.single (.pass _ _), by decide, by decide⟩

end KubeNovaOperator
