import KubeNovaOperator.Proofs.StatusWrites
import KubeNovaOperator.Proofs.Quiet

/-!
# A successful pipeline leaves every dependent stored

`reconcileFetched_stores_desiredObjects`: when the pipeline a pass runs after its gates
(`reconcileFetched`) reports no error, every dependent the builders produce for the root it
read is stored when it returns, whatever failed on the way and whatever the other parties
wrote in between (spec edits, deletion requests, other controllers' finalizers and ready
replica counts, none of which removes an object).  Stages 1–7 store them
(`runStages_ensures`), and the aggregator only writes a status.

Nothing of the kind holds of the ready replicas.  A pass that finds the status `Ready` for
the current generation returns at once, and a status once `Ready` stays so while the
Deployments lose their ready pods (`reconcile_keeps_ready_after_replicas_drop`).
-/

namespace KubeNovaOperator

theorem stable_true : Stable fun _ => True := fun _ _ _ _ => trivial

/-- **Every dependent of the root is stored when the pipeline reports no error.** -/
theorem reconcileFetched_stores_desiredObjects (kn : KubeNova) (c : Cluster)
    (h : ((reconcileFetched kn).run c).1.2 = none) :
    AllPresent (desiredObjects kn) ((reconcileFetched kn).run c).2.store := by
  have hrun : Hoare (fun _ => True) (reconcileFetched kn) fun r s =>
      r.2 = none → AllPresent (desiredObjects kn) s := by
    refine (runStages_ensures kn _ stable_true).bind fun r => ?_
    obtain ⟨kn', _ | ⟨pre, err⟩⟩ := r
    · refine ((checkComponentStatus_spec (allPresent_stable _) _
        fun _ _ _ _ _ h _ => by simpa using h).weaken fun _ h => h.2 rfl).bind fun r => ?_
      obtain ⟨_, _ | _⟩ := r <;> exact Hoare.pure fun _ h _ => h
    · refine ((updateStatusWithRetry_spec stable_true _ fun _ _ _ _ _ => trivial).weaken
        fun _ _ => trivial).bind fun _ => ?_
      exact Hoare.pure fun _ _ h => nomatch h
  exact hrun c trivial h

/-- A root of the sample spec, with the finalizer, in a namespace that exists. -/
def sampleRoot : KubeNova :=
  { meta := { name := "demo", «namespace» := "nova", finalizers := [kubenovaFinalizer] }
    spec := sampleSpec }

/-- The store before the first pass over `sampleRoot`. -/
def sampleCluster : Cluster :=
  { store := { kubeNovas := GoMap.empty.insert sampleRoot.key sampleRoot, namespaces := ["nova"] } }

theorem reconcileFetched_stores_desiredObjects_sample :
    ((reconcileFetched sampleRoot).run sampleCluster).1.2 = none ∧
      AllPresent (desiredObjects sampleRoot)
        ((reconcileFetched sampleRoot).run sampleCluster).2.store :=
  have h := reconcileFetched_run_quiet sampleRoot rfl (by decide) (by decide)
  ⟨h, reconcileFetched_stores_desiredObjects _ _ h⟩

/-- A Deployment with all its pods ready. -/
def Deployment.allReady (d : Deployment) : Deployment :=
  { d with readyReplicas := d.desiredReplicas }

/-- `sampleRoot` as a pass leaves it when it finds every component ready. -/
def readyRoot : KubeNova := setAggregatePhase sampleRoot true

/-- `sampleSpec` with no database host, which the validator rejects. -/
def brokenSpec : KubeNovaSpec :=
  { sampleSpec with database := { sampleSpec.database with host := "" } }

/-- Every Deployment of `readyRoot`, each with all its pods ready. -/
def readyDeployments : GoMap ObjKey Deployment :=
  ((buildAllServices readyRoot "nova").entries.foldl
    (fun m e => m.insert ⟨"nova", e.2.deployment.name⟩ e.2.deployment.allReady) GoMap.empty).insert
    ⟨"nova", "kube-nova-web"⟩ (buildWebDeployment readyRoot "nova").allReady

/-- The web pod is lost just before the next pass reads the root. -/
def webPodLost : Cluster :=
  { store := { kubeNovas := GoMap.empty.insert readyRoot.key readyRoot, namespaces := ["nova"]
               deployments := readyDeployments }
    ticks := [{ before := [.setReadyReplicas ⟨"nova", "kube-nova-web"⟩ 0] }] }

/-- The pass returns no error and the stored status still reports `Ready` for the current
generation, while the web Deployment has none of its replicas ready. -/
theorem reconcile_keeps_ready_after_replicas_drop :
    ((reconcile readyRoot.key).run webPodLost).1.2 = none ∧
      (((reconcile readyRoot.key).run webPodLost).2.store.root readyRoot.key).map
        (fun kn => (kn.status.phase, kn.status.observedGeneration == kn.meta.generation)) =
        some (.ready, true) ∧
      (((reconcile readyRoot.key).run webPodLost).2.store.deployments.get?
        ⟨"nova", "kube-nova-web"⟩).map (fun d => d.readyReplicas == d.desiredReplicas) =
        some false := by
  decide

end KubeNovaOperator
