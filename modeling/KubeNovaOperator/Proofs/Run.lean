import KubeNovaOperator.Proofs.StatusWrites
import Mathlib.Logic.Relation

/-!
# Runs

A run is any sequence of `Step`s: a pass of `reconcile` over some root, a write by another
party between passes, a collection by the garbage collector, or a new schedule (which fixes
the failures and interleavings of the next passes and their map orders).  `Reachable c₀ c`
when a run leads from `c₀` to `c`.

`reconcile_spec` says everything a pass can do to the store, under any schedule: drift,
status commits that `StatusOk` accepts, commits of a root that keep its stored status (the
finalizer updates), and the removal of a dependent (the binding `reconcileDelete` deletes).
A property that all of these keep, and that other parties and the collector keep, holds in
every reachable state (`Reachable.induction_on_steps`).
-/

namespace KubeNovaOperator

section Pass

variable {P : Store → Prop} (hP : Stable P)
  (hstatus : ∀ st, StatusOk st → ∀ s key r, P s → s.root key = some r →
    P (s.commitRoot key { r with status := st }).2)
  (hkeep : ∀ s key r r', P s → s.root key = some r → r'.status = r.status →
    P (s.commitRoot key r').2)
  (hdelete : ∀ (s : Store) (key : ObjKey), P s →
    P (Kind.clusterRoleBinding.setObjects s ((Kind.clusterRoleBinding.objects s).erase key)))
include hP hstatus

/-- The pipeline after the gates. -/
theorem reconcileFetched_spec (kn : KubeNova) : Hoare P (reconcileFetched kn) fun _ => P := by
  refine ((runStages_ensures kn P hP).post fun _ _ h => h.1).bind fun r => ?_
  obtain ⟨kn', _ | ⟨pre, err⟩⟩ := r
  · refine (checkComponentStatus_spec hP _ hstatus).bind fun r => ?_
    obtain ⟨_, _ | _⟩ := r <;> exact Hoare.pure fun _ => id
  · refine (updateStatusWithRetry_spec hP (setStatusPhase kn' .failed (pre ++ err))
      (hstatus _ (statusOk_of_ne_ready (by simp)))).bind fun _ => ?_
    exact Hoare.pure fun _ h => h.1

omit hstatus in
include hdelete in
theorem deleteClusterRoleBinding_spec (key : ObjKey) :
    Hoare P (deleteClusterRoleBinding key) fun _ => P := by
  refine (getObject_spec hP _ _).bind fun r => ?_
  rcases r with _ | _
  · exact Hoare.pure fun _ h => h.1
  · refine ((deleteObject_spec hP _ _ fun s => hdelete s _).weaken fun _ h => h.1).bind fun r => ?_
    rcases r with _ | _ <;> exact Hoare.pure fun _ => id

include hkeep hdelete in
/-- `reconcileDelete`. -/
theorem reconcileDelete_spec (kn : KubeNova) : Hoare P (reconcileDelete kn) fun _ => P := by
  refine (updateStatusWithRetry_spec hP (setStatusPhase kn .deleting "正在删除资源")
    (hstatus _ (statusOk_of_ne_ready (by simp)))).bind fun ⟨kn', _⟩ => ?_
  refine ((deleteClusterRoleBinding_spec hP hdelete _).weaken fun _ h => h.1).bind fun r => ?_
  rcases r with _ | _
  · refine (updateKubeNova_spec hP _ hkeep).bind fun r => ?_
    rcases r with _ | _ <;> exact Hoare.pure fun _ => id
  · exact Hoare.pure fun _ => id

include hkeep hdelete in
/-- **What a pass can do to the store**, under any schedule. -/
theorem reconcile_spec (key : ObjKey) : Hoare P (reconcile key) fun _ => P := by
  refine (getKubeNova_spec hP key).bind fun r => ?_
  rcases r with (_ | _ | _ | _ | _) | kn
  iterate 5 exact Hoare.pure fun _ h => h.1
  · dsimp only
    split
    · exact (reconcileDelete_spec hP hstatus hkeep hdelete kn).weaken fun _ h => h.1
    · split
      · refine ((updateKubeNova_spec hP _ hkeep).weaken fun _ h => h.1).bind fun r => ?_
        rcases r with _ | _ <;> exact Hoare.pure fun _ => id
      · split
        · exact Hoare.pure fun _ h => h.1
        · exact (reconcileFetched_spec hP hstatus kn).weaken fun _ h => h.1

end Pass

/-! ### Runs -/

/-- One step of a run. -/
inductive Step : Cluster → Cluster → Prop
  /-- A pass of `reconcile` over a root. -/
  | pass (key : ObjKey) (c : Cluster) : Step c ((reconcile key).run c).2
  /-- A write by another party between passes. -/
  | ext (e : ExtEvent) (c : Cluster) : Step c { c with store := e.apply c.store }
  /-- The garbage collector removing a dependent (`Store.collectGarbage`). -/
  | collect (tag : KindTag) (key : ObjKey) (c : Cluster) :
      Step c { c with store := c.store.collectGarbage tag key }
  /-- A new schedule for the passes to come. -/
  | schedule (c : Cluster) (ticks : List Tick) (order : MapOrder) : Step c { c with ticks, order }

/-- The clusters a run from `c₀` reaches. -/
def Reachable (c₀ c : Cluster) : Prop := Relation.ReflTransGen Step c₀ c

/-- **A property every kind of step keeps holds in every reachable state.** -/
theorem Reachable.induction_on_steps {P : Store → Prop} (hP : Stable P)
    (hstatus : ∀ st, StatusOk st → ∀ s key r, P s → s.root key = some r →
      P (s.commitRoot key { r with status := st }).2)
    (hkeep : ∀ s key r r', P s → s.root key = some r → r'.status = r.status →
      P (s.commitRoot key r').2)
    (hdelete : ∀ (s : Store) (key : ObjKey), P s →
      P (Kind.clusterRoleBinding.setObjects s ((Kind.clusterRoleBinding.objects s).erase key)))
    (hcollect : ∀ s tag key, P s → P (s.collectGarbage tag key))
    {c₀ c : Cluster} (h₀ : P c₀.store) (h : Reachable c₀ c) : P c.store := by
  induction h with
  | refl => exact h₀
  | tail _ hstep ih =>
    cases hstep with
    | pass key => exact reconcile_spec hP hstatus hkeep hdelete key _ ih
    | ext e => exact hP _ _ (.ext _ e) ih
    | collect tag key => exact hcollect _ tag key ih
    | schedule => exact ih

/-- The service account of a root `nova/demo`, stored before the root exists. -/
def strayAccount : Cluster :=
  { store := { serviceAccounts := GoMap.empty.insert ⟨"nova", "kube-nova"⟩ ⟨"kube-nova"⟩ } }

end KubeNovaOperator
