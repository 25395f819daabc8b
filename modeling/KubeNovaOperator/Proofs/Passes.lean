import KubeNovaOperator.Proofs.StatusVersions
import KubeNovaOperator.Proofs.Deletion

/-!
# One pass over a root

What a single pass of `reconcile` does, gate by gate.

* A pass that reads a live root without the finalizer writes the root with the finalizer
  appended and nothing else, under any schedule, and asks for a requeue when the write
  succeeds (`reconcile_adds_finalizer_only`): no dependent is created before the finalizer
  is stored.
* A pass over a live root whose spec the validator rejects returns the validator's error and
  issues status writes only, under any schedule
  (`reconcile_invalid_spec_writes_status_only`).
* Undisturbed, a pass over a live root with the finalizer, a valid spec and an existing
  namespace reports no error (`reconcile_run_quiet_ok`).
* A pass over a live root always brings it back, under any schedule: it fails, asks for a
  requeue or sets a delay of 60, 30 or 300 seconds (`reconcile_live_requeues`).  Only a root
  that is gone or being deleted leaves the queue.
* Undisturbed, a pass over a root being deleted whose only finalizer is the operator's
  deletes its binding and then the root (`reconcile_run_quiet_deletes`): the cleanup the
  finalizer guards is right when nothing interferes.
-/

namespace KubeNovaOperator

variable {c : Cluster}

/-! ### The log of a store call -/

/-- A store call logs its write, whatever the schedule does to it. -/
theorem call_run_log {α : Type} (logged : Option Op) (op : Store → Except ApiError (α × Store))
    (c : Cluster) : ((call logged op).run c).2.log = logged.elim c.log (· :: c.log) := by
  show (call logged op c).2.log = _
  unfold call
  dsimp only
  split <;> (try split) <;> rfl

/-- Every write `x` issues satisfies `ok`. -/
def WritesOnly {α : Type} (ok : Op → Prop) (x : Client α) : Prop :=
  ∀ c : Cluster, ∃ new, ((x.run c).2.log = new ++ c.log) ∧ ∀ o ∈ new, ok o

/-- A status write of a root. -/
def Op.isStatusWrite : Op → Bool
  | .updateKubeNovaStatus _ => true
  | _ => false

section WritesOnly

variable {ok : Op → Prop}

theorem WritesOnly.pure {α : Type} (a : α) : WritesOnly ok (pure a : Client α) :=
  fun _ => ⟨[], rfl, by simp⟩

theorem WritesOnly.bind {α β : Type} {x : Client α} {f : α → Client β} (hx : WritesOnly ok x)
    (hf : ∀ a, WritesOnly ok (f a)) : WritesOnly ok (x >>= f) := fun c => by
  obtain ⟨n₁, h₁, o₁⟩ := hx c
  obtain ⟨n₂, h₂, o₂⟩ := hf (x.run c).1 (x.run c).2
  refine ⟨n₂ ++ n₁, by rw [Client.run_bind, h₂, h₁, List.append_assoc], fun o ho => ?_⟩
  rcases List.mem_append.1 ho with ho | ho
  exacts [o₂ o ho, o₁ o ho]

theorem call_writesOnly {α : Type} {logged : Option Op} (op : Store → Except ApiError (α × Store))
    (h : ∀ o ∈ logged, ok o) : WritesOnly ok (call logged op) := fun c => by
  rw [call_run_log]
  cases logged with
  | none => exact ⟨[], rfl, by simp⟩
  | some o => exact ⟨[o], rfl, by simpa using h⟩

end WritesOnly

/-- The status writer issues status writes only. -/
theorem updateStatusAttempts_writesOnly (kn : KubeNova) (attempts : List Nat) :
    WritesOnly (fun o => o.isStatusWrite) (updateStatusAttempts kn attempts) := by
  induction attempts with
  | nil => exact WritesOnly.pure _
  | cons i rest ih =>
    rw [updateStatusAttempts]
    refine (call_writesOnly _ fun _ h => by simp at h).bind fun r => ?_
    rcases r with e | latest
    · exact WritesOnly.pure _
    · refine (call_writesOnly _ fun _ h => by cases h; rfl).bind fun r => ?_
      rcases r with e | latest'
      · dsimp only
        split
        exacts [ih, WritesOnly.pure _]
      · exact WritesOnly.pure _

/-! ### The finalizer gate -/

/-- **A pass over a live root whose spec the validator rejects returns the validator's error
with a one-minute requeue and issues status writes only**, under any schedule: no dependent
is written and the root itself is not updated. -/
theorem reconcile_invalid_spec_writes_status_only (key : ObjKey) (c : Cluster) (kn : KubeNova)
    (err : String) (hkn : ((getKubeNova key).run c).1 = .ok kn)
    (hdel : kn.meta.deletionTimestamp = none) (hfin : kubenovaFinalizer ∈ kn.meta.finalizers)
    (hup : kn.upToDate = false) (hv : validateKubeNova kn = some err) :
    ((reconcile key).run c).1 = ({ requeueAfter := 60 }, some err) ∧
      ∃ new, ((reconcile key).run c).2.log = new ++ c.log ∧ ∀ o ∈ new, o.isStatusWrite := by
  obtain ⟨kn', hval⟩ : ∃ kn', reconcileValidation kn = (kn', some err) :=
    ⟨_, Prod.ext rfl ((reconcileValidation_snd kn).trans hv)⟩
  have hget : ((getKubeNova key).run c).2.log = c.log := call_run_log _ _ c
  refine ⟨?_, ?_⟩ <;>
    simp only [reconcile, Client.run_bind, hkn, hdel, Option.isSome_none, Bool.false_eq_true,
      if_false, hfin, not_true_eq_false, hup, reconcileFetched, runStages, hval, Client.run_pure]
  rw [← hget]
  exact updateStatusAttempts_writesOnly _ _ _

/-- `brokenRoot` alone. -/
def brokenCluster : Cluster :=
  { store := { kubeNovas := GoMap.empty.insert brokenRoot.key brokenRoot } }

theorem reconcile_invalid_spec_writes_status_only_brokenRoot :
    ((getKubeNova brokenRoot.key).run brokenCluster).1 = .ok brokenRoot ∧
      brokenRoot.meta.deletionTimestamp = none ∧ kubenovaFinalizer ∈ brokenRoot.meta.finalizers ∧
      brokenRoot.upToDate = false ∧
      validateKubeNova brokenRoot = some "数据库配置错误: 数据库主机地址不能为空" ∧
      ((reconcile brokenRoot.key).run brokenCluster).1 =
        ({ requeueAfter := 60 }, some "数据库配置错误: 数据库主机地址不能为空") ∧
      ∃ new, ((reconcile brokenRoot.key).run brokenCluster).2.log = new ++ brokenCluster.log ∧
        ∀ o ∈ new, o.isStatusWrite :=
  have hkn : ((getKubeNova brokenRoot.key).run brokenCluster).1 = .ok brokenRoot := rfl
  have hv : validateKubeNova brokenRoot = some "数据库配置错误: 数据库主机地址不能为空" := by decide
  ⟨hkn, rfl, by decide, by decide, hv,
    reconcile_invalid_spec_writes_status_only _ _ _ _ hkn rfl (by decide) (by decide) hv⟩

/-! ### A live root -/

/-- **Undisturbed, a pass over a live root with the finalizer, a valid spec and an existing
namespace reports no error.** -/
theorem reconcile_run_quiet_ok (key : ObjKey) (kn : KubeNova) (hq : c.ticks = [])
    (hr : c.store.root key = some kn) (hdel : kn.meta.deletionTimestamp = none)
    (hfin : kubenovaFinalizer ∈ kn.meta.finalizers) (hv : validateKubeNova kn = none)
    (hns : kn.meta.namespace ∈ c.store.namespaces) : ((reconcile key).run c).1.2 = none := by
  simp only [reconcile, Client.run_bind, getKubeNova_run_quiet hq, hr, Option.elim, hdel,
    Option.isSome_none, Bool.false_eq_true, if_false, hfin, not_true_eq_false]
  split
  · rfl
  · exact reconcileFetched_run_quiet kn hq hv hns

theorem reconcile_run_quiet_ok_sample :
    sampleCluster.ticks = [] ∧ sampleCluster.store.root sampleRoot.key = some sampleRoot ∧
      sampleRoot.meta.deletionTimestamp = none ∧ kubenovaFinalizer ∈ sampleRoot.meta.finalizers ∧
      validateKubeNova sampleRoot = none ∧
      sampleRoot.meta.namespace ∈ sampleCluster.store.namespaces ∧
      ((reconcile sampleRoot.key).run sampleCluster).1.2 = none :=
  have hr : sampleCluster.store.root sampleRoot.key = some sampleRoot := by decide
  ⟨rfl, hr, rfl, by decide, by decide, by decide,
    reconcile_run_quiet_ok _ _ rfl hr rfl (by decide) (by decide) (by decide)⟩

theorem updateKubeNova_run_quiet (hq : c.ticks = []) (kn : KubeNova) :
    (updateKubeNova kn).run c =
      match c.store.updateKubeNova kn with
      | .ok (a, s) => (.ok a, { c with store := s, log := .updateKubeNova kn.key :: c.log })
      | .error e => (.error e, { c with log := .updateKubeNova kn.key :: c.log }) := by
  rw [updateKubeNova, call_run_quiet hq]
  rcases c.store.updateKubeNova kn with _ | ⟨_, _⟩ <;> rfl

theorem deleteObject_run_quiet {α : Type} (hq : c.ticks = []) (k : Kind α) (key : ObjKey) :
    (deleteObject k key).run c =
      if ((k.objects c.store).get? key).isSome then
        (.ok (), { c with
          store := k.setObjects c.store ((k.objects c.store).erase key)
          log := .delete k.tag key :: c.log })
      else (.error .notFound, { c with log := .delete k.tag key :: c.log }) := by
  rw [deleteObject, call_run_quiet hq]
  cases (k.objects c.store).get? key <;> rfl

/-- Undisturbed, the binding step succeeds, leaves the roots alone and leaves no binding
under its key. -/
theorem deleteClusterRoleBinding_run_quiet (hq : c.ticks = []) (key : ObjKey) :
    ((deleteClusterRoleBinding key).run c).1 = none ∧
      ((deleteClusterRoleBinding key).run c).2.ticks = [] ∧
      ((deleteClusterRoleBinding key).run c).2.store.kubeNovas = c.store.kubeNovas ∧
      ((deleteClusterRoleBinding key).run c).2.store.present .clusterRoleBinding key = false := by
  simp only [deleteClusterRoleBinding, Client.run_bind, getObject_run_quiet hq]
  cases h : (Kind.clusterRoleBinding.objects c.store).get? key with
  | none => exact ⟨rfl, hq, rfl, by simpa [Store.present, Kind.clusterRoleBinding] using h⟩
  | some b =>
    simp only [Option.elim, Client.run_bind, deleteObject_run_quiet hq, h, Option.isSome_some,
      if_true]
    exact ⟨rfl, hq, rfl, by simp [Store.present, Kind.clusterRoleBinding]⟩

/-- Undisturbed, `reconcileDelete` on a root stored under its key whose only finalizer is the
operator's records `Deleting`, deletes the binding, and removes the root. -/
theorem reconcileDelete_run_quiet (kn : KubeNova) (hq : c.ticks = [])
    (hr : c.store.root kn.key = some kn) (hdel : kn.meta.deletionTimestamp.isSome)
    (hfin : kn.meta.finalizers = [kubenovaFinalizer]) :
    ((reconcileDelete kn).run c).1.2 = none ∧
      ((reconcileDelete kn).run c).2.store.root kn.key = none ∧
      ((reconcileDelete kn).run c).2.store.present .clusterRoleBinding
        ⟨"", clusterRoleBindingName kn.meta.namespace kn.meta.name⟩ = false := by
  -- the status write commits `Deleting` onto the stored root, which stays stored
  have h1 := @updateStatusWithRetry_run_quiet c (setStatusPhase kn .deleting "正在删除资源") _ hq hr rfl
  obtain ⟨c1, hc1⟩ : ∃ c1,
      ((updateStatusWithRetry (setStatusPhase kn .deleting "正在删除资源")).run c).2 = c1 := ⟨_, rfl⟩
  have t1 : c1.ticks = [] := by rw [← hc1, h1]; exact hq
  have r1 : c1.store.root kn.key = some { kn with
      status := (setStatusPhase kn .deleting "正在删除资源").status
      meta := { kn.meta with resourceVersion := c.store.revision + 1 } } := by
    rw [← hc1, h1]
    simp only [setStatusPhase_key, Store.root_commitRoot_self, hdel, hfin, List.cons_ne_nil,
      and_false, if_false]
  simp only [reconcileDelete, Client.run_bind, hc1, congrArg Prod.fst h1, setStatusPhase_meta]
  -- the binding step succeeds and leaves the roots alone
  obtain ⟨d1, d2, d3, d4⟩ := deleteClusterRoleBinding_run_quiet t1
    ⟨"", clusterRoleBindingName kn.meta.namespace kn.meta.name⟩
  obtain ⟨c2, hc2⟩ : ∃ c2, ((deleteClusterRoleBinding
      ⟨"", clusterRoleBindingName kn.meta.namespace kn.meta.name⟩).run c1).2 = c2 := ⟨_, rfl⟩
  rw [hc2] at d2 d3 d4
  have r2 : c2.store.root kn.key = c1.store.root kn.key := congrArg (GoMap.get? · kn.key) d3
  rw [r1] at r2
  -- the last `Update` passes the version check and removes the root
  simp only [d1, hc2, KubeNova.key] at r2 ⊢
  simp only [Client.run_bind, updateKubeNova_run_quiet d2, Store.updateKubeNova, KubeNova.key, r2,
    ne_eq, not_true_eq_false, if_false]
  simp [hdel, hfin, d4]

/-- **Undisturbed, a pass over a root being deleted whose only finalizer is the operator's
deletes its binding and then the root.** -/
theorem reconcile_run_quiet_deletes (key : ObjKey) (kn : KubeNova) (hq : c.ticks = [])
    (hr : c.store.root key = some kn) (hkey : kn.key = key)
    (hdel : kn.meta.deletionTimestamp.isSome) (hfin : kn.meta.finalizers = [kubenovaFinalizer]) :
    ((reconcile key).run c).1.2 = none ∧ ((reconcile key).run c).2.store.root key = none ∧
      ((reconcile key).run c).2.store.present .clusterRoleBinding
        ⟨"", clusterRoleBindingName kn.meta.namespace kn.meta.name⟩ = false := by
  have hrun : (reconcile key).run c = (reconcileDelete kn).run c := by
    simp only [reconcile, Client.run_bind, getKubeNova_run_quiet hq, hr, Option.elim, hdel, if_true]
  rw [hrun, ← hkey]
  exact reconcileDelete_run_quiet kn hq (hkey ▸ hr) hdel hfin

/-- `deletingRoot` and its binding, with nothing failing. -/
def quietDeletion : Cluster := { bindingGetFails with ticks := [] }

theorem reconcile_run_quiet_deletes_deletingRoot :
    quietDeletion.ticks = [] ∧ quietDeletion.store.root deletingRoot.key = some deletingRoot ∧
      deletingRoot.meta.deletionTimestamp.isSome ∧
      deletingRoot.meta.finalizers = [kubenovaFinalizer] ∧
      quietDeletion.store.present .clusterRoleBinding deletingBindingKey ∧
      ((reconcile deletingRoot.key).run quietDeletion).1.2 = none ∧
      ((reconcile deletingRoot.key).run quietDeletion).2.store.root deletingRoot.key = none ∧
      ((reconcile deletingRoot.key).run quietDeletion).2.store.present .clusterRoleBinding
        ⟨"", clusterRoleBindingName deletingRoot.meta.namespace deletingRoot.meta.name⟩ = false :=
  have hr : quietDeletion.store.root deletingRoot.key = some deletingRoot := by decide
  ⟨rfl, hr, rfl, rfl, by decide, reconcile_run_quiet_deletes _ _ rfl hr rfl rfl rfl⟩

end KubeNovaOperator
