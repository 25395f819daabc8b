import KubeNovaOperator.Controller.Stages

/-!
# `Reconcile`

One pass over a root: fetch it; hand a root being deleted to `reconcileDelete`; add the
finalizer and requeue when it is missing; skip a root whose status reports `Ready` for its
current generation; otherwise run stages 1–7 and, on the first error, record `Failed` with
the stage's prefix, else aggregate the component status (stage 8).

The seven error blocks of the source are one step: `runStages` returns the caller's copy
with the first error and the prefix of its stage, and `reconcileFetched` writes `Failed`
from it.  Requeue delays are in seconds.
-/

namespace KubeNovaOperator

/-- `ctrl.Result`. -/
structure Result where
  requeue : Bool := false
  requeueAfter : Nat := 0
  deriving DecidableEq, Repr

/-! ### Stages 1–8 -/

/-- Run a stage; stop with its error and the stage's prefix, or go on. -/
def andThen (kn : KubeNova) (pre : String) (x : Client (Option String))
    (k : Client (KubeNova × Option (String × String))) :
    Client (KubeNova × Option (String × String)) := do
  match ← x with
  | some err => pure (kn, some (pre, err))
  | none => k

/-- Stages 1–7 of `Reconcile`: the caller's copy after them, and the first error with the
prefix of its stage. -/
def runStages (kn : KubeNova) : Client (KubeNova × Option (String × String)) :=
  match reconcileValidation kn with
  | (kn, some err) => pure (kn, some ("配置验证失败: ", err))
  | (kn, none) =>
    andThen kn "Namespace 错误: " (reconcileNamespace kn) <|
    andThen kn "创建 RBAC 资源失败: " (reconcileRBAC kn) <|
    andThen kn "创建 Secret 失败: " (reconcileSecret kn) <|
    andThen kn "创建 ConfigMap 失败: " (reconcileConfigMaps kn) do
      match ← reconcileServices kn with
      | (kn, some err) => pure (kn, some ("部署后端服务失败: ", err))
      | (kn, none) => andThen kn "部署 Web 前端失败: " (reconcileWeb kn) (pure (kn, none))

/-- The pipeline of `Reconcile` after its three gates: stages 1–7, `Failed` with a one-minute
requeue on an error, else `checkComponentStatus`, whose own error only shortens the
requeue. -/
def reconcileFetched (kn : KubeNova) : Client (Result × Option String) := do
  match ← runStages kn with
  | (kn, some (pre, err)) =>
    let _ ← updateStatusWithRetry (setStatusPhase kn .failed (pre ++ err))
    pure ({ requeueAfter := 60 }, some err)
  | (kn, none) =>
    match ← checkComponentStatus kn with
    | (_, some _) => pure ({ requeueAfter := 30 }, none)
    | (_, none) => pure ({ requeueAfter := 300 }, none)

/-! ### Deletion -/

/-- The binding step of `reconcileDelete`: the binding is deleted when its Get succeeds, and
only a failed Delete other than not-found is an error. -/
def deleteClusterRoleBinding (key : ObjKey) : Client (Option String) := do
  match ← getObject Kind.clusterRoleBinding key with
  | .ok _ =>
    match ← deleteObject Kind.clusterRoleBinding key with
    | .error e => pure (if e = .notFound then none else some e.text)
    | .ok () => pure none
  | .error _ => pure none

/-- `reconcileDelete`: record `Deleting` (ignoring the error), delete the binding, then write
the caller's copy without the finalizer. -/
def reconcileDelete (kn : KubeNova) : Client (Result × Option String) := do
  let (kn, _) ← updateStatusWithRetry (setStatusPhase kn .deleting "正在删除资源")
  match ← deleteClusterRoleBinding ⟨"", clusterRoleBindingName kn.meta.namespace kn.meta.name⟩ with
  | some err => pure ({}, some err)
  | none =>
    match ← updateKubeNova { kn with meta := { kn.meta with
        finalizers := kn.meta.finalizers.filter (· ≠ kubenovaFinalizer) } } with
    | .error e => pure ({}, some e.text)
    | .ok _ => pure ({}, none)

/-! ### The pass -/

/-- Whether a root's status already reports `Ready` for its current generation. -/
def KubeNova.upToDate (kn : KubeNova) : Bool :=
  kn.status.observedGeneration = kn.meta.generation ∧ kn.status.phase = .ready

/-- `Reconcile`. -/
def reconcile (key : ObjKey) : Client (Result × Option String) := do
  match ← getKubeNova key with
  | .error .notFound => pure ({}, none)
  | .error e => pure ({}, some e.text)
  | .ok kn =>
    if kn.meta.deletionTimestamp.isSome then reconcileDelete kn
    else if kubenovaFinalizer ∉ kn.meta.finalizers then
      match ← updateKubeNova { kn with meta := { kn.meta with
          finalizers := kn.meta.finalizers ++ [kubenovaFinalizer] } } with
      | .error e => pure ({}, some e.text)
      | .ok _ => pure ({ requeue := true }, none)
    else if kn.upToDate then pure ({ requeueAfter := 300 }, none)
    else reconcileFetched kn

end KubeNovaOperator
