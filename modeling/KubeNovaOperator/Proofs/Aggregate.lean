import KubeNovaOperator.Proofs.Presence

/-!
# What the aggregator reports

`checkComponentStatus` reads the Deployments under the seven names of `managedServices` and
`kube-nova-web`, skips every one it cannot read, and reports `Ready` when every one it read has
all its replicas ready.  With no other party writing while it reads, and whichever of its Gets
fail, its phase is therefore `Ready` exactly when each of those eight names whose Get does not
fail has no Deployment or a ready one (`checkComponentStatus_ready_iff_stored_ready`): a failed
Get counts like an absent name, and the spec's enabled set plays no part.

So a component the spec enables whose Deployment is missing counts as ready, and a leftover
Deployment of a component the spec disables counts against readiness
(`checkComponentStatus_ignores_enabled_set`).
-/

namespace KubeNovaOperator

/-- Whether the Deployment stored under a name, if any, has all its replicas ready. -/
def storedReady (s : Store) (ns name : String) : Bool :=
  match s.deployments.get? ⟨ns, name⟩ with
  | some d => decide (d.readyReplicas = d.desiredReplicas)
  | none => true

theorem storedReady_iff (s : Store) (ns name : String) :
    storedReady s ns name = true ↔
      ∀ d, s.deployments.get? ⟨ns, name⟩ = some d → d.readyReplicas = d.desiredReplicas := by
  unfold storedReady
  split <;> simp_all

@[simp] theorem serviceComponentStatus_snd (d : Deployment) :
    (serviceComponentStatus d).2 = decide (d.readyReplicas = d.desiredReplicas) := by
  unfold serviceComponentStatus; dsimp only; split_ifs <;> simp_all

@[simp] theorem webComponentStatus_snd (d : Deployment) :
    (webComponentStatus d).2 = decide (d.readyReplicas = d.desiredReplicas) := by
  unfold webComponentStatus; dsimp only; split_ifs <;> simp_all

/-- The two records differ in one branch: a Deployment that wants pods and has none ready is
`Pending` as a backend service but `Running` as the web front end, which has no pending
state. -/
theorem componentStatus_no_ready_pod (d : Deployment) (h0 : d.readyReplicas = 0)
    (hd : d.desiredReplicas ≠ 0) :
    (serviceComponentStatus d).1.state = .pending ∧ (webComponentStatus d).1.state = .running := by
  simp [serviceComponentStatus, webComponentStatus, h0, Ne.symm hd]

@[simp] theorem setAggregatePhase_status_phase (kn : KubeNova) (allReady : Bool) :
    (setAggregatePhase kn allReady).status.phase = if allReady then .ready else .creating := by
  cases allReady <;> rfl

variable {c : Cluster}

/-! ### The two read loops -/

theorem checkServiceStatuses_run_quiet (hq : c.ticks = []) (ns : String) (names : List String)
    (kn : KubeNova) (allReady : Bool) :
    ((checkServiceStatuses ns names kn allReady).run c).1.2 =
        (allReady && names.all (storedReady c.store ns)) ∧
      ((checkServiceStatuses ns names kn allReady).run c).2 = c := by
  induction names generalizing kn allReady with
  | nil => simp [checkServiceStatuses]
  | cons name rest ih =>
    simp only [checkServiceStatuses, Client.run_bind, getObject_run_quiet hq,
      Kind.deployment_objects]
    cases h : c.store.deployments.get? ⟨ns, name⟩ with
    | none => simpa [storedReady, h] using ih _ _
    | some d =>
      have hd : storedReady c.store ns name = decide (d.readyReplicas = d.desiredReplicas) := by
        simp [storedReady, h]
      simp only [Option.elim, serviceComponentStatus_snd, List.all_cons, hd, ← Bool.and_assoc]
      exact ih _ _

theorem checkWebStatus_run_quiet (hq : c.ticks = []) (ns : String) (kn : KubeNova)
    (allReady : Bool) :
    ((checkWebStatus ns kn allReady).run c).1.2 =
        (allReady && storedReady c.store ns "kube-nova-web") ∧
      ((checkWebStatus ns kn allReady).run c).2 = c := by
  simp only [checkWebStatus, Client.run_bind, getObject_run_quiet hq, Kind.deployment_objects]
  cases h : c.store.deployments.get? ⟨ns, "kube-nova-web"⟩ <;> simp [storedReady, h]

/-! ### Reads under any faults -/

/-- Whether each of `names`, read in order at the ticks of the schedule, counts as ready: a
Get that the schedule fails is skipped, as is a name with no Deployment. -/
def readsReady (s : Store) (ns : String) : List String → List Tick → Bool
  | [], _ => true
  | name :: rest, ticks =>
    ((ticks.headD {}).fault.isSome || storedReady s ns name) && readsReady s ns rest ticks.tail

theorem readsReady_append (s : Store) (ns : String) (l₁ l₂ : List String) (ticks : List Tick) :
    readsReady s ns (l₁ ++ l₂) ticks =
      (readsReady s ns l₁ ticks && readsReady s ns l₂ (ticks.drop l₁.length)) := by
  induction l₁ generalizing ticks with
  | nil => simp [readsReady]
  | cons name rest ih => simp [readsReady, ih, List.drop_tail, Bool.and_assoc]

/-- The `i`-th name counts when the `i`-th tick does not fail its Get. -/
theorem readsReady_iff (s : Store) (ns : String) (names : List String) (ticks : List Tick) :
    readsReady s ns names ticks = true ↔
      ∀ i (hi : i < names.length), (ticks.getD i {}).fault = none →
        storedReady s ns names[i] = true := by
  induction names generalizing ticks with
  | nil => simp [readsReady]
  | cons name rest ih =>
    have h₀ : ticks.getD 0 {} = ticks.headD {} := by cases ticks <;> rfl
    have hs : ∀ i, ticks.getD (i + 1) {} = ticks.tail.getD i {} := by cases ticks <;> simp
    simp only [readsReady, Bool.and_eq_true, Bool.or_eq_true, ih, Option.isSome_iff_ne_none]
    constructor
    · rintro ⟨h, hrest⟩ (_ | i) hi hf
      · exact h.resolve_left (not_not.2 (h₀ ▸ hf))
      · exact hrest i (Nat.lt_of_succ_lt_succ hi) (hs i ▸ hf)
    · intro h
      refine ⟨?_, fun i hi hf => h (i + 1) (Nat.succ_lt_succ hi) (hs i ▸ hf)⟩
      by_cases hf : (ticks.headD {}).fault = none
      · exact .inr (h 0 (Nat.zero_lt_succ _) (h₀ ▸ hf))
      · exact .inl hf

/-- A schedule whose ticks carry no other party's write, only faults. -/
def FaultsOnly (c : Cluster) : Prop := ∀ t ∈ c.ticks, t.before = []

instance (c : Cluster) : Decidable (FaultsOnly c) :=
  inferInstanceAs (Decidable (∀ t ∈ c.ticks, t.before = []))

theorem FaultsOnly.tail (h : FaultsOnly c) : FaultsOnly { c with ticks := c.ticks.tail } :=
  fun t ht => h t (List.mem_of_mem_tail ht)

theorem getObject_run_of_faultsOnly (h : FaultsOnly c) {α : Type} (k : Kind α) (key : ObjKey) :
    (getObject k key).run c =
      ((c.ticks.headD {}).fault.elim (((k.objects c.store).get? key).elim (.error .notFound) .ok)
        .error, { c with ticks := c.ticks.tail }) := by
  obtain ⟨store, ticks, log, order⟩ := c
  have hb : (ticks.headD {}).before = [] := by
    cases ticks with
    | nil => rfl
    | cons t ts => exact h t (.head _)
  cases ticks with
  | nil =>
    cases hg : (k.objects store).get? key <;>
      simp [getObject, call, StateT.run, Cluster.nextTick, hg]
  | cons t ts =>
    obtain ⟨before, fault⟩ := t
    obtain rfl : before = [] := hb
    cases fault <;> cases hg : (k.objects store).get? key <;>
      simp [getObject, call, StateT.run, Cluster.nextTick, hg]

theorem checkServiceStatuses_run_of_faultsOnly (h : FaultsOnly c) (ns : String)
    (names : List String) (kn : KubeNova) (allReady : Bool) :
    ((checkServiceStatuses ns names kn allReady).run c).1.2 =
        (allReady && readsReady c.store ns names c.ticks) ∧
      ((checkServiceStatuses ns names kn allReady).run c).2 =
        { c with ticks := c.ticks.drop names.length } := by
  induction names generalizing c kn allReady with
  | nil => simp [checkServiceStatuses, readsReady]
  | cons name rest ih =>
    have ih₁ := fun kn allReady => (ih h.tail kn allReady).1
    have ih₂ := fun kn allReady => (ih h.tail kn allReady).2
    simp only [checkServiceStatuses, Client.run_bind, getObject_run_of_faultsOnly h,
      Kind.deployment_objects, readsReady] at ih₁ ih₂ ⊢
    cases hf : (c.ticks.headD {}).fault with
    | some e => simp [ih₁, ih₂, List.drop_tail]
    | none =>
      cases hg : c.store.deployments.get? ⟨ns, name⟩ with
      | none => simp [storedReady, hg, ih₁, ih₂, List.drop_tail]
      | some d => simp [storedReady, hg, ih₁, ih₂, List.drop_tail, Bool.and_assoc]

theorem checkWebStatus_run_of_faultsOnly (h : FaultsOnly c) (ns : String) (kn : KubeNova)
    (allReady : Bool) :
    ((checkWebStatus ns kn allReady).run c).1.2 =
        (allReady && ((c.ticks.headD {}).fault.isSome || storedReady c.store ns "kube-nova-web")) ∧
      ((checkWebStatus ns kn allReady).run c).2 = { c with ticks := c.ticks.tail } := by
  simp only [checkWebStatus, Client.run_bind, getObject_run_of_faultsOnly h,
    Kind.deployment_objects]
  cases (c.ticks.headD {}).fault <;> cases hg : c.store.deployments.get? ⟨ns, "kube-nova-web"⟩ <;>
    simp [storedReady, hg]

/-! ### The phase -/

/-- Whatever happens, the status writer returns the caller's status. -/
@[simp] theorem updateStatusWithRetry_run_status (kn : KubeNova) (c : Cluster) :
    ((updateStatusWithRetry kn).run c).1.1.status = kn.status :=
  (updateStatusWithRetry_spec stable_true kn (fun _ _ _ _ _ => trivial) c trivial).2

/-- Undisturbed, the aggregator's phase is `Ready` exactly when every Deployment it reads is
ready. -/
theorem checkComponentStatus_phase_run_quiet (kn : KubeNova) (hq : c.ticks = []) :
    ((checkComponentStatus kn).run c).1.1.status.phase =
      if (managedServices ++ ["kube-nova-web"]).all (storedReady c.store kn.meta.namespace)
      then .ready else .creating := by
  obtain ⟨h1, h2⟩ := checkServiceStatuses_run_quiet hq kn.meta.namespace managedServices kn true
  simp only [checkComponentStatus, Client.run_bind, updateStatusWithRetry_run_status,
    setAggregatePhase_status_phase]
  rw [h2, (checkWebStatus_run_quiet hq _ _ _).1, h1, List.all_append]
  simp

/-- With only faults scheduled, the aggregator's phase is `Ready` exactly when each of the
eight reads counts. -/
theorem checkComponentStatus_phase_run_of_faultsOnly (kn : KubeNova) (h : FaultsOnly c) :
    ((checkComponentStatus kn).run c).1.1.status.phase =
      if readsReady c.store kn.meta.namespace (managedServices ++ ["kube-nova-web"]) c.ticks
      then .ready else .creating := by
  obtain ⟨h₁, h₂⟩ := checkServiceStatuses_run_of_faultsOnly h kn.meta.namespace managedServices
    kn true
  simp only [checkComponentStatus, Client.run_bind, updateStatusWithRetry_run_status,
    setAggregatePhase_status_phase]
  rw [h₂, (checkWebStatus_run_of_faultsOnly (fun t ht => h t (List.mem_of_mem_drop ht)) _ _
    _).1, h₁, readsReady_append]
  simp [readsReady]

/-- **Whichever of its Gets fail, the aggregator reports `Ready` exactly when each of the
eight names it reads, unless its Get fails, has no Deployment or one with all its replicas
ready**, when no other party writes meanwhile.  The `i`-th name is read at the `i`-th call. -/
theorem checkComponentStatus_ready_iff_stored_ready (kn : KubeNova) (c : Cluster)
    (h : FaultsOnly c) :
    ((checkComponentStatus kn).run c).1.1.status.phase = .ready ↔
      ∀ i (hi : i < (managedServices ++ ["kube-nova-web"]).length),
        (c.ticks.getD i {}).fault = none → ∀ d,
          c.store.deployments.get?
              ⟨kn.meta.namespace, (managedServices ++ ["kube-nova-web"])[i]⟩ = some d →
            d.readyReplicas = d.desiredReplicas := by
  rw [checkComponentStatus_phase_run_of_faultsOnly kn h]
  simp only [← storedReady_iff, ← readsReady_iff]
  split
  · exact iff_of_true rfl ‹_›
  · exact iff_of_false (by decide) ‹_›

/-! ### The enabled set plays no part -/

/-- `sampleRoot` with only the web Deployment stored, all its pods ready. -/
def webOnly : Cluster :=
  { store :=
      { kubeNovas := GoMap.empty.insert sampleRoot.key sampleRoot, namespaces := ["nova"]
        deployments := GoMap.empty.insert ⟨"nova", "kube-nova-web"⟩
          (buildWebDeployment sampleRoot "nova").allReady } }

/-- `sampleRoot` with `portal-api` disabled. -/
def portalDisabledRoot : KubeNova :=
  { sampleRoot with spec := { sampleSpec with services := { sampleSpec.services with
      portalAPI := some { enabled := some false } } } }

/-- A Deployment of one replica, ready. -/
def readyStub (name : String) : Deployment :=
  { name, spec := { replicas := some 1, containers := [], volumes := [] }, readyReplicas := 1 }

/-- Every Deployment ready, but for the one `portal-api` left behind, which has no pod. -/
def portalLeftover : Cluster :=
  { store :=
      { kubeNovas := GoMap.empty.insert portalDisabledRoot.key portalDisabledRoot
        namespaces := ["nova"]
        deployments :=
          ⟨(⟨"nova", "portal-api"⟩, { readyStub "portal-api" with readyReplicas := 0 }) ::
            (managedServices.tail ++ ["kube-nova-web"]).map fun n => (⟨"nova", n⟩, readyStub n)⟩ } }

/-- `portalLeftover`, where the Get of `portal-api`, the first name read, fails. -/
def portalReadFails : Cluster := { portalLeftover with ticks := [{ fault := some .other }] }

/-- The failed Get skips the one Deployment that is not ready, so the phase is `Ready`. -/
theorem checkComponentStatus_ready_iff_stored_ready_portalReadFails :
    FaultsOnly portalReadFails ∧
      (portalReadFails.store.deployments.get? ⟨"nova", "portal-api"⟩).map
        (fun d => d.readyReplicas == d.desiredReplicas) = some false ∧
      ((checkComponentStatus portalDisabledRoot).run portalReadFails).1.1.status.phase = .ready ∧
      (((checkComponentStatus portalDisabledRoot).run portalReadFails).1.1.status.phase = .ready ↔
        ∀ i (hi : i < (managedServices ++ ["kube-nova-web"]).length),
          (portalReadFails.ticks.getD i {}).fault = none → ∀ d,
            portalReadFails.store.deployments.get?
                ⟨portalDisabledRoot.meta.namespace, (managedServices ++ ["kube-nova-web"])[i]⟩ =
              some d → d.readyReplicas = d.desiredReplicas) :=
  ⟨by decide, by decide,
    by rw [checkComponentStatus_phase_run_of_faultsOnly _ (by decide)]; decide,
    checkComponentStatus_ready_iff_stored_ready _ _ (by decide)⟩

/-- Whether every name has a Deployment stored with all its replicas ready. -/
def allStoredReady (s : Store) (ns : String) (names : List String) : Bool :=
  names.all fun name =>
    (s.deployments.get? ⟨ns, name⟩).any fun d => d.readyReplicas == d.desiredReplicas

/-- The phase is `Ready` while the seven enabled components have no Deployment, and is not
`Ready` while every enabled component and the web tier is ready, because of a Deployment of a
disabled component. -/
theorem checkComponentStatus_ignores_enabled_set :
    (∀ name ∈ managedServices, name ∈ (buildAllServices sampleRoot "nova").keys) ∧
      webOnly.store.deployments.get? ⟨"nova", "portal-api"⟩ = none ∧
      ((checkComponentStatus sampleRoot).run webOnly).1.1.status.phase = .ready ∧
      "portal-api" ∉ (buildAllServices portalDisabledRoot "nova").keys ∧
      allStoredReady portalLeftover.store "nova"
        ((buildAllServices portalDisabledRoot "nova").keys ++ ["kube-nova-web"]) ∧
      ((checkComponentStatus portalDisabledRoot).run portalLeftover).1.1.status.phase =
        .creating := by
  refine ⟨by decide, rfl, ?_, by decide, by decide, ?_⟩ <;>
    rw [checkComponentStatus_phase_run_quiet _ rfl] <;> decide

end KubeNovaOperator
