import KubeNovaOperator.Proofs.Run
import KubeNovaOperator.Proofs.Footprint

/-!
# What a pass writes

Instances of `reconcile_footprint` and of the stage lemmas, each for a predicate on writes
that admits what the stages issue.

* `reachable_pass_writes_within`: in every state of a run from a store whose roots sit under
  their keys, a pass over `key` writes within `Op.Within key`, since other parties' writes keep
  the roots under their keys (`Store.keysOk_stable`).  Footprints of roots in different
  namespaces meet only in the binding, whose name two roots can share
  (`clusterRoleBindingName_append_dash`).
* `reachable_pass_updates_in_place_only`: the only dependents a pass updates are the Secret,
  the ConfigMaps and the Deployments; Services, the Ingress, the ServiceAccount and the binding
  are created once and never written again.
* `reachable_pass_deletes_only_binding`: the only Delete a pass issues is of its root's
  binding, and it keeps every other dependent stored.
* `reachable_deleting_pass_writes`: a pass over a root being deleted writes the root's status,
  deletes its binding and updates the root, and creates nothing.
* `reconcileFetched_writes_status_last`: the writes of stages 1–8 are the dependent writes of
  stages 1–7 followed by at most three status writes of the root, all from the one call of
  the status writer at the end (`WritesAtMost` counts them).  Stages 1–7 record their outcome
  in the caller's copy only, so a pass calls the status writer once.
-/

namespace KubeNovaOperator

/-! ### The status is written last -/

/-- `x` issues at most `n` writes. -/
def WritesAtMost {α : Type} (n : Nat) (x : Client α) : Prop :=
  ∀ c : Cluster, (x.run c).2.log.length ≤ c.log.length + n

section WritesAtMost

variable {α β : Type} {m n : Nat}

theorem WritesAtMost.pure (a : α) : WritesAtMost n (pure a : Client α) :=
  fun _ => Nat.le_add_right _ _

theorem WritesAtMost.bind {x : Client α} {f : α → Client β} (hx : WritesAtMost m x)
    (hf : ∀ a, WritesAtMost n (f a)) : WritesAtMost (m + n) (x >>= f) := fun c =>
  calc ((x >>= f).run c).2.log.length
      ≤ (x.run c).2.log.length + n := hf _ _
    _ ≤ c.log.length + (m + n) := by have := hx c; omega

/-- A read followed by `f` writes what `f` writes. -/
theorem WritesAtMost.bind_read {x : Client α} {f : α → Client β} (hx : WritesAtMost 0 x)
    (hf : ∀ a, WritesAtMost n (f a)) : WritesAtMost n (x >>= f) := by
  simpa using hx.bind hf

theorem call_writesAtMost (logged : Option Op) (op : Store → Except ApiError (α × Store)) :
    WritesAtMost logged.toList.length (call logged op) := fun c => by
  rw [call_run_log]
  cases logged <;> simp

theorem getObject_writesAtMost (k : Kind α) (key : ObjKey) : WritesAtMost 0 (getObject k key) :=
  call_writesAtMost _ _

theorem getKubeNova_writesAtMost (key : ObjKey) : WritesAtMost 0 (getKubeNova key) :=
  call_writesAtMost _ _

theorem updateKubeNovaStatus_writesAtMost (kn : KubeNova) :
    WritesAtMost 1 (updateKubeNovaStatus kn) :=
  call_writesAtMost _ _

/-- Each attempt of the status writer issues at most one write. -/
theorem updateStatusAttempts_writesAtMost (kn : KubeNova) (attempts : List Nat) :
    WritesAtMost attempts.length (updateStatusAttempts kn attempts) := by
  induction attempts with
  | nil => exact WritesAtMost.pure _
  | cons i rest ih =>
    rw [updateStatusAttempts, List.length_cons, Nat.add_comm]
    refine (getKubeNova_writesAtMost _).bind_read fun r => ?_
    rcases r with e | latest
    · exact WritesAtMost.pure _
    · refine (updateKubeNovaStatus_writesAtMost _).bind fun r => ?_
      rcases r with e | latest'
      · dsimp only
        split
        exacts [ih, WritesAtMost.pure _]
      · exact WritesAtMost.pure _

theorem listNodes_writesAtMost : WritesAtMost 0 listNodes :=
  call_writesAtMost _ _

theorem getNodeIP_writesAtMost : WritesAtMost 0 getNodeIP :=
  listNodes_writesAtMost.bind_read fun r => by rcases r with _ | _ <;> exact WritesAtMost.pure _

theorem checkServiceStatuses_writesAtMost (ns : String) (names : List String) (kn : KubeNova)
    (allReady : Bool) : WritesAtMost 0 (checkServiceStatuses ns names kn allReady) := by
  induction names generalizing kn allReady with
  | nil => exact WritesAtMost.pure _
  | cons name rest ih =>
    refine (getObject_writesAtMost _ _).bind_read fun r => ?_
    rcases r with _ | d <;> exact ih _ _

theorem accessWebURL_writesAtMost (kn : KubeNova) (ns current : String) :
    WritesAtMost 0 (accessWebURL kn ns current) := by
  unfold accessWebURL
  split
  · exact WritesAtMost.pure _
  · split
    · refine (getObject_writesAtMost _ _).bind_read fun r => ?_
      rcases r with _ | svc
      · exact WritesAtMost.pure _
      · exact getNodeIP_writesAtMost.bind_read fun _ => WritesAtMost.pure _
    · exact WritesAtMost.pure _

/-- Stage 8 writes only through the status writer. -/
theorem checkComponentStatus_writesAtMost (kn : KubeNova) :
    WritesAtMost 3 (checkComponentStatus kn) :=
  (checkServiceStatuses_writesAtMost _ _ _ _).bind_read fun ⟨_, _⟩ =>
    ((getObject_writesAtMost _ _).bind_read fun r => by
      rcases r with _ | _ <;> exact WritesAtMost.pure _).bind_read fun ⟨_, _⟩ =>
    ((accessWebURL_writesAtMost _ _ _).bind_read fun _ => WritesAtMost.pure _).bind_read fun _ =>
    updateStatusAttempts_writesAtMost _ _

end WritesAtMost

/-- On one run, a footprint and a bound on the number of writes. -/
theorem Footprint.log_bounded {α : Type} {ok : Op → Prop} {x : Client α} {R : α → Prop}
    {n : Nat} (hf : Footprint ok x R) (hn : WritesAtMost n x) {c : Cluster}
    (hk : c.store.KeysOk) :
    ∃ new, (x.run c).2.log = new ++ c.log ∧ (∀ o ∈ new, ok o) ∧ new.length ≤ n := by
  obtain ⟨-, -, new, h, hok⟩ := hf c hk
  have := hn c
  rw [h, List.length_append] at this
  exact ⟨new, h, hok, by omega⟩

theorem admitsStages_within_nonStatus (key : ObjKey) :
    AdmitsStages (fun o => o.Within key ∧ o.isStatusWrite = false) key :=
  have h := (Op.within_admitsPass key).toAdmitsStages
  ⟨fun ht n => ⟨h.create ht n, rfl⟩, fun ht n => ⟨h.update ht n, rfl⟩, ⟨h.binding, rfl⟩⟩

/-- **The pipeline writes the root's status last**, under any schedule, from a store whose roots
sit under their keys: its writes are those of stages 1–7, within the root's footprint and none
of them a status write, followed by at most three status writes of the root, all from the one
call of the status writer that records `Failed` or the outcome of stage 8. -/
theorem reconcileFetched_writes_status_last (kn : KubeNova) (c : Cluster)
    (hk : c.store.KeysOk) :
    ∃ status deps, ((reconcileFetched kn).run c).2.log = status ++ deps ++ c.log ∧
      (∀ o ∈ deps, o.Within kn.key ∧ o.isStatusWrite = false) ∧
      (∀ o ∈ status, o = .updateKubeNovaStatus kn.key) ∧ status.length ≤ 3 := by
  obtain ⟨hk₁, hkey, deps, hlog, hdeps⟩ :=
    runStages_footprint kn (admitsStages_within_nonStatus kn.key) c hk
  rw [reconcileFetched, Client.run_bind]
  generalize (runStages kn).run c = rc at hk₁ hkey hlog
  obtain ⟨⟨kn', err⟩, c₁⟩ := rc
  dsimp only at hk₁ hkey hlog
  have hst : Op.updateKubeNovaStatus kn.key = .updateKubeNovaStatus kn'.key := by
    rw [show kn'.key = kn.key from hkey]
  have finish : ∀ {α : Type} {x : Client α} {R : α → Prop},
      Footprint (Eq (.updateKubeNovaStatus kn.key)) x R → WritesAtMost 3 x →
      ∃ status deps, (x.run c₁).2.log = status ++ deps ++ c.log ∧
        (∀ o ∈ deps, o.Within kn.key ∧ o.isStatusWrite = false) ∧
        (∀ o ∈ status, o = .updateKubeNovaStatus kn.key) ∧ status.length ≤ 3 :=
    fun hf hn =>
      have ⟨st, h, hst, hlen⟩ := hf.log_bounded hn hk₁
      ⟨st, deps, by rw [h, hlog, List.append_assoc], hdeps, fun o ho => (hst o ho).symm, hlen⟩
  rcases err with _ | ⟨pre, err⟩ <;> simp only [Client.run_bind]
  · split <;> simp only [Client.run_pure] <;> exact finish (checkComponentStatus_footprint kn' hst)
      (checkComponentStatus_writesAtMost kn')
  · simp only [Client.run_pure]
    exact finish (updateStatusAttempts_footprint _ _ hst) (updateStatusAttempts_writesAtMost _ _)

theorem reconcileFetched_writes_status_last_sample :
    sampleCluster.store.KeysOk ∧
      ∃ status deps, ((reconcileFetched sampleRoot).run sampleCluster).2.log =
          status ++ deps ++ sampleCluster.log ∧
        (∀ o ∈ deps, o.Within sampleRoot.key ∧ o.isStatusWrite = false) ∧
        (∀ o ∈ status, o = .updateKubeNovaStatus sampleRoot.key) ∧ status.length ≤ 3 :=
  ⟨by decide, reconcileFetched_writes_status_last _ _ (by decide)⟩

/-! ### Runs -/

/-- Every root stays stored under its own key along any run that starts so. -/
theorem Reachable.keysOk {c₀ c : Cluster} (h₀ : c₀.store.KeysOk) (h : Reachable c₀ c) :
    c.store.KeysOk := by
  induction h with
  | refl => exact h₀
  | tail _ hstep ih =>
    cases hstep with
    | pass key => exact (reconcile_footprint key (Op.within_admitsPass key) _ ih).1
    | ext e => exact ih.apply e
    | collect tag key =>
      exact fun e he => ih e (by rwa [Store.kubeNovas_collectGarbage] at he)
    | schedule => exact ih

/-- **A pass writes only within its root's footprint**, in every reachable state of a run
that starts with every root stored under its own key. -/
theorem reachable_pass_writes_within {c₀ c : Cluster} (h₀ : c₀.store.KeysOk)
    (h : Reachable c₀ c) (key : ObjKey) :
    ∃ new, ((reconcile key).run c).2.log = new ++ c.log ∧ ∀ o ∈ new, o.Within key :=
  (reconcile_footprint key (Op.within_admitsPass key) c (h.keysOk h₀)).2.2

theorem reachable_pass_writes_within_sample :
    sampleCluster.store.KeysOk ∧ Reachable sampleCluster sampleCluster ∧
      ∃ new, ((reconcile sampleRoot.key).run sampleCluster).2.log = new ++ sampleCluster.log ∧
        ∀ o ∈ new, o.Within sampleRoot.key :=
  ⟨by decide, .refl, reachable_pass_writes_within (by decide) .refl sampleRoot.key⟩

theorem admitsPass_updatable (key : ObjKey) :
    AdmitsPass (fun o => ∀ t k, o = .update t k → t.updatable = true) key where
  create _ _ _ _ h := by cases h
  update ht _ _ _ h := by cases h; exact ht
  binding _ _ h := by cases h
  status _ _ h := by cases h
  root _ _ h := by cases h
  unbind _ _ h := by cases h

/-- **No pass updates a Service, an Ingress, the ServiceAccount or the binding**, in every
reachable state: the controller writes each of them once, when its Get finds nothing, and a
later change of the spec never reaches them. -/
theorem reachable_pass_updates_in_place_only {c₀ c : Cluster} (h₀ : c₀.store.KeysOk)
    (h : Reachable c₀ c) (key : ObjKey) :
    ∃ new, ((reconcile key).run c).2.log = new ++ c.log ∧
      ∀ t k, Op.update t k ∈ new → t.updatable = true :=
  have ⟨new, hlog, hok⟩ :=
    (reconcile_footprint key (admitsPass_updatable key) c (h.keysOk h₀)).2.2
  ⟨new, hlog, fun t k hm => hok _ hm t k rfl⟩

theorem reachable_pass_updates_in_place_only_sample :
    sampleCluster.store.KeysOk ∧ Reachable sampleCluster sampleCluster ∧
      ∃ new, ((reconcile sampleRoot.key).run sampleCluster).2.log = new ++ sampleCluster.log ∧
        ∀ t k, Op.update t k ∈ new → t.updatable = true :=
  ⟨by decide, .refl, reachable_pass_updates_in_place_only (by decide) .refl sampleRoot.key⟩

theorem admitsPass_deletes_binding (key : ObjKey) :
    AdmitsPass (fun o => ∀ t k, o = .delete t k →
      t = .clusterRoleBinding ∧ k = ⟨"", clusterRoleBindingName key.namespace key.name⟩) key where
  create _ _ _ _ h := by cases h
  update _ _ _ _ h := by cases h
  binding _ _ h := by cases h
  status _ _ h := by cases h
  root _ _ h := by cases h
  unbind _ _ h := by cases h; exact ⟨rfl, rfl⟩

/-- Under any schedule a pass keeps every dependent of a kind other than the binding: its
commits of the root touch no dependent and its one Delete is of a binding. -/
theorem reconcile_keeps_present {t : KindTag} (ht : t ≠ .clusterRoleBinding) (k key : ObjKey) :
    Hoare (fun s => s.present t k) (reconcile key) fun _ s => s.present t k :=
  reconcile_spec (present_stable t k) (fun _ _ _ _ _ hs _ => by rwa [Store.present_commitRoot])
    (fun _ _ _ _ hs _ _ => by rwa [Store.present_commitRoot])
    (fun _ _ hs => by rwa [Kind.clusterRoleBinding.present_setObjects _ _ _ _ ht]) key

/-- **No pass deletes a dependent other than its root's binding**, in every reachable state
and under any schedule: the only Delete a pass issues is of the binding named after its root,
and a dependent of any other kind stored before the pass is stored after it.  Whatever else
disappears is the garbage collector's doing, once its namespace holds no root. -/
theorem reachable_pass_deletes_only_binding {c₀ c : Cluster} (h₀ : c₀.store.KeysOk)
    (h : Reachable c₀ c) (key : ObjKey) :
    (∃ new, ((reconcile key).run c).2.log = new ++ c.log ∧
      ∀ t k, Op.delete t k ∈ new →
        t = .clusterRoleBinding ∧ k = ⟨"", clusterRoleBindingName key.namespace key.name⟩) ∧
      ∀ t k, t ≠ .clusterRoleBinding → c.store.present t k →
        ((reconcile key).run c).2.store.present t k :=
  have ⟨new, hlog, hok⟩ :=
    (reconcile_footprint key (admitsPass_deletes_binding key) c (h.keysOk h₀)).2.2
  ⟨⟨new, hlog, fun t k hm => hok _ hm t k rfl⟩,
    fun _ k ht hk => reconcile_keeps_present ht k key c hk⟩

/-- The account of `nova/demo` stored before its root: a pass over the root's key finds no
root and keeps the account. -/
theorem reachable_pass_deletes_only_binding_strayAccount :
    strayAccount.store.KeysOk ∧ Reachable strayAccount strayAccount ∧
      (∃ new, ((reconcile ⟨"nova", "demo"⟩).run strayAccount).2.log =
          new ++ strayAccount.log ∧
        ∀ t k, Op.delete t k ∈ new →
          t = .clusterRoleBinding ∧ k = ⟨"", clusterRoleBindingName "nova" "demo"⟩) ∧
      ∀ t k, t ≠ .clusterRoleBinding → strayAccount.store.present t k →
        ((reconcile ⟨"nova", "demo"⟩).run strayAccount).2.store.present t k :=
  ⟨by decide, .refl, reachable_pass_deletes_only_binding (by decide) .refl ⟨"nova", "demo"⟩⟩

/-- **A pass over a root being deleted creates nothing and updates no dependent**, in every
reachable state and under any schedule: it writes the root's status, deletes the root's
binding and updates the root, and nothing else. -/
theorem reachable_deleting_pass_writes {c₀ c : Cluster} (h₀ : c₀.store.KeysOk)
    (h : Reachable c₀ c) {key : ObjKey} {kn : KubeNova}
    (hkn : ((getKubeNova key).run c).1 = .ok kn) (hdel : kn.meta.deletionTimestamp.isSome) :
    ∃ new, ((reconcile key).run c).2.log = new ++ c.log ∧
      ∀ o ∈ new, o = .updateKubeNovaStatus key ∨ o = .updateKubeNova key ∨
        o = .delete .clusterRoleBinding ⟨"", clusterRoleBindingName key.namespace key.name⟩ := by
  obtain ⟨hk, hkey, -⟩ :=
    (getKubeNova_footprint key : Footprint (fun _ => True) _ _) c (h.keysOk h₀)
  obtain rfl := hkey kn hkn
  have hf : Footprint (fun o => o = .updateKubeNovaStatus kn.key ∨ o = .updateKubeNova kn.key ∨
      o = .delete .clusterRoleBinding ⟨"", clusterRoleBindingName kn.meta.namespace kn.meta.name⟩)
      (reconcileDelete kn) fun _ => True :=
    reconcileDelete_footprint kn (.inl rfl) (.inr (.inl rfl)) (.inr (.inr rfl))
  have hget : ((getKubeNova kn.key).run c).2.log = c.log := call_run_log _ _ c
  simp only [reconcile, Client.run_bind, hkn, hdel, ↓reduceIte]
  rw [← hget]
  exact (hf _ hk).2.2

theorem reachable_deleting_pass_writes_bindingGetFails :
    bindingGetFails.store.KeysOk ∧ Reachable bindingGetFails bindingGetFails ∧
      ((getKubeNova deletingRoot.key).run bindingGetFails).1 = .ok deletingRoot ∧
      deletingRoot.meta.deletionTimestamp.isSome ∧
      ∃ new, ((reconcile deletingRoot.key).run bindingGetFails).2.log =
          new ++ bindingGetFails.log ∧
        ∀ o ∈ new, o = .updateKubeNovaStatus deletingRoot.key ∨
          o = .updateKubeNova deletingRoot.key ∨
          o = .delete .clusterRoleBinding ⟨"", clusterRoleBindingName deletingRoot.key.namespace
            deletingRoot.key.name⟩ :=
  have hkn : ((getKubeNova deletingRoot.key).run bindingGetFails).1 = .ok deletingRoot := rfl
  ⟨by decide, .refl, hkn, rfl, reachable_deleting_pass_writes (by decide) .refl hkn rfl⟩

end KubeNovaOperator
