import KubeNovaOperator.Proofs.Passes

/-!
# What a pass may write

A pass over the root under `key` writes dependents in that root's namespace, the root's
cluster-scoped binding `kube-nova-<namespace>-<name>-cluster-admin` (the only object it writes
outside the namespace, and the only one it deletes), and the root itself: `Op.Within key`.

`Footprint ok x R` says that `x`, run from a store whose roots sit under their own keys
(`Store.KeysOk`, as the API server keeps them), keeps them so, returns a value satisfying `R`
and issues only writes satisfying `ok`.  It composes along `bind` as `Hoare` does.  Every copy
of the root that a stage or the status writer hands on keeps the key of the root the pass
fetched, so every write derived from a copy names that root.

The stage lemmas hold for every `ok` that admits the stage's writes (`AdmitsStages`), and
`reconcile_footprint` for every `ok` that admits a whole pass (`AdmitsPass`): `Op.Within key`
is one such predicate, and `Proofs/PassWrites` uses others.  Only the Secret, the ConfigMaps
and the Deployments are ever updated (`KindTag.updatable`).
-/

namespace KubeNovaOperator

/-! ### Roots under their own keys -/

/-- Roots sit under their own namespace and name, as the API server keeps them. -/
def Store.KeysOk (s : Store) : Prop := ∀ e ∈ s.kubeNovas.entries, e.2.key = e.1

instance (s : Store) : Decidable s.KeysOk :=
  inferInstanceAs (Decidable (∀ e ∈ s.kubeNovas.entries, e.2.key = e.1))

namespace Store.KeysOk

variable {s : Store} (h : s.KeysOk)
include h

theorem root_key {key : ObjKey} {r : KubeNova} (hr : s.root key = some r) : r.key = key :=
  h _ (GoMap.mem_entries_of_get? hr)

theorem commitRoot {key : ObjKey} {r : KubeNova} (hr : r.key = key) :
    (s.commitRoot key r).2.KeysOk := by
  unfold Store.commitRoot
  dsimp only
  split
  · exact fun e he => h e (List.mem_of_mem_filter he)
  · intro e he
    rcases List.mem_cons.1 he with rfl | he
    exacts [hr, h e he]

theorem setObjects {α : Type} (k : Kind α) (m : GoMap ObjKey α) : (k.setObjects s m).KeysOk := by
  intro e he
  rw [k.kubeNovas_setObjects] at he
  exact h e he

/-- Other parties keep every root under its key. -/
theorem apply (e : ExtEvent) : (e.apply s).KeysOk := by
  cases e <;> simp only [ExtEvent.apply] <;> split <;>
    first
    | exact h
    | (rename_i r hr; have hk := h.root_key hr; split; exacts [h, h.commitRoot hk])

theorem updateKubeNova {s' : Store} {kn r' : KubeNova} (hu : s.updateKubeNova kn = .ok (r', s')) :
    s'.KeysOk := by
  unfold Store.updateKubeNova at hu
  split at hu
  · cases hu
  · split at hu
    · cases hu
    · rename_i r hr _
      have hk := h.root_key hr
      split at hu
      · cases hu
      · injection hu with hu
        rw [show s' = _ from (congrArg Prod.snd hu).symm]
        exact h.commitRoot hk

theorem updateKubeNovaStatus {s' : Store} {kn r' : KubeNova}
    (hu : s.updateKubeNovaStatus kn = .ok (r', s')) : s'.KeysOk := by
  obtain ⟨r, hr, -, rfl⟩ := Store.updateKubeNovaStatus_eq_ok hu
  have hk := h.root_key hr
  exact h.commitRoot hk

end Store.KeysOk

theorem Store.keysOk_stable : Stable Store.KeysOk := fun _ _ hd h => by
  cases hd with
  | ext _ e => exact h.apply e
  | put _ k => exact h.setObjects k _

/-! ### Footprints -/

/-- Run from a store whose roots sit under their own keys, `x` keeps them so, returns a value
satisfying `R`, and issues only writes satisfying `ok`. -/
def Footprint {α : Type} (ok : Op → Prop) (x : Client α) (R : α → Prop) : Prop :=
  ∀ c : Cluster, c.store.KeysOk →
    (x.run c).2.store.KeysOk ∧ R (x.run c).1 ∧
      ∃ new, (x.run c).2.log = new ++ c.log ∧ ∀ o ∈ new, ok o

section Footprint

variable {ok : Op → Prop} {α β : Type} {R R' : α → Prop} {S : β → Prop}

theorem Footprint.pure {a : α} (h : R a) : Footprint ok (pure a : Client α) R :=
  fun _ hk => ⟨hk, h, [], rfl, by simp⟩

theorem Footprint.bind {x : Client α} {f : α → Client β} (hx : Footprint ok x R)
    (hf : ∀ a, R a → Footprint ok (f a) S) : Footprint ok (x >>= f) S := fun c hk => by
  obtain ⟨k₁, r₁, n₁, h₁, o₁⟩ := hx c hk
  obtain ⟨k₂, r₂, n₂, h₂, o₂⟩ := hf _ r₁ _ k₁
  refine ⟨by rwa [Client.run_bind], by rwa [Client.run_bind],
    n₂ ++ n₁, by rw [Client.run_bind, h₂, h₁, List.append_assoc], fun o ho => ?_⟩
  rcases List.mem_append.1 ho with ho | ho
  exacts [o₂ o ho, o₁ o ho]

theorem Footprint.post {x : Client α} (h : Footprint ok x R) (hR : ∀ a, R a → R' a) :
    Footprint ok x R' :=
  fun c hk => let ⟨k, r, l⟩ := h c hk; ⟨k, hR _ r, l⟩

/-- A store call: its logged write satisfies `ok`, and its operation keeps roots under their
keys. -/
theorem call_footprint {R : Except ApiError α → Prop} {logged : Option Op}
    {op : Store → Except ApiError (α × Store)} (hlog : ∀ o ∈ logged, ok o)
    (hop : ∀ s a s', s.KeysOk → op s = .ok (a, s') → s'.KeysOk ∧ R (.ok a))
    (herr : ∀ e, R (.error e)) : Footprint ok (call logged op) R := fun c hk => by
  have hl : ∃ new, ((call logged op).run c).2.log = new ++ c.log ∧ ∀ o ∈ new, ok o := by
    rw [call_run_log]
    cases logged with
    | none => exact ⟨[], rfl, by simp⟩
    | some o => exact ⟨[o], rfl, by simpa using hlog⟩
  suffices h : ((call logged op).run c).2.store.KeysOk ∧ R ((call logged op).run c).1 from
    ⟨h.1, h.2, hl⟩
  have hs := Store.keysOk_stable.foldl_apply c.nextTick.1.before hk
  simp only [call, StateT.run]
  split
  · exact ⟨hs, herr _⟩
  · split
    · exact hop _ _ _ hs ‹_›
    · exact ⟨hs, herr _⟩

/-! ### The store calls -/

theorem getObject_footprint (k : Kind α) (key : ObjKey) :
    Footprint ok (getObject k key) fun _ => True :=
  call_footprint (by simp) (fun _ _ _ hk h => by split at h <;> cases h; exact ⟨hk, trivial⟩)
    fun _ => trivial

theorem getNamespace_footprint (name : String) :
    Footprint ok (getNamespace name) fun _ => True :=
  call_footprint (by simp) (fun _ _ _ hk h => by split at h <;> cases h; exact ⟨hk, trivial⟩)
    fun _ => trivial

theorem listNodes_footprint : Footprint ok listNodes fun _ => True :=
  call_footprint (by simp) (fun _ _ _ hk h => by cases h; exact ⟨hk, trivial⟩) fun _ => trivial

/-- A root read under a key of a store that keeps roots under their keys has that key. -/
theorem getKubeNova_footprint (key : ObjKey) :
    Footprint ok (getKubeNova key) fun r => ∀ kn, r = .ok kn → kn.key = key :=
  call_footprint (by simp)
    (fun _ _ _ hk h => by
      split at h <;> cases h
      exact ⟨hk, fun _ h => by cases h; exact hk.root_key ‹_›⟩)
    fun _ _ h => by cases h

theorem createObject_footprint (k : Kind α) (key : ObjKey) (a : α) (h : ok (.create k.tag key)) :
    Footprint ok (createObject k key a) fun _ => True :=
  call_footprint (by simpa using h)
    (fun _ _ _ hk h => by split at h <;> cases h; exact ⟨hk.setObjects k _, trivial⟩)
    fun _ => trivial

theorem updateObject_footprint (k : Kind α) (key : ObjKey) (a : α) (h : ok (.update k.tag key)) :
    Footprint ok (updateObject k key a) fun _ => True :=
  call_footprint (by simpa using h)
    (fun _ _ _ hk h => by split at h <;> cases h; exact ⟨hk.setObjects k _, trivial⟩)
    fun _ => trivial

theorem deleteObject_footprint (k : Kind α) (key : ObjKey) (h : ok (.delete k.tag key)) :
    Footprint ok (deleteObject k key) fun _ => True :=
  call_footprint (by simpa using h)
    (fun _ _ _ hk h => by split at h <;> cases h; exact ⟨hk.setObjects k _, trivial⟩)
    fun _ => trivial

theorem updateKubeNova_footprint (kn : KubeNova) (h : ok (.updateKubeNova kn.key)) :
    Footprint ok (updateKubeNova kn) fun _ => True :=
  call_footprint (by simpa using h) (fun _ _ _ hk h => ⟨hk.updateKubeNova h, trivial⟩)
    fun _ => trivial

theorem updateKubeNovaStatus_footprint (kn : KubeNova) (h : ok (.updateKubeNovaStatus kn.key)) :
    Footprint ok (updateKubeNovaStatus kn) fun _ => True :=
  call_footprint (by simpa using h) (fun _ _ _ hk h => ⟨hk.updateKubeNovaStatus h, trivial⟩)
    fun _ => trivial

/-! ### The steps -/

/-- The writes of a step that creates a missing object and writes nothing else. -/
theorem ensureCreated_footprint (k : Kind α) (key : ObjKey) (obj : α) (createMsg getMsg : String)
    (h : ok (.create k.tag key)) :
    Footprint ok (ensureCreated k key obj createMsg getMsg) fun _ => True := by
  refine (getObject_footprint k key).bind fun r _ => ?_
  rcases r with (_ | _ | _ | _ | _) | _
  · exact (createObject_footprint k key obj h).bind fun r _ => by
      rcases r with _ | _ <;> exact Footprint.pure trivial
  all_goals exact Footprint.pure trivial

theorem ensureData_footprint (k : Kind α) (key : ObjKey) (obj : α)
    (data : α → GoMap String String) (setData : α → GoMap String String → α)
    (createMsg getMsg updateMsg : String) (hc : ok (.create k.tag key))
    (hu : ok (.update k.tag key)) :
    Footprint ok (ensureData k key obj data setData createMsg getMsg updateMsg) fun _ => True := by
  refine (getObject_footprint k key).bind fun r _ => ?_
  rcases r with (_ | _ | _ | _ | _) | existing
  · exact (createObject_footprint k key obj hc).bind fun r _ => by
      rcases r with _ | _ <;> exact Footprint.pure trivial
  iterate 4 exact Footprint.pure trivial
  · dsimp only
    split
    · exact Footprint.pure trivial
    · exact (updateObject_footprint k key _ hu).bind fun r _ => by
        rcases r with _ | _ <;> exact Footprint.pure trivial

theorem ensureDeployment_footprint (key : ObjKey) (desired : Deployment)
    (splice : DeploymentSpec → DeploymentSpec → DeploymentSpec) (msgs : DeploymentMsgs)
    (hc : ok (.create .deployment key)) (hu : ok (.update .deployment key)) :
    Footprint ok (ensureDeployment key desired splice msgs) fun _ => True := by
  refine (getObject_footprint Kind.deployment key).bind fun r _ => ?_
  rcases r with (_ | _ | _ | _ | _) | existing
  · exact (createObject_footprint Kind.deployment key desired hc).bind fun r _ => by
      rcases r with _ | _ <;> exact Footprint.pure trivial
  iterate 4 exact Footprint.pure trivial
  · dsimp only
    split
    · exact Footprint.pure trivial
    · refine (getObject_footprint Kind.deployment key).bind fun r _ => ?_
      rcases r with _ | latest
      · exact Footprint.pure trivial
      · exact (updateObject_footprint Kind.deployment key _ hu).bind fun r _ => by
          rcases r with _ | _ <;> exact Footprint.pure trivial

theorem runSteps_footprint {xs : List (Client (Option String))}
    (h : ∀ x ∈ xs, Footprint ok x fun _ => True) : Footprint ok (runSteps xs) fun _ => True := by
  induction xs with
  | nil => exact Footprint.pure trivial
  | cons x xs ih =>
    refine (h x (.head _)).bind fun r _ => ?_
    rcases r with _ | _
    · exact ih fun x hx => h x (.tail _ hx)
    · exact Footprint.pure trivial

theorem andThen_footprint {x : Client (Option String)}
    {k : Client (KubeNova × Option (String × String))} {kn : KubeNova} {pre : String}
    {R : KubeNova × Option (String × String) → Prop} (hx : Footprint ok x fun _ => True)
    (hk : Footprint ok k R) (hR : ∀ e, R (kn, some (pre, e))) :
    Footprint ok (andThen kn pre x k) R :=
  hx.bind fun r _ => by
    rcases r with _ | e
    exacts [hk, Footprint.pure (hR e)]

/-! ### The reads -/

theorem reconcileNamespace_footprint (kn : KubeNova) :
    Footprint ok (reconcileNamespace kn) fun _ => True :=
  (getNamespace_footprint _).bind fun r _ => by
    rcases r with (_ | _ | _ | _ | _) | _ <;> exact Footprint.pure trivial

theorem getNodeIP_footprint : Footprint ok getNodeIP fun _ => True :=
  listNodes_footprint.bind fun r _ => by rcases r with _ | _ <;> exact Footprint.pure trivial

theorem getWebNodePort_footprint (kn : KubeNova) (ns : String) :
    Footprint ok (getWebNodePort kn ns) fun _ => True := by
  unfold getWebNodePort
  split
  · exact Footprint.pure trivial
  · refine (getObject_footprint _ _).bind fun r _ => ?_
    rcases r with _ | _
    · exact Footprint.pure trivial
    · dsimp only; split <;> exact Footprint.pure trivial

/-- The component checks read only; the copy they hand on keeps its key. -/
theorem checkServiceStatuses_footprint (ns : String) (names : List String) (kn : KubeNova)
    (allReady : Bool) :
    Footprint ok (checkServiceStatuses ns names kn allReady) fun r => r.1.key = kn.key := by
  induction names generalizing kn allReady with
  | nil => exact Footprint.pure rfl
  | cons name rest ih =>
    refine (getObject_footprint _ _).bind fun r _ => ?_
    rcases r with _ | d <;> exact ih _ _

theorem accessWebURL_footprint (kn : KubeNova) (ns current : String) :
    Footprint ok (accessWebURL kn ns current) fun _ => True := by
  unfold accessWebURL
  split
  · exact Footprint.pure trivial
  · split
    · refine (getObject_footprint _ _).bind fun r _ => ?_
      rcases r with _ | svc
      · exact Footprint.pure trivial
      · exact getNodeIP_footprint.bind fun _ _ => Footprint.pure trivial
    · exact Footprint.pure trivial

/-! ### The status writes -/

/-- The status writer writes only the status of the root under its copy's key, and returns a
copy under that key. -/
theorem updateStatusAttempts_footprint (kn : KubeNova) (attempts : List Nat)
    (hok : ok (.updateKubeNovaStatus kn.key)) :
    Footprint ok (updateStatusAttempts kn attempts) fun r => r.1.key = kn.key := by
  induction attempts with
  | nil => exact Footprint.pure rfl
  | cons i rest ih =>
    rw [updateStatusAttempts]
    refine (getKubeNova_footprint kn.key).bind fun r hr => ?_
    rcases r with e | latest
    · exact Footprint.pure rfl
    · have h : ok (.updateKubeNovaStatus latest.key) := hr latest rfl ▸ hok
      refine (updateKubeNovaStatus_footprint { latest with status := kn.status } h).bind
        fun r _ => ?_
      rcases r with e | latest'
      · dsimp only
        split
        · exact ih
        · exact Footprint.pure rfl
      · exact Footprint.pure rfl

theorem checkComponentStatus_footprint (kn : KubeNova) (hok : ok (.updateKubeNovaStatus kn.key)) :
    Footprint ok (checkComponentStatus kn) fun _ => True := by
  refine (checkServiceStatuses_footprint _ _ kn true).bind fun ⟨kn₁, a₁⟩ h₁ => ?_
  refine (show Footprint ok (checkWebStatus kn.meta.namespace kn₁ a₁)
      (fun r => r.1.key = kn.key) from (getObject_footprint _ _).bind fun r _ => by
        rcases r with _ | d <;> exact Footprint.pure h₁).bind fun ⟨kn₂, a₂⟩ h₂ => ?_
  refine (show Footprint ok (updateAccessInfo kn₂ kn.meta.namespace)
      (fun r => r.key = kn.key) from ?_).bind fun kn₃ h₃ => ?_
  · exact (accessWebURL_footprint _ _ _).bind fun _ _ => Footprint.pure h₂
  · have : (setAggregatePhase kn₃ a₂).key = kn.key := by
      cases a₂ <;> exact h₃
    exact (updateStatusAttempts_footprint _ [0, 1, 2] (this ▸ hok)).post fun _ _ => trivial

end Footprint

/-! ### What a pass over a root writes -/

/-- The kinds stages 1–7 update in place: the Secret, the ConfigMaps and the Deployments.  The
Services, the Ingress, the ServiceAccount and the binding are only ever created. -/
def KindTag.updatable : KindTag → Bool
  | .secret | .configMap | .deployment => true
  | _ => false

theorem KindTag.ne_clusterRoleBinding {t : KindTag} (ht : t.updatable) :
    t ≠ .clusterRoleBinding := by
  rintro rfl
  exact absurd ht (by decide)

/-- `ok` admits every write stages 1–7 issue for the root under `key`: creates of dependents in
the root's namespace, updates of those of an updatable kind, and the create of the root's
binding. -/
structure AdmitsStages (ok : Op → Prop) (key : ObjKey) : Prop where
  create {t : KindTag} : t ≠ .clusterRoleBinding → ∀ name, ok (.create t ⟨key.namespace, name⟩)
  update {t : KindTag} : t.updatable → ∀ name, ok (.update t ⟨key.namespace, name⟩)
  binding : ok (.create .clusterRoleBinding ⟨"", clusterRoleBindingName key.namespace key.name⟩)

section Stages

variable {ok : Op → Prop} (kn : KubeNova) (hok : AdmitsStages ok kn.key)
include hok

theorem reconcileRBAC_footprint : Footprint ok (reconcileRBAC kn) fun _ => True :=
  runSteps_footprint <| by
    simp only [List.mem_cons, List.not_mem_nil, or_false, forall_eq_or_imp, forall_eq]
    exact ⟨ensureCreated_footprint _ _ _ _ _ (hok.create (by decide) _),
      ensureCreated_footprint _ _ _ _ _ hok.binding⟩

theorem reconcileSecret_footprint : Footprint ok (reconcileSecret kn) fun _ => True :=
  getNodeIP_footprint.bind fun _ _ => (getWebNodePort_footprint kn _).bind fun _ _ =>
    ensureData_footprint _ _ _ _ _ _ _ _ (hok.create (by decide) _) (hok.update (by decide) _)

theorem reconcileConfigMaps_footprint : Footprint ok (reconcileConfigMaps kn) fun _ => True :=
  runSteps_footprint fun x hx => by
    obtain ⟨cm, -, rfl⟩ := List.mem_map.1 hx
    exact ensureData_footprint _ _ _ _ _ _ _ _ (hok.create (by decide) _)
      (hok.update (by decide) _)

theorem reconcileServices_footprint :
    Footprint ok (reconcileServices kn) fun r => r.1.key = kn.key :=
  (show Footprint ok mapOrder fun _ => True from
    fun _ hk => ⟨hk, trivial, [], rfl, by simp⟩).bind fun _ _ =>
  (runSteps_footprint fun x hx => by
    obtain ⟨name, -, hx⟩ := List.mem_flatMap.1 hx
    split at hx
    · simp only [serviceSteps, List.mem_cons, List.not_mem_nil, or_false] at hx
      rcases hx with rfl | rfl
      · exact ensureDeployment_footprint _ _ _ _ (hok.create (by decide) _)
          (hok.update (by decide) _)
      · exact ensureCreated_footprint _ _ _ _ _ (hok.create (by decide) _)
    · simp at hx).bind fun _ _ => Footprint.pure rfl

theorem reconcileWeb_footprint : Footprint ok (reconcileWeb kn) fun _ => True :=
  runSteps_footprint fun x hx => by
    simp only [List.mem_append, List.mem_cons, List.not_mem_nil, or_false, Option.mem_toList,
      Option.mem_def, Option.map_eq_some'] at hx
    rcases hx with (⟨cm, -, rfl⟩ | rfl | rfl) | ⟨ing, -, rfl⟩
    · exact ensureData_footprint _ _ _ _ _ _ _ _ (hok.create (by decide) _)
        (hok.update (by decide) _)
    · exact ensureDeployment_footprint _ _ _ _ (hok.create (by decide) _)
        (hok.update (by decide) _)
    · exact ensureCreated_footprint _ _ _ _ _ (hok.create (by decide) _)
    · exact ensureCreated_footprint _ _ _ _ _ (hok.create (by decide) _)

/-- Stages 1–7 issue only the writes `ok` admits and return a copy under the root's key. -/
theorem runStages_footprint : Footprint ok (runStages kn) fun r => r.1.key = kn.key := by
  have hkey : (reconcileValidation kn).1.key = kn.key := by rw [reconcileValidation_fst]; rfl
  unfold runStages
  split
  · rename_i kn₁ err hv
    exact Footprint.pure (by rw [← hkey, hv])
  · rename_i kn₁ hv
    rw [← show kn₁.key = kn.key by rw [← hkey, hv]] at hok ⊢
    refine andThen_footprint (reconcileNamespace_footprint _) ?_ fun _ => rfl
    refine andThen_footprint (reconcileRBAC_footprint _ hok) ?_ fun _ => rfl
    refine andThen_footprint (reconcileSecret_footprint _ hok) ?_ fun _ => rfl
    refine andThen_footprint (reconcileConfigMaps_footprint _ hok) ?_ fun _ => rfl
    refine (reconcileServices_footprint _ hok).bind fun ⟨kn₂, err⟩ h₂ => ?_
    rcases err with _ | err
    · rw [← show kn₂.key = kn₁.key from h₂] at hok ⊢
      exact andThen_footprint (reconcileWeb_footprint _ hok) (Footprint.pure rfl) fun _ => rfl
    · exact Footprint.pure h₂

/-- The pipeline after the gates: stages 1–7, then the root's status. -/
theorem reconcileFetched_footprint (hst : ok (.updateKubeNovaStatus kn.key)) :
    Footprint ok (reconcileFetched kn) fun _ => True := by
  refine (runStages_footprint kn hok).bind fun ⟨kn', err⟩ h => ?_
  rw [← show kn'.key = kn.key from h] at hst
  rcases err with _ | ⟨pre, err⟩
  · exact (checkComponentStatus_footprint kn' hst).bind fun r _ => by
      rcases r with ⟨_, _ | _⟩ <;> exact Footprint.pure trivial
  · exact (updateStatusAttempts_footprint (setStatusPhase kn' .failed _) _ hst).bind fun _ _ =>
      Footprint.pure trivial

end Stages

/-- The writes a pass over the root under `key` may issue: a dependent in the root's
namespace, the root's cluster-scoped binding (the only object it deletes), and the root. -/
def Op.Within (key : ObjKey) : Op → Prop
  | .create t k | .update t k =>
    if t = .clusterRoleBinding then k = ⟨"", clusterRoleBindingName key.namespace key.name⟩
    else k.namespace = key.namespace
  | .delete t k =>
    t = .clusterRoleBinding ∧ k = ⟨"", clusterRoleBindingName key.namespace key.name⟩
  | .updateKubeNova k | .updateKubeNovaStatus k => k = key

/-- `ok` admits every write a pass over the root under `key` issues: those of stages 1–7, the
root's status and the root itself, and the delete of the root's binding. -/
structure AdmitsPass (ok : Op → Prop) (key : ObjKey) extends AdmitsStages ok key : Prop where
  status : ok (.updateKubeNovaStatus key)
  root : ok (.updateKubeNova key)
  unbind : ok (.delete .clusterRoleBinding ⟨"", clusterRoleBindingName key.namespace key.name⟩)

theorem Op.within_admitsPass (key : ObjKey) : AdmitsPass (Op.Within key) key where
  create ht _ := by simp [Op.Within, ht]
  update ht _ := by simp [Op.Within, KindTag.ne_clusterRoleBinding ht]
  binding := by simp [Op.Within]
  status := rfl
  root := rfl
  unbind := ⟨rfl, rfl⟩

/-- A pass over a root being deleted writes its status, deletes its binding and updates it. -/
theorem reconcileDelete_footprint {ok : Op → Prop} (kn : KubeNova)
    (hst : ok (.updateKubeNovaStatus kn.key)) (hup : ok (.updateKubeNova kn.key))
    (hdel : ok (.delete .clusterRoleBinding
      ⟨"", clusterRoleBindingName kn.meta.namespace kn.meta.name⟩)) :
    Footprint ok (reconcileDelete kn) fun _ => True := by
  refine (updateStatusAttempts_footprint (setStatusPhase kn .deleting "正在删除资源") _
    hst).bind fun ⟨kn', _⟩ h => ?_
  have h : kn'.key = kn.key := h
  obtain ⟨hns, hname⟩ := ObjKey.mk.inj h
  rw [← h] at hst hup
  rw [← hns, ← hname] at hdel
  dsimp only
  refine (show Footprint ok
      (deleteClusterRoleBinding ⟨"", clusterRoleBindingName kn'.meta.namespace kn'.meta.name⟩)
      (fun _ => True) from (getObject_footprint _ _).bind fun r _ => ?_).bind fun r _ => ?_
  · rcases r with _ | _
    · exact Footprint.pure trivial
    · exact (deleteObject_footprint Kind.clusterRoleBinding _ hdel).bind fun r _ => by
        rcases r with _ | _ <;> exact Footprint.pure trivial
  · rcases r with _ | _
    · exact (updateKubeNova_footprint _ (by exact hup)).bind fun r _ => by
        rcases r with _ | _ <;> exact Footprint.pure trivial
    · exact Footprint.pure trivial

/-- A pass over the root under `key` issues only writes that `ok` admits. -/
theorem reconcile_footprint {ok : Op → Prop} (key : ObjKey) (hok : AdmitsPass ok key) :
    Footprint ok (reconcile key) fun _ => True := by
  refine (getKubeNova_footprint key).bind fun r hr => ?_
  rcases r with (_ | _ | _ | _ | _) | kn
  iterate 5 exact Footprint.pure trivial
  · rw [← hr kn rfl] at hok
    dsimp only
    split
    · exact reconcileDelete_footprint kn hok.status hok.root hok.unbind
    · split
      · exact (updateKubeNova_footprint _ (by exact hok.root)).bind fun r _ => by
          rcases r with _ | _ <;> exact Footprint.pure trivial
      · split
        · exact Footprint.pure trivial
        · exact reconcileFetched_footprint kn hok.toAdmitsStages hok.status

end KubeNovaOperator
