import KubeNovaOperator.Proofs.Hoare
import KubeNovaOperator.Controller.Reconcile
import Mathlib.Data.List.Dedup

/-!
# What each stage writes

`Ensures x l`: the step `x` keeps every `Stable` property and, when it returns `none`, has
stored every dependent listed in `l`.  The three shapes of a step ensure the key they write
(`ensureCreated_ensures`, `ensureData_ensures`, `ensureDeployment_ensures`), a step list
ensures the concatenation of its steps' lists, and stage by stage `runStages_spec` ensures
`desiredObjects`: the kind and key of every dependent the builders produce for the root.
Since presence is stable, this holds under every schedule: whatever fails and whatever the
other parties write, stages 1–7 that report no error have stored every dependent of the spec
they were given.

The reads the stages make (the node list, the web Service's node port) keep every stable
property (`Frames`), and so does the aggregator, which writes only the root's status.
-/

namespace KubeNovaOperator

/-! ### Stored dependents -/

/-- Every listed dependent is stored. -/
def AllPresent (l : List (KindTag × ObjKey)) (s : Store) : Prop :=
  ∀ p ∈ l, s.present p.1 p.2

theorem allPresent_stable (l : List (KindTag × ObjKey)) : Stable (AllPresent l) :=
  fun s s' hd h p hp => present_stable p.1 p.2 s s' hd (h p hp)

@[simp] theorem allPresent_append (l l' : List (KindTag × ObjKey)) (s : Store) :
    AllPresent (l ++ l') s ↔ AllPresent l s ∧ AllPresent l' s := by
  simp only [AllPresent, List.mem_append]
  exact ⟨fun h => ⟨fun p hp => h p (.inl hp), fun p hp => h p (.inr hp)⟩,
    fun h p hp => hp.elim (h.1 p) (h.2 p)⟩

@[simp] theorem allPresent_commitRoot (l : List (KindTag × ObjKey)) (s : Store) (key : ObjKey)
    (r : KubeNova) : AllPresent l (s.commitRoot key r).2 ↔ AllPresent l s := by
  simp [AllPresent]

/-! ### Steps -/

/-- `x` keeps every stable property and, when it returns `none`, has stored `l`. -/
def Ensures (x : Client (Option String)) (l : List (KindTag × ObjKey)) : Prop :=
  ∀ P, Stable P → Hoare P x fun r s => P s ∧ (r = none → AllPresent l s)

/-- `x` keeps every stable property. -/
def Frames {α : Type} (x : Client α) : Prop := ∀ P, Stable P → Hoare P x fun _ => P

theorem Ensures.frames {x : Client (Option String)} {l : List (KindTag × ObjKey)}
    (h : Ensures x l) : Frames x :=
  fun P hP => (h P hP).post fun _ _ h => h.1

theorem Ensures.mono {x : Client (Option String)} {l l' : List (KindTag × ObjKey)}
    (h : Ensures x l) (hl : ∀ p ∈ l', p ∈ l) : Ensures x l' :=
  fun P hP => (h P hP).post fun _ _ h => ⟨h.1, fun hr p hp => h.2 hr p (hl p hp)⟩

section Shapes

variable {P R : Store → Prop} {l : List (KindTag × ObjKey)}

/-- A step that reports an error keeps what held. -/
theorem hoare_pure_some (hR : ∀ s, R s → P s) (err : String) :
    Hoare R (pure (some err)) fun r s => P s ∧ (r = none → AllPresent l s) :=
  Hoare.pure fun s hs => ⟨hR s hs, by simp⟩

/-- A step that reports success where `l` is stored. -/
theorem hoare_pure_none (h : ∀ s, R s → P s ∧ AllPresent l s) :
    Hoare R (pure (none : Option String)) fun r s => P s ∧ (r = none → AllPresent l s) :=
  Hoare.pure fun s hs => ⟨(h s hs).1, fun _ => (h s hs).2⟩

/-- A step that reports success just after reading or writing its object. -/
theorem hoare_pure_none_stored {α : Type} (k : Kind α) {key : ObjKey} {a : α}
    (h : ∀ s, R s → P s ∧ (k.objects s).get? key = some a) :
    Hoare R (pure (none : Option String)) fun r s =>
      P s ∧ (r = none → AllPresent [(k.tag, key)] s) :=
  hoare_pure_none fun s hs => ⟨(h s hs).1, by simpa [AllPresent] using k.present_of_get (h s hs).2⟩

end Shapes

theorem ensureCreated_ensures {α : Type} (k : Kind α) (key : ObjKey) (obj : α)
    (createMsg getMsg : String) :
    Ensures (ensureCreated k key obj createMsg getMsg) [(k.tag, key)] := by
  intro P hP
  refine (getObject_spec hP k key).bind fun r => ?_
  rcases r with (_ | _ | _ | _ | _) | a
  · refine ((createObject_spec hP k key obj).weaken fun _ h => h.1).bind fun r => ?_
    rcases r with _ | _
    · exact hoare_pure_some (fun _ h => h.1) _
    · exact hoare_pure_none_stored k fun _ hs => ⟨hs.1, hs.2 rfl⟩
  iterate 4 exact hoare_pure_some (fun _ h => h.1) _
  · exact hoare_pure_none_stored k fun _ hs => ⟨hs.1, hs.2 a rfl⟩

theorem ensureData_ensures {α : Type} (k : Kind α) (key : ObjKey) (obj : α)
    (data : α → GoMap String String) (setData : α → GoMap String String → α)
    (createMsg getMsg updateMsg : String) :
    Ensures (ensureData k key obj data setData createMsg getMsg updateMsg) [(k.tag, key)] := by
  intro P hP
  refine (getObject_spec hP k key).bind fun r => ?_
  rcases r with (_ | _ | _ | _ | _) | a
  · refine ((createObject_spec hP k key obj).weaken fun _ h => h.1).bind fun r => ?_
    rcases r with _ | _
    · exact hoare_pure_some (fun _ h => h.1) _
    · exact hoare_pure_none_stored k fun _ hs => ⟨hs.1, hs.2 rfl⟩
  iterate 4 exact hoare_pure_some (fun _ h => h.1) _
  · dsimp only
    split
    · exact hoare_pure_none_stored k fun _ hs => ⟨hs.1, hs.2 a rfl⟩
    · refine ((updateObject_spec hP k key _).weaken fun _ h => h.1).bind fun r => ?_
      rcases r with _ | _
      · exact hoare_pure_some (fun _ h => h.1) _
      · exact hoare_pure_none_stored k fun _ hs => ⟨hs.1, hs.2 rfl⟩

theorem ensureDeployment_ensures (key : ObjKey) (desired : Deployment)
    (splice : DeploymentSpec → DeploymentSpec → DeploymentSpec) (msgs : DeploymentMsgs) :
    Ensures (ensureDeployment key desired splice msgs) [(.deployment, key)] := by
  intro P hP
  refine (getObject_spec hP Kind.deployment key).bind fun r => ?_
  rcases r with (_ | _ | _ | _ | _) | a
  · refine ((createObject_spec hP _ key desired).weaken fun _ h => h.1).bind fun r => ?_
    rcases r with _ | _
    · exact hoare_pure_some (fun _ h => h.1) _
    · exact hoare_pure_none_stored Kind.deployment fun _ hs => ⟨hs.1, hs.2 rfl⟩
  iterate 4 exact hoare_pure_some (fun _ h => h.1) _
  · dsimp only
    split
    · exact hoare_pure_none_stored Kind.deployment fun _ hs => ⟨hs.1, hs.2 a rfl⟩
    · refine ((getObject_spec hP Kind.deployment key).weaken fun _ h => h.1).bind fun r => ?_
      rcases r with _ | _
      · exact hoare_pure_some (fun _ h => h.1) _
      · refine ((updateObject_spec hP _ key _).weaken fun _ h => h.1).bind fun r => ?_
        rcases r with _ | _
        · exact hoare_pure_some (fun _ h => h.1) _
        · exact hoare_pure_none_stored Kind.deployment fun _ hs => ⟨hs.1, hs.2 rfl⟩

/-! ### Step lists -/

theorem runSteps_nil_ensures : Ensures (runSteps []) [] :=
  fun _ _ => hoare_pure_none fun _ hs => ⟨hs, by simp [AllPresent]⟩

theorem runSteps_cons_ensures {x : Client (Option String)} {xs : List (Client (Option String))}
    {l l' : List (KindTag × ObjKey)} (hx : Ensures x l) (hxs : Ensures (runSteps xs) l') :
    Ensures (runSteps (x :: xs)) (l ++ l') := by
  intro P hP
  refine (hx P hP).bind fun r => ?_
  rcases r with _ | err
  · exact ((hxs _ (hP.and (allPresent_stable l))).weaken fun _ h => ⟨h.1, h.2 rfl⟩).post
      fun _ _ h => ⟨h.1.1, fun hr => (allPresent_append _ _ _).2 ⟨h.1.2, h.2 hr⟩⟩
  · exact hoare_pure_some (fun _ h => h.1) _

/-- Running two step lists is running the first, then the second unless it failed. -/
theorem runSteps_append (xs ys : List (Client (Option String))) :
    runSteps (xs ++ ys) = runSteps xs >>= fun r =>
      match r with
      | some e => pure (some e)
      | none => runSteps ys := by
  induction xs with
  | nil => simp only [List.nil_append, runSteps, pure_bind]
  | cons x xs ih =>
    simp only [List.cons_append, runSteps, bind_assoc]
    congr 1; funext r; cases r <;> simp [ih]

theorem runSteps_append_ensures {xs ys : List (Client (Option String))}
    {l l' : List (KindTag × ObjKey)} (hxs : Ensures (runSteps xs) l)
    (hys : Ensures (runSteps ys) l') : Ensures (runSteps (xs ++ ys)) (l ++ l') := by
  intro P hP
  rw [runSteps_append]
  refine (hxs P hP).bind fun r => ?_
  rcases r with _ | err
  · exact ((hys _ (hP.and (allPresent_stable l))).weaken fun _ h => ⟨h.1, h.2 rfl⟩).post
      fun _ _ h => ⟨h.1.1, fun hr => (allPresent_append _ _ _).2 ⟨h.1.2, h.2 hr⟩⟩
  · exact hoare_pure_some (fun _ h => h.1) _

theorem runSteps_flatMap_ensures {β : Type} (bs : List β) (f : β → List (Client (Option String)))
    (g : β → List (KindTag × ObjKey)) (h : ∀ b ∈ bs, Ensures (runSteps (f b)) (g b)) :
    Ensures (runSteps (bs.flatMap f)) (bs.flatMap g) := by
  induction bs with
  | nil => exact runSteps_nil_ensures
  | cons b bs ih =>
    simp only [List.flatMap_cons]
    exact runSteps_append_ensures (h b (.head _)) (ih fun b hb => h b (.tail _ hb))

theorem runSteps_map_ensures {β : Type} (bs : List β) (f : β → Client (Option String))
    (g : β → List (KindTag × ObjKey)) (h : ∀ b ∈ bs, Ensures (f b) (g b)) :
    Ensures (runSteps (bs.map f)) (bs.flatMap g) := by
  induction bs with
  | nil => exact runSteps_nil_ensures
  | cons b bs ih =>
    exact runSteps_cons_ensures (h b (.head _)) (ih fun b hb => h b (.tail _ hb))

theorem runSteps_toList_ensures {β : Type} (o : Option β) (f : β → Client (Option String))
    (g : β → List (KindTag × ObjKey)) (h : ∀ b ∈ o, Ensures (f b) (g b)) :
    Ensures (runSteps (o.map f).toList) ((o.map g).toList.flatten) := by
  cases o with
  | none => exact runSteps_nil_ensures
  | some b => simpa using runSteps_cons_ensures (h b rfl) runSteps_nil_ensures

/-! ### Reads -/

theorem getNodeIP_frames : Frames getNodeIP := fun _ hP =>
  (listNodes_spec hP).bind fun r => by cases r <;> exact Hoare.pure fun _ => id

theorem getWebNodePort_frames (kn : KubeNova) (ns : String) : Frames (getWebNodePort kn ns) := by
  intro P hP
  unfold getWebNodePort
  split
  · exact Hoare.pure fun _ => id
  · refine (getObject_spec hP _ _).bind fun r => ?_
    rcases r with _ | svc
    · exact Hoare.pure fun _ h => h.1
    · dsimp only; split <;> exact Hoare.pure fun _ h => h.1

/-! ### The dependents of a root -/

/-- The service account and the cluster-scoped binding. -/
def rbacObjects (kn : KubeNova) : List (KindTag × ObjKey) :=
  let ns := kn.meta.namespace
  [(.serviceAccount, ⟨ns, (buildServiceAccount kn ns).name⟩),
   (.clusterRoleBinding, ⟨"", (buildClusterRoleBinding kn ns).name⟩)]

/-- The seven service ConfigMaps. -/
def configMapObjects (kn : KubeNova) : List (KindTag × ObjKey) :=
  let ns := kn.meta.namespace
  (buildAllConfigMaps kn ns).flatMap fun cm => [(.configMap, ⟨ns, cm.name⟩)]

/-- The Deployment and the Service the map holds for a backend service. -/
def serviceEntryObjects (ns : String) (services : GoMap String ServiceResources) (name : String) :
    List (KindTag × ObjKey) :=
  match services.get? name with
  | some res => [(.deployment, ⟨ns, res.deployment.name⟩), (.service, ⟨ns, res.service.name⟩)]
  | none => []

/-- The Deployment and the Service of each enabled backend service. -/
def serviceObjects (kn : KubeNova) : List (KindTag × ObjKey) :=
  let ns := kn.meta.namespace
  let services := buildAllServices kn ns
  services.keys.flatMap (serviceEntryObjects ns services)

/-- The web tier's objects. -/
def webObjects (kn : KubeNova) : List (KindTag × ObjKey) :=
  let ns := kn.meta.namespace
  let web := buildWebResources kn ns
  ((web.nginxConfigMap.map fun cm =>
      [(KindTag.configMap, (⟨ns, cm.name⟩ : ObjKey))]).toList.flatten ++
    [(.deployment, ⟨ns, web.deployment.name⟩), (.service, ⟨ns, web.service.name⟩)]) ++
  (web.ingress.map fun ing => [(KindTag.ingress, (⟨ns, ing.name⟩ : ObjKey))]).toList.flatten

/-- Every dependent the builders produce for a root, by kind and key. -/
def desiredObjects (kn : KubeNova) : List (KindTag × ObjKey) :=
  rbacObjects kn ++ [(.secret, ⟨kn.meta.namespace, "kube-nova-secret"⟩)] ++
    configMapObjects kn ++ serviceObjects kn ++ webObjects kn

/-! ### Stages -/

theorem reconcileNamespace_ensures (kn : KubeNova) : Ensures (reconcileNamespace kn) [] := by
  intro P hP
  refine (getNamespace_spec hP _).bind fun r => ?_
  rcases r with (_ | _ | _ | _ | _) | _
  iterate 5 exact hoare_pure_some (fun _ h => h.1) _
  exact hoare_pure_none fun _ h => ⟨h.1, by simp [AllPresent]⟩

theorem reconcileRBAC_ensures (kn : KubeNova) : Ensures (reconcileRBAC kn) (rbacObjects kn) :=
  runSteps_cons_ensures (ensureCreated_ensures _ _ _ _ _)
    (runSteps_cons_ensures (ensureCreated_ensures _ _ _ _ _) runSteps_nil_ensures)

theorem reconcileSecret_ensures (kn : KubeNova) :
    Ensures (reconcileSecret kn) [(.secret, ⟨kn.meta.namespace, "kube-nova-secret"⟩)] :=
  fun P hP => (getNodeIP_frames P hP).bind fun _ =>
    (getWebNodePort_frames _ _ P hP).bind fun _ => ensureData_ensures _ _ _ _ _ _ _ _ P hP

theorem reconcileConfigMaps_ensures (kn : KubeNova) :
    Ensures (reconcileConfigMaps kn) (configMapObjects kn) :=
  runSteps_map_ensures _ _ _ fun _ _ => ensureData_ensures _ _ _ _ _ _ _ _

theorem reconcileWeb_ensures (kn : KubeNova) : Ensures (reconcileWeb kn) (webObjects kn) :=
  runSteps_append_ensures
    (runSteps_append_ensures
      (runSteps_toList_ensures _ _ _ fun _ _ => ensureData_ensures _ _ _ _ _ _ _ _)
      (runSteps_cons_ensures (ensureDeployment_ensures _ _ _ _)
        (runSteps_cons_ensures (ensureCreated_ensures _ _ _ _ _) runSteps_nil_ensures)))
    (runSteps_toList_ensures _ _ _ fun _ _ => ensureCreated_ensures _ _ _ _ _)

/-- Stage 6 sets `Creating` in memory and, visiting the services in whatever order the map
iteration gives, stores each one's Deployment and Service. -/
theorem reconcileServices_spec {P : Store → Prop} (hP : Stable P) (kn : KubeNova) :
    Hoare P (reconcileServices kn) fun r s =>
      P s ∧ r.1 = setStatusPhase kn .creating "正在部署后端服务" ∧
        (r.2 = none → AllPresent (serviceObjects kn) s) := by
  let ns := kn.meta.namespace
  let services := buildAllServices kn ns
  refine (mapOrder_spec (P := P)).bind fun o => ?_
  have hsteps := runSteps_flatMap_ensures (o.arrange services.keys.dedup)
    (fun name => match services.get? name with
      | some res => serviceSteps ns name res
      | none => [])
    (serviceEntryObjects ns services) fun name _ => by
      dsimp only [serviceEntryObjects]
      cases services.get? name
      · exact runSteps_nil_ensures
      · exact runSteps_cons_ensures (ensureDeployment_ensures _ _ _ _)
          (runSteps_cons_ensures (ensureCreated_ensures _ _ _ _ _) runSteps_nil_ensures)
  refine (hsteps P hP).bind fun r => Hoare.pure fun s hs => ⟨hs.1, rfl, fun hr p hp => ?_⟩
  obtain ⟨name, hname, hp⟩ := List.mem_flatMap.1 hp
  exact hs.2 hr p (List.mem_flatMap.2 ⟨name, (o.perm _).mem_iff.2 (List.mem_dedup.2 hname), hp⟩)

/-! ### Stages 1–7 -/

/-- Stages that keep every stable property and, when they report no error, have stored `l`. -/
def StagesEnsure (x : Client (KubeNova × Option (String × String)))
    (l : List (KindTag × ObjKey)) : Prop :=
  ∀ P, Stable P → Hoare P x fun r s => P s ∧ (r.2 = none → AllPresent l s)

theorem StagesEnsure.mono {x : Client (KubeNova × Option (String × String))}
    {l l' : List (KindTag × ObjKey)} (h : StagesEnsure x l) (hl : ∀ p ∈ l', p ∈ l) :
    StagesEnsure x l' :=
  fun P hP => (h P hP).post fun _ _ h => ⟨h.1, fun hr p hp => h.2 hr p (hl p hp)⟩

theorem stagesEnsure_pure_none (kn : KubeNova) :
    StagesEnsure (pure (kn, (none : Option (String × String)))) [] :=
  fun _ _ => Hoare.pure fun _ h => ⟨h, by simp [AllPresent]⟩

theorem andThen_ensures {x : Client (Option String)}
    {k : Client (KubeNova × Option (String × String))} {l l' : List (KindTag × ObjKey)}
    (kn : KubeNova) (pre : String) (hx : Ensures x l) (hk : StagesEnsure k l') :
    StagesEnsure (andThen kn pre x k) (l ++ l') := by
  intro P hP
  refine (hx P hP).bind fun r => ?_
  rcases r with _ | err
  · exact ((hk _ (hP.and (allPresent_stable l))).weaken fun _ h => ⟨h.1, h.2 rfl⟩).post
      fun _ _ h => ⟨h.1.1, fun hr => (allPresent_append _ _ _).2 ⟨h.1.2, h.2 hr⟩⟩
  · exact Hoare.pure fun _ h => ⟨h.1, by simp⟩

theorem reconcileValidation_fst (kn : KubeNova) :
    (reconcileValidation kn).1 = { kn with status := (reconcileValidation kn).1.status } := by
  dsimp only [reconcileValidation]; split <;> rfl

theorem reconcileValidation_snd (kn : KubeNova) :
    (reconcileValidation kn).2 = validateKubeNova kn := by
  dsimp only [reconcileValidation]
  split <;> rename_i h <;> exact h.symm

/-- **Stages 1–7 that report no error have stored every dependent of the root**, whatever
failed on the way and whatever the other parties wrote. -/
theorem runStages_ensures (kn : KubeNova) : StagesEnsure (runStages kn) (desiredObjects kn) := by
  unfold runStages
  split
  · exact fun P _ => Hoare.pure fun _ h => ⟨h, by simp⟩
  · rename_i kn1 hv
    have hkn1 : kn1 = { kn with status := kn1.status } := by
      rw [show kn1 = (reconcileValidation kn).1 by rw [hv], reconcileValidation_fst]
    have hlast : StagesEnsure (do
        match ← reconcileServices kn1 with
        | (kn, some err) => pure (kn, some ("部署后端服务失败: ", err))
        | (kn, none) => andThen kn "部署 Web 前端失败: " (reconcileWeb kn) (pure (kn, none)))
        (serviceObjects kn1 ++ (webObjects kn1 ++ [])) := by
      intro P hP
      refine (reconcileServices_spec hP kn1).bind fun ⟨kn2, err⟩ c ⟨hc, hkn2, hsvc⟩ => ?_
      subst hkn2
      cases err
      · obtain ⟨⟨h1, h2⟩, h3⟩ := andThen_ensures _ _ (reconcileWeb_ensures _)
          (stagesEnsure_pure_none _) _ (hP.and (allPresent_stable _)) c ⟨hc, hsvc rfl⟩
        exact ⟨h1, fun hr => (allPresent_append _ _ _).2 ⟨h2, h3 hr⟩⟩
      · exact ⟨hc, by simp⟩
    refine (andThen_ensures _ _ (reconcileNamespace_ensures _) <|
      andThen_ensures _ _ (reconcileRBAC_ensures _) <|
      andThen_ensures _ _ (reconcileSecret_ensures _) <|
      andThen_ensures _ _ (reconcileConfigMaps_ensures _) hlast).mono fun p hp => ?_
    rw [hkn1]
    simpa [desiredObjects, or_assoc] using hp

end KubeNovaOperator
