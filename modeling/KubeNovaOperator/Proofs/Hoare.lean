import KubeNovaOperator.Store

/-!
# Triples over the client

`Hoare P x Q`: run from a cluster whose store satisfies `P`, the client computation `x`
returns a value that, with the store it leaves, satisfies `Q`.  The rules for `pure`, `>>=`
and consequence let a proof follow the code's own `do` blocks, and a spec per store call
(`call_spec` and its instances) says everything a call can do, whatever the schedule.

`Drift` names the two changes the pipeline's reads and dependent writes can make to the
store: another party's write, and a dependent written under its key.  A property no such
change breaks is `Stable`; the specs of `getObject`, `createObject` and `updateObject` carry
any stable property across the call, which is how every invariant of the pipeline stages is
derived from one lemma per call.
-/

namespace KubeNovaOperator

/-! ### Triples -/

/-- `x` run from a store satisfying `P` returns a value and leaves a store satisfying `Q`. -/
def Hoare {α : Type} (P : Store → Prop) (x : Client α) (Q : α → Store → Prop) : Prop :=
  ∀ c : Cluster, P c.store → Q (x.run c).1 (x.run c).2.store

section Rules

variable {α β : Type} {P P' : Store → Prop} {Q Q' : α → Store → Prop}

theorem Hoare.pure {a : α} (h : ∀ s, P s → Q a s) : Hoare P (pure a) Q :=
  fun c hc => h c.store hc

theorem Hoare.bind {x : Client α} {f : α → Client β} {R : α → Store → Prop}
    {S : β → Store → Prop} (hx : Hoare P x R) (hf : ∀ a, Hoare (R a) (f a) S) :
    Hoare P (x >>= f) S :=
  fun c hc => hf _ _ (hx c hc)

theorem Hoare.mono {x : Client α} (h : Hoare P x Q) (hP : ∀ s, P' s → P s)
    (hQ : ∀ a s, Q a s → Q' a s) : Hoare P' x Q' :=
  fun c hc => hQ _ _ (h c (hP _ hc))

theorem Hoare.weaken {x : Client α} (h : Hoare P x Q) (hP : ∀ s, P' s → P s) : Hoare P' x Q :=
  h.mono hP fun _ _ => id

theorem Hoare.post {x : Client α} (h : Hoare P x Q) (hQ : ∀ a s, Q a s → Q' a s) :
    Hoare P x Q' :=
  h.mono (fun _ => id) hQ

end Rules

/-! ### Drift -/

/-- A change the pipeline's reads and dependent writes can make to the store. -/
inductive Drift : Store → Store → Prop
  /-- Another party's write. -/
  | ext (s : Store) (e : ExtEvent) : Drift s (e.apply s)
  /-- A dependent written under its key. -/
  | put {α : Type} (s : Store) (k : Kind α) (key : ObjKey) (a : α) :
      Drift s (k.setObjects s ((k.objects s).insert key a))

/-- A store property that no `Drift` breaks. -/
def Stable (P : Store → Prop) : Prop := ∀ s s', Drift s s' → P s → P s'

theorem Stable.and {P P' : Store → Prop} (h : Stable P) (h' : Stable P') :
    Stable fun s => P s ∧ P' s :=
  fun s s' hd hs => ⟨h s s' hd hs.1, h' s s' hd hs.2⟩

theorem Stable.foldl_apply {P : Store → Prop} (h : Stable P) (evs : List ExtEvent) {s : Store}
    (hs : P s) : P (evs.foldl ExtEvent.apply s) := by
  induction evs generalizing s with
  | nil => exact hs
  | cons e evs ih => exact ih (h _ _ (.ext s e) hs)

/-! ### Writes of a root -/

@[simp] theorem Store.commitRoot_fst (s : Store) (key : ObjKey) (r : KubeNova) :
    (s.commitRoot key r).1 =
      { r with meta := { r.meta with resourceVersion := s.revision + 1 } } := by
  simp only [Store.commitRoot]; split <;> rfl

@[simp] theorem Store.root_commitRoot_self (s : Store) (key : ObjKey) (r : KubeNova) :
    (s.commitRoot key r).2.root key =
      if r.meta.deletionTimestamp.isSome ∧ r.meta.finalizers = [] then none
      else some { r with meta := { r.meta with resourceVersion := s.revision + 1 } } := by
  simp only [Store.commitRoot, Store.root]; split <;> simp_all

theorem Store.updateKubeNovaStatus_eq_ok {s s' : Store} {kn r' : KubeNova}
    (h : s.updateKubeNovaStatus kn = .ok (r', s')) :
    ∃ r, s.root kn.key = some r ∧ r' = (s.commitRoot kn.key { r with status := kn.status }).1 ∧
      s' = (s.commitRoot kn.key { r with status := kn.status }).2 := by
  simp only [Store.updateKubeNovaStatus] at h
  split at h
  · cases h
  · split at h
    · cases h
    · injection h with h; exact ⟨_, ‹_›, by rw [h], by rw [h]⟩

/-- A successful `Update` of a root commits the stored root with the sent finalizers and
spec, and the stored status. -/
theorem Store.updateKubeNova_eq_ok {s s' : Store} {kn r' : KubeNova}
    (h : s.updateKubeNova kn = .ok (r', s')) :
    ∃ r r'', r' = (s.commitRoot kn.key r'').1 ∧ s' = (s.commitRoot kn.key r'').2 ∧
      s.root kn.key = some r ∧ r''.status = r.status ∧
      r''.meta.finalizers = kn.meta.finalizers ∧ r''.spec = kn.spec := by
  simp only [Store.updateKubeNova] at h
  split at h
  · cases h
  · split at h
    · cases h
    · rename_i r _ _
      split at h
      · cases h
      · injection h with h
        exact ⟨r, _, (congrArg Prod.fst h).symm, (congrArg Prod.snd h).symm, ‹_›, rfl, rfl, rfl⟩

theorem Store.root_commitRoot {s : Store} {key key' : ObjKey} {r r' : KubeNova}
    (h : (s.commitRoot key r).2.root key' = some r') :
    (key' = key ∧ r'.status = r.status) ∨ s.root key' = some r' := by
  simp only [Store.commitRoot] at h
  split at h <;> simp only [Store.root, GoMap.get?_erase, GoMap.get?_insert] at h <;> split at h
  · cases h
  · exact .inr h
  · cases h; exact .inl ⟨‹_›, rfl⟩
  · exact .inr h

/-- **Other parties never write a status**: every root after their write has the status of
the root stored under its key before. -/
theorem ExtEvent.root_apply {s : Store} {e : ExtEvent} {key : ObjKey} {r' : KubeNova}
    (h : (e.apply s).root key = some r') : ∃ r, s.root key = some r ∧ r.status = r'.status := by
  cases e <;> simp only [ExtEvent.apply] at h <;> (try split at h) <;> (try split at h) <;>
    first
    | exact ⟨r', h, rfl⟩
    | rcases Store.root_commitRoot h with ⟨rfl, hst⟩ | h'
      · exact ⟨_, by assumption, by rw [hst]⟩
      · exact ⟨r', h', rfl⟩

/-! ### Presence of dependents -/

@[simp] theorem Store.present_commitRoot (s : Store) (key : ObjKey) (r : KubeNova) (t : KindTag)
    (k : ObjKey) : (s.commitRoot key r).2.present t k = s.present t k := by
  simp only [Store.commitRoot]; split <;> rfl

/-- Other parties never remove a dependent. -/
@[simp] theorem ExtEvent.present_apply (s : Store) (e : ExtEvent) (t : KindTag) (k : ObjKey) :
    (e.apply s).present t k = s.present t k := by
  cases e with
  | setReadyReplicas key n =>
    simp only [ExtEvent.apply]
    split
    · cases t <;> simp only [Store.present, GoMap.get?_insert]
      split <;> simp_all
    · rfl
  | _ => simp only [ExtEvent.apply]; split <;> (try split) <;> simp

theorem Kind.present_put {α : Type} (k : Kind α) (s : Store) (key : ObjKey) (a : α) (t : KindTag)
    (key' : ObjKey) :
    (k.setObjects s ((k.objects s).insert key a)).present t key' =
      (s.present t key' || (t = k.tag && key' = key)) := by
  by_cases ht : t = k.tag
  · subst ht
    simp only [k.present_eq, k.objects_setObjects, GoMap.get?_insert]
    split <;> simp_all
  · simp [k.present_setObjects _ _ _ _ ht, ht]

theorem Kind.present_of_get {α : Type} (k : Kind α) {s : Store} {key : ObjKey} {a : α}
    (h : (k.objects s).get? key = some a) : s.present k.tag key := by
  simp [k.present_eq, h]

/-- **A dependent, once stored, stays through any drift.** -/
theorem present_stable (t : KindTag) (key : ObjKey) : Stable fun s => s.present t key := by
  rintro s _ (⟨_, e⟩ | ⟨_, k, key', a⟩) h
  · rwa [ExtEvent.present_apply]
  · simp [Kind.present_put, h]

/-! ### Store calls -/

section Calls

variable {α : Type} {P : Store → Prop} {Q : Except ApiError α → Store → Prop}

/-- **What a store call can do**: the tick's writes land, then the call fails with any error
on the store as it is, or the operation runs. -/
theorem call_spec {logged : Option Op} {op : Store → Except ApiError (α × Store)}
    (hP : Stable P) (hfail : ∀ s e, P s → Q (.error e) s)
    (hop : ∀ s a s', P s → op s = .ok (a, s') → Q (.ok a) s') :
    Hoare P (call logged op) Q := by
  intro c hc
  have hs := hP.foldl_apply c.nextTick.1.before hc
  simp only [call, StateT.run]
  split
  · exact hfail _ _ hs
  · split
    · exact hop _ _ _ hs ‹_›
    · exact hfail _ _ hs

variable {P : Store → Prop} (hP : Stable P)
include hP

theorem getObject_spec (k : Kind α) (key : ObjKey) :
    Hoare P (getObject k key) fun r s => P s ∧ ∀ a, r = .ok a → (k.objects s).get? key = some a :=
  call_spec hP (fun _ _ hs => ⟨hs, by simp⟩) fun s a s' hs h => by
    split at h
    · cases h; exact ⟨hs, by simpa⟩
    · cases h

theorem createObject_spec (k : Kind α) (key : ObjKey) (a : α) :
    Hoare P (createObject k key a) fun r s =>
      P s ∧ (r = .ok () → (k.objects s).get? key = some (k.stored a)) :=
  call_spec hP (fun _ _ hs => ⟨hs, by simp⟩) fun s _ s' hs h => by
    split at h
    · cases h
    · cases h; exact ⟨hP _ _ (.put s k key _) hs, by simp [k.objects_setObjects]⟩

theorem updateObject_spec (k : Kind α) (key : ObjKey) (a : α) :
    Hoare P (updateObject k key a) fun r s =>
      P s ∧ (r = .ok () → (k.objects s).get? key = some (k.stored a)) :=
  call_spec hP (fun _ _ hs => ⟨hs, by simp⟩) fun s _ s' hs h => by
    split at h
    · cases h; exact ⟨hP _ _ (.put s k key _) hs, by simp [k.objects_setObjects]⟩
    · cases h

theorem getKubeNova_spec (key : ObjKey) :
    Hoare P (getKubeNova key) fun r s => P s ∧ ∀ kn, r = .ok kn → s.root key = some kn :=
  call_spec hP (fun _ _ hs => ⟨hs, by simp⟩) fun s a s' hs h => by
    split at h
    · cases h; exact ⟨hs, by simpa⟩
    · cases h

theorem getNamespace_spec (name : String) :
    Hoare P (getNamespace name) fun r s => P s ∧ (r = .ok () → name ∈ s.namespaces) :=
  call_spec hP (fun _ _ hs => ⟨hs, by simp⟩) fun s _ s' hs h => by
    split at h
    · cases h; exact ⟨hs, fun _ => ‹_›⟩
    · cases h

theorem listNodes_spec : Hoare P listNodes fun _ => P :=
  call_spec hP (fun _ _ hs => hs) fun _ _ _ hs h => by cases h; exact hs

/-- A status write stores the root it was given under that root's key; `hc` says the write
keeps `P`. -/
theorem updateKubeNovaStatus_spec (kn : KubeNova)
    (hc : ∀ s key r, P s → s.root key = some r →
      P (s.commitRoot key { r with status := kn.status }).2) :
    Hoare P (updateKubeNovaStatus kn) fun res s => P s ∧ ∀ r, res = .ok r → r.status = kn.status :=
  call_spec hP (fun _ _ hs => ⟨hs, by simp⟩) fun s _ s' hs h => by
    obtain ⟨r, hr, rfl, rfl⟩ := Store.updateKubeNovaStatus_eq_ok h
    exact ⟨hc _ _ _ hs hr, fun _ h => by cases h; simp⟩

/-- `Update` of a root commits a root that keeps the stored status; `hc` says such a commit
keeps `P`. -/
theorem updateKubeNova_spec (kn : KubeNova)
    (hc : ∀ s key r r', P s → s.root key = some r → r'.status = r.status →
      P (s.commitRoot key r').2) :
    Hoare P (updateKubeNova kn) fun _ => P :=
  call_spec hP (fun _ _ hs => hs) fun s _ s' hs h => by
    obtain ⟨r, r'', -, rfl, hr, hst, -⟩ := Store.updateKubeNova_eq_ok h
    exact hc _ _ _ _ hs hr hst

/-- `Delete` of a dependent; `hd` says removing a dependent keeps `P`. -/
theorem deleteObject_spec (k : Kind α) (key : ObjKey)
    (hd : ∀ s, P s → P (k.setObjects s ((k.objects s).erase key))) :
    Hoare P (deleteObject k key) fun _ => P :=
  call_spec hP (fun _ _ hs => hs) fun s _ s' hs h => by
    split at h
    · cases h; exact hd _ hs
    · cases h

omit hP in
theorem mapOrder_spec : Hoare P mapOrder fun _ => P := fun _ hc => hc

end Calls

end KubeNovaOperator
