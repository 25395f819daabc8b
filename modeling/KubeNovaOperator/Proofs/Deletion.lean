import KubeNovaOperator.Proofs.Presence

/-!
# Deleting a root

`reconcileDelete` records `Deleting`, deletes the cluster-scoped binding only when its Get
succeeds, and then writes the caller's copy without the finalizer.  Three runs show what this
leaves behind.

* A Get of the binding that fails with any error other than not-found is ignored: the
  finalizer is removed and the root disappears while its cluster-admin binding stays
  (`reconcile_drops_finalizer_with_binding_stored`).
* The binding's name `kube-nova-<namespace>-<name>-cluster-admin` does not determine the
  root: the roots `a/b-c` and `a-b/c` share it (`clusterRoleBindingName_append_dash`), and
  deleting the second removes the binding that grants cluster-admin to the first
  (`reconcileDelete_removes_other_roots_binding`).
* The status writer refreshes only the caller's status and `resourceVersion`, so the final
  `Update` writes the spec and finalizers the pass read at its start under a version that
  postdates every write since: a spec a user committed after the pass's Get is reverted,
  while another controller's finalizer keeps the root stored
  (`reconcileDelete_reverts_spec_edit`).  The API server refuses a finalizer added to a root
  being deleted, so the same Update cannot re-add one that was removed meanwhile.
-/

namespace KubeNovaOperator

/-! ### A failed Get of the binding -/

/-- `sampleRoot` being deleted. -/
def deletingRoot : KubeNova :=
  { sampleRoot with meta := { sampleRoot.meta with deletionTimestamp := some 1 } }

/-- The binding of `deletingRoot`, under its key. -/
def deletingBindingKey : ObjKey := ⟨"", clusterRoleBindingName "nova" "demo"⟩

/-- `deletingRoot` and its binding; the Get of the binding fails with an internal error. -/
def bindingGetFails : Cluster :=
  { store :=
      { kubeNovas := GoMap.empty.insert deletingRoot.key deletingRoot, namespaces := ["nova"]
        clusterRoleBindings :=
          GoMap.empty.insert deletingBindingKey (buildClusterRoleBinding deletingRoot "nova") }
    ticks := [{}, {}, {}, { fault := some .other }] }

/-- The pass removes the finalizer, so the root disappears, while its binding stays. -/
theorem reconcile_drops_finalizer_with_binding_stored :
    ((reconcile deletingRoot.key).run bindingGetFails).1.2 = none ∧
      ((reconcile deletingRoot.key).run bindingGetFails).2.store.root deletingRoot.key = none ∧
      ((reconcile deletingRoot.key).run bindingGetFails).2.store.present
        .clusterRoleBinding deletingBindingKey := by
  decide

/-! ### Two roots, one binding -/

/-- A namespace and a name that share a dash-separated split produce the same binding name. -/
theorem clusterRoleBindingName_append_dash (ns a b : String) :
    clusterRoleBindingName ns (a ++ "-" ++ b) = clusterRoleBindingName (ns ++ "-" ++ a) b := by
  simp only [clusterRoleBindingName, String.append_assoc]

/-- The root `b-c` in the namespace `a`, live, with the finalizer. -/
def rootAbc : KubeNova :=
  { meta := { name := "b-c", «namespace» := "a", finalizers := [kubenovaFinalizer] }
    spec := sampleSpec }

/-- The root `c` in the namespace `a-b`, being deleted. -/
def rootAbC : KubeNova :=
  { meta := { name := "c", «namespace» := "a-b", finalizers := [kubenovaFinalizer],
              deletionTimestamp := some 1 }
    spec := sampleSpec }

/-- Both roots, and the binding the RBAC stage stored for `rootAbc`. -/
def sharedBinding : Cluster :=
  { store :=
      { kubeNovas := (GoMap.empty.insert rootAbc.key rootAbc).insert rootAbC.key rootAbC
        namespaces := ["a", "a-b"]
        clusterRoleBindings :=
          GoMap.empty.insert ⟨"", (buildClusterRoleBinding rootAbc "a").name⟩
            (buildClusterRoleBinding rootAbc "a") } }

/-- Deleting `a-b/c` deletes the binding that grants cluster-admin to the service account of
the live root `a/b-c`. -/
theorem reconcileDelete_removes_other_roots_binding :
    (buildClusterRoleBinding rootAbc "a").name = clusterRoleBindingName "a-b" "c" ∧
      (buildClusterRoleBinding rootAbc "a").subjects.map Subject.namespace = ["a"] ∧
      ((reconcile rootAbC.key).run sharedBinding).2.store.root rootAbc.key = some rootAbc ∧
      ¬ ((reconcile rootAbC.key).run sharedBinding).2.store.present .clusterRoleBinding
        ⟨"", (buildClusterRoleBinding rootAbc "a").name⟩ :=
  ⟨clusterRoleBindingName_append_dash "a" "b" "c", by decide, by decide, by decide⟩

/-! ### A spec edit during the pass -/

/-- `deletingRoot` also carrying another controller's finalizer. -/
def sharedDeletingRoot : KubeNova :=
  { deletingRoot with
    meta := { deletingRoot.meta with finalizers := [kubenovaFinalizer, "other.io/cleanup"] } }

/-- `sampleSpec` with another database host. -/
def movedDatabaseSpec : KubeNovaSpec :=
  { sampleSpec with database := { sampleSpec.database with host := "mysql-2" } }

/-- `sharedDeletingRoot` alone; a user edits its spec just after the pass's Get, before the
status writer re-reads the root. -/
def specEditedDuringDeletion : Cluster :=
  { store :=
      { kubeNovas := GoMap.empty.insert sharedDeletingRoot.key sharedDeletingRoot
        namespaces := ["nova"] }
    ticks := [{}, { before := [.editSpec sharedDeletingRoot.key movedDatabaseSpec] }] }

/-- The user's spec lands, and the pass's final `Update` commits over it: the root stays,
with the other controller's finalizer, and with the spec the pass read at its start. -/
theorem reconcileDelete_reverts_spec_edit :
    (((ExtEvent.editSpec sharedDeletingRoot.key movedDatabaseSpec).apply
        specEditedDuringDeletion.store).root sharedDeletingRoot.key).map (·.spec) =
        some movedDatabaseSpec ∧
      ((reconcile sharedDeletingRoot.key).run specEditedDuringDeletion).1.2 = none ∧
      (((reconcile sharedDeletingRoot.key).run specEditedDuringDeletion).2.store.root
        sharedDeletingRoot.key).map (fun kn => (kn.meta.finalizers, kn.spec)) =
        some (["other.io/cleanup"], sampleSpec) := by
  decide

end KubeNovaOperator
