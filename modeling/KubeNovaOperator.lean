import KubeNovaOperator.Api.Core
import KubeNovaOperator.Api.V1
import KubeNovaOperator.Store
import KubeNovaOperator.Validator
import KubeNovaOperator.Builder.Backend
import KubeNovaOperator.Builder.Config
import KubeNovaOperator.Builder.Web
import KubeNovaOperator.Controller.Diff
import KubeNovaOperator.Controller.Status
import KubeNovaOperator.Controller.Stages
import KubeNovaOperator.Controller.Reconcile
import KubeNovaOperator.Proofs.Hoare
import KubeNovaOperator.Proofs.Stages
import KubeNovaOperator.Proofs.StatusWrites
import KubeNovaOperator.Proofs.Quiet
import KubeNovaOperator.Proofs.Run
import KubeNovaOperator.Proofs.Presence
import KubeNovaOperator.Proofs.Deletion
import KubeNovaOperator.Proofs.StatusVersions
import KubeNovaOperator.Proofs.Aggregate
import KubeNovaOperator.Proofs.Convergence
import KubeNovaOperator.Proofs.Passes
import KubeNovaOperator.Proofs.Acceptance
import KubeNovaOperator.Proofs.PodSpecs
import KubeNovaOperator.Proofs.DataStages
import KubeNovaOperator.Proofs.NodeIP
import KubeNovaOperator.Proofs.ServiceStage
import KubeNovaOperator.Proofs.Footprint
import KubeNovaOperator.Proofs.PassWrites
import KubeNovaOperator.Proofs.WebStage
import KubeNovaOperator.Proofs.SteadyState
import KubeNovaOperator.Proofs.SteadyReconcile
import KubeNovaOperator.Proofs.ReadyCondition
