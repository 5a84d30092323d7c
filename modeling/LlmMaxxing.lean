import LlmMaxxing.Core.Signing
import LlmMaxxing.Core.KeyLifecycle
import LlmMaxxing.Core.KeyMaterial
import LlmMaxxing.Telemetry.SpoolSafety
import LlmMaxxing.Gateway.Starvation
import LlmMaxxing.Gateway.Aging
import LlmMaxxing.Gateway.Authentication
import LlmMaxxing.Gateway.Emergency
import LlmMaxxing.Gateway.AntiRollback
import LlmMaxxing.Gateway.ActivationExit
import LlmMaxxing.Gateway.ProviderLimits
import LlmMaxxing.Gateway.EarlierBoot
import LlmMaxxing.Gateway.CircuitSafety
import LlmMaxxing.Gateway.Publication
import LlmMaxxing.Gateway.Settlement
import LlmMaxxing.Gateway.Contraction
import LlmMaxxing.Gateway.AttemptBudget
import LlmMaxxing.Gateway.Prescan
import LlmMaxxing.Gateway.IngressLaws
import LlmMaxxing.Gateway.AdvisoryView
import LlmMaxxing.Gateway.AdmissionRuns
import LlmMaxxing.Gateway.PermitPool
import LlmMaxxing.Config.PlanSoundness
import LlmMaxxing.Config.PreviewOrder
import LlmMaxxing.Config.CompileImpact
import LlmMaxxing.Control.Keys
import LlmMaxxing.Control.Rotation
import LlmMaxxing.Storage.SingleActivation
import LlmMaxxing.Storage.LostUpdates
import LlmMaxxing.Storage.Backup
import LlmMaxxing.Storage.Idempotence
import LlmMaxxing.Storage.AuditChain
import LlmMaxxing.Adapters.GuardAgreement
import LlmMaxxing.Lib.PyJsonRoundTrip
