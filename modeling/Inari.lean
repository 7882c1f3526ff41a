import Inari.Proofs.AgentIsolation
import Inari.Proofs.DeviceExclusion
import Inari.Proofs.DeviceSharing
import Inari.Proofs.ClaimOrder
import Inari.Proofs.Redelivery
import Inari.Contracts.Labels
import Inari.Proofs.InboundOrder
import Inari.Proofs.InventoryProjection
import Inari.Proofs.JobCancellation
import Inari.Proofs.LedgerFences
import Inari.Proofs.OriginReplay
import Inari.Proofs.ManagedDispatches
import Inari.Proofs.PendingUsage
import Inari.Proofs.PreparationCopies
import Inari.Proofs.QuotaRuns
import Inari.Proofs.RouterAdmission
import Inari.Proofs.ScaleReadings
import Inari.Proofs.SigningKeyNames
import Inari.Proofs.StoredPublications
import Inari.Proofs.StrandedDevices
import Inari.Proofs.AuthorizationDigests
import Inari.Proofs.BindingLifecycle
import Inari.Proofs.SpoolDomains
