import Kivou.AcquisitionLifecycle
import Kivou.AcquisitionProjection
import Kivou.AcquisitionStore
import Kivou.BounceBreaker
import Kivou.CheckoutSafety
import Kivou.DecpCycle
import Kivou.DiscoveryLimit
import Kivou.ModelBudgetLedger
import Kivou.PlanAnnouncements
import Kivou.PlanKeys
import Kivou.ProspectStranding
import Kivou.ProspectStatuses
import Kivou.ProspectCreations
import Kivou.ProspectAdmissions
import Kivou.ProspectExposure
import Kivou.OpportunityIdentity
import Kivou.PolicyInterleavings
import Kivou.Runs
import Kivou.TedCycle
import Kivou.WebhookOrder
import Kivou.FoundingOffer
import Kivou.DecpFacts
import Kivou.ReliabilityRepeats
import Kivou.AlertProcesses
import Kivou.CampaignReservations
import Kivou.HistoryPages
import Kivou.RuntimeBudget
import Kivou.RuntimeResumption
import Kivou.RuntimeAbandonment
import Kivou.RuntimeGrants
import Kivou.ComplianceOptOuts
import Kivou.ConversionMrr
import Kivou.ForYouRuns
import Kivou.ResolutionRuns
import Kivou.CensusCoverage
import Kivou.CompanyListing
import Kivou.CompanyRequestRuns
import Kivou.AccountPasswordRuns
import Kivou.SupplierUpsertRuns
import Kivou.CompanyResearchRuns
import Kivou.ContactDiscoveryRuns
import Kivou.SireneSearch
import Kivou.SupplierDiscovery
import Kivou.SupplierDiscoveryBooks
import Kivou.SupplierDiscoveryRuns
import Kivou.AcquisitionReplays
import Kivou.CatalogueMirror
import Kivou.DirectoryCorrections
import Kivou.DirectoryRemovals
import Kivou.DocumentJoins
import Kivou.EventLogs
import Kivou.NoticeBackfill
import Kivou.NoticeBackfillFiles
import Kivou.NoticeBackfillPlaces
import Kivou.NoticeBackfillRuns
import Kivou.PolicyValidity
import Kivou.Potentials
import Kivou.ProspectDeclarations
import Kivou.ProspectReplays
import Kivou.ProspectWebhooks
import Kivou.CampaignSends
import Kivou.PersonalizationReferences
import Kivou.ArchiveExpansion
import Kivou.OperationRetries
import Kivou.DecpWindows
import Kivou.PublicationKeys
import Kivou.CensusSampling
import Kivou.ObjectText
import Kivou.AttributionTokens
import Kivou.SupplierFamilies
