import Truckmaster.Library.Runs
import Truckmaster.Library.Fallible
import Truckmaster.Library.Tables
import Truckmaster.Library.ReadCommitted
import Truckmaster.QuoteLoad.StatusDerivation
import Truckmaster.QuoteLoad.Inputs
import Truckmaster.QuoteLoad.DispatchTracking
import Truckmaster.QuoteLoad.Booking
import Truckmaster.QuoteLoad.CarrierSourcing
import Truckmaster.QuoteLoad.LoadClosing
import Truckmaster.QuoteLoad.Lifecycle
import Truckmaster.CarrierPay.CarrierPayments
import Truckmaster.Billing.Invoices
import Truckmaster.QuoteLoad.SettledLoads
import Truckmaster.QuoteLoad.StatusRuns
import Truckmaster.QuoteLoad.StopSequences
import Truckmaster.QuoteLoad.FinancialFieldShaping
import Truckmaster.Billing.InvoiceBalance
import Truckmaster.Billing.InvoiceSessions
import Truckmaster.Billing.InvoicesPerLoad
import Truckmaster.Identity.MembershipSessions
import Truckmaster.Identity.ActiveAdmins
import Truckmaster.Documents.MalwareScan
import Truckmaster.Documents.InfectedDocuments
import Truckmaster.Billing.InvoiceRequestsAlone
import Truckmaster.Billing.InvoiceLedger
import Truckmaster.Billing.BalanceSessions
import Truckmaster.QuoteLoad.QuoteSessions
import Truckmaster.QuoteLoad.AgreedTerms
import Truckmaster.QuoteLoad.CarrierCharges
import Truckmaster.Documents.DocumentFamilies
import Truckmaster.Documents.FamilyVersions
import Truckmaster.Library.Quotas
import Truckmaster.Carriers.Records
import Truckmaster.Carriers.CarrierService
import Truckmaster.Carriers.CarrierLimits
import Truckmaster.Carriers.LimitPrecision
import Truckmaster.Carriers.Eligibility
import Truckmaster.Carriers.EligibilityRuns
import Truckmaster.QuoteLoad.PodStatus
import Truckmaster.QuoteLoad.PodStatusRuns
import Truckmaster.Identity.MembershipChanges
import Truckmaster.Audit.BlockedEvents
import Truckmaster.Documents.ScanAttempts
import Truckmaster.Imports.ExactlyOnce
import Truckmaster.Identity.PasswordResetSessions
import Truckmaster.Identity.ResetTokens
import Truckmaster.Identity.OrganizationSequences
import Truckmaster.CarrierPay.PaymentApproval
import Truckmaster.Identity.InvitationSessions
import Truckmaster.Identity.InvitationLinks
import Truckmaster.QuoteLoad.StopEventSessions
import Truckmaster.QuoteLoad.StopEvents
import Truckmaster.QuoteLoad.LifecycleRequests
import Truckmaster.QuoteLoad.SerialLifecycle
import Truckmaster.Reporting.ApAging
import Truckmaster.Reporting.ArAging
import Truckmaster.QuoteLoad.InsuredUse
import Truckmaster.Identity.WebSessions
import Truckmaster.Identity.SessionRevocation
import Truckmaster.Identity.AccessRequests
import Truckmaster.Identity.RoleFreshness
import Truckmaster.QuoteLoad.RateSources
import Truckmaster.Common.Timestamps
import Truckmaster.QuoteLoad.OperationalTimes
import Truckmaster.Library.JobQueues
import Truckmaster.Locations.LocationResolution
import Truckmaster.Locations.LoadLocations
import Truckmaster.Locations.StopLocations
import Truckmaster.Customers.CustomerService
import Truckmaster.Imports.Adapters
import Truckmaster.Carriers.Creation
import Truckmaster.Imports.ImportPreview
import Truckmaster.Imports.PreviewAgreement
import Truckmaster.Library.JsonValues
import Truckmaster.QuoteLoad.ActivityHistoryRedaction
import Truckmaster.Carriers.DriverLicences
import Truckmaster.Identity.InvitationGuard
import Truckmaster.Documents.DocumentSearch
import Truckmaster.LoadDrafts.LoadDraftService
import Truckmaster.Common.BusinessTimeZone
import Truckmaster.Reporting.ReportRanges
import Truckmaster.Reporting.OnTime
import Truckmaster.Library.CheckThenInsert
import Truckmaster.BackgroundJobs.AttentionItems
import Truckmaster.BackgroundJobs.AttentionDetectors
import Truckmaster.BackgroundJobs.CheckCallAlerts
import Truckmaster.BackgroundJobs.ImminentAppointments
import Truckmaster.BackgroundJobs.AlertEvents
import Truckmaster.Library.Pages
import Truckmaster.Reporting.NeedsAttention
import Truckmaster.Reporting.AlertRows
import Truckmaster.Library.RowLocks
import Truckmaster.Imports.BatchSessions
import Truckmaster.Imports.BatchPoints
import Truckmaster.Imports.BatchStateMachine
import Truckmaster.Library.DelimitedText
import Truckmaster.QuoteLoad.Csv
import Truckmaster.Customers.RateAgreements
import Truckmaster.Billing.ClosingInvoice
import Truckmaster.Common.LocalValues
import Truckmaster.QuoteLoad.LoadSearch
import Truckmaster.QuoteLoad.LoadSearchPages
import Truckmaster.Library.Patterns
import Truckmaster.RateConfirmationExtraction.DecimalTexts
import Truckmaster.RateConfirmationExtraction.LocalRateConfirmationExtractor
import Truckmaster.RateConfirmationExtraction.LineReadings
import Truckmaster.RateConfirmationExtraction.StopReadings
import Truckmaster.RateConfirmationExtraction.LineAccounting
import Truckmaster.RateConfirmationExtraction.AnthropicRateConfirmationExtractor
import Truckmaster.RateConfirmationExtraction.ExtractionContract
import Truckmaster.Library.JobRuns
import Truckmaster.Locations.LocationBackfill
import Truckmaster.Locations.BackfillAnalysis
import Truckmaster.Locations.BackfillJobs
import Truckmaster.Locations.BackfillPrediction
import Truckmaster.RateConfirmationExtraction.ExtractionJobs
import Truckmaster.RateConfirmationExtraction.ExtractionRuns
import Truckmaster.RateConfirmationExtraction.ExtractionProgress
import Truckmaster.Library.Noninterference
import Truckmaster.Library.RowSecurity
import Truckmaster.Tenancy.Policies
import Truckmaster.Tenancy.PrismaService
import Truckmaster.Tenancy.TenantIsolation
import Truckmaster.Tenancy.AloneInTheDatabase
import Truckmaster.Carriers.ComplianceSweep
import Truckmaster.QuoteLoad.DriverDispatch
