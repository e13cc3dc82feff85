import KmtLegal.Auth.Policy
import KmtLegal.Payments.SignedFields
import KmtLegal.Payments.ExpiryRace
import KmtLegal.Payments.Isolation
import KmtLegal.Payments.Release
import KmtLegal.Payments.LedgerBounds
import KmtLegal.Appointments.Conflict
import KmtLegal.Clients
import KmtLegal.Admin.ConsultationOutcome
import KmtLegal.Admin.Calendar
import KmtLegal.Consultations.DirectBooking
import KmtLegal.Consultations.Checkout
import KmtLegal.Office
import KmtLegal.Appointments.DoubleBooking
import KmtLegal.Admin.OutcomeHistory
import KmtLegal.Payments.StaffWork
import KmtLegal.Assistant.Session
import KmtLegal.Assistant.Turns
import KmtLegal.Auth.EnabledFactor
import KmtLegal.Services.Engagement
import KmtLegal.Services.Interview
import KmtLegal.Tokens.Separation
import KmtLegal.Consultations.BookingHistory
import KmtLegal.Consultations.PublishedSlots
import KmtLegal.Payments.TransactionRecord
import KmtLegal.Accounts.GovernanceHistory
import KmtLegal.Accounts.Coherence
import KmtLegal.Accounts.SetupRace
import KmtLegal.Conversations.ClosedThreads
import KmtLegal.Conversations.LinkHistory
import KmtLegal.Assistant.Consent
import KmtLegal.Content.Approval
import KmtLegal.Backup.Restorable
import KmtLegal.Accounts.VerificationHistory
import KmtLegal.Payments.Pricing
import KmtLegal.Payments.Replay
import KmtLegal.Payments.LedgerKeys
import KmtLegal.Payments.MoneyStatus
import KmtLegal.Admin.OutcomeViews
import KmtLegal.Admin.CalendarWindow
import KmtLegal.Assistant.UpcomingDate
import KmtLegal.Payments.Balances
import KmtLegal.Admin.InvoiceNumbers
import KmtLegal.Assistant.LostUpdates
import KmtLegal.Assistant.ProposalHistory
import KmtLegal.Clients.PhoneKeys
import KmtLegal.Payments.StoredPayload
import KmtLegal.RateLimit.Memory
import KmtLegal.Admin.FinanceExport
import KmtLegal.Payments.MinorUnits
import KmtLegal.Auth.FailureCount
import KmtLegal.Auth.OneTimeCode
import KmtLegal.Portal.RecordPages
import KmtLegal.Consultations.BookingAvailability
import KmtLegal.Documents.WordArchive
import KmtLegal.Documents.DownloadHeaders
import KmtLegal.Documents.DeliveryVersions
import KmtLegal.Documents.VisibleDelivery
import KmtLegal.Admin.ListScopes
import KmtLegal.Admin.EditVersions
import KmtLegal.Admin.ManualCaseHistory
import KmtLegal.Assistant.BoundedTurn
import KmtLegal.Assistant.LegalMemoryHistory
import KmtLegal.Admin.DashboardFigures
import KmtLegal.Auth.Base32
import KmtLegal.Documents.FileKeys
import KmtLegal.Admin.CairoDay
import KmtLegal.Accounts.InstallerRace
import KmtLegal.Backup.DailySets
import KmtLegal.Backup.Restore
import KmtLegal.Admin.Notifications
