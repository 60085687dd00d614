import QuickBooks.AgedItems
import QuickBooks.AppliedPayments
import QuickBooks.AppliedWorksheets
import QuickBooks.BankRefusals
import QuickBooks.BuildRecords
import QuickBooks.CallBudgets
import QuickBooks.CarriedBalances
import QuickBooks.CompleteFeeds
import QuickBooks.ConvergedSyncs
import QuickBooks.CreditApplications
import QuickBooks.DecidedRequests
import QuickBooks.DerivedRows
import QuickBooks.DueDates
import QuickBooks.EditedApplications
import QuickBooks.FakeNames
import QuickBooks.FreightAgreement
import QuickBooks.GatedWrites
import QuickBooks.GeneralLedgerAgreement
import QuickBooks.InvoicedOrders
import QuickBooks.KeptRecords
import QuickBooks.KeptRequests
import QuickBooks.LeakFreeFixtures
import QuickBooks.LegMerges
import QuickBooks.LineageWalks
import QuickBooks.MirrorAgingAgreement
import QuickBooks.NumberedAccounts
import QuickBooks.OpeningNets
import QuickBooks.OutboxOnce
import QuickBooks.ParallelRun
import QuickBooks.PayRunImports
import QuickBooks.PayRunPrivacy
import QuickBooks.PolledDeletions
import QuickBooks.PrintedSheets
import QuickBooks.RateLimits
import QuickBooks.Reconciliations
import QuickBooks.RepeatedStatements
import QuickBooks.ReplayableJournals
import QuickBooks.RetriedImports
import QuickBooks.SnapshotRotation
import QuickBooks.SoundCursors
import QuickBooks.SparseUpdates
import QuickBooks.SpreadsheetLayouts
import QuickBooks.StockLaws
import QuickBooks.TaxAudit
import QuickBooks.TaxableSales
import QuickBooks.TokenRotations
import QuickBooks.ToolPostings
import QuickBooks.UnchangedDrafts
import QuickBooks.VanishingDocuments
import QuickBooks.VarianceAgreement
import QuickBooks.VerifiedLedgers
import QuickBooks.WireMoney
