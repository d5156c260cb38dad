import BundleLedger.Logging.Line
import BundleLedger.Logging.Threshold
import BundleLedger.Report.Service
import BundleLedger.Schema
import BundleLedger.Proofs.Bundle.Ranking
import BundleLedger.Proofs.Bundle.Schedule
import BundleLedger.Proofs.Bundle.Build
import BundleLedger.Proofs.Bundle.Aggregation
import BundleLedger.Proofs.Bundle.Reference
import BundleLedger.Proofs.Bundle.Outcome
import BundleLedger.Proofs.Bundle.FirstFailure
import BundleLedger.Proofs.Rounding
import BundleLedger.Proofs.Store.Amount
import BundleLedger.Proofs.Store.Query
import BundleLedger.Proofs.Store.View
import BundleLedger.Proofs.Store.Materialized
import BundleLedger.Proofs.Store.Entries
import BundleLedger.Proofs.Service.Frame
import BundleLedger.Proofs.Service.Stored
import BundleLedger.Proofs.Service.Materialization
import BundleLedger.Proofs.Service.Agreement
import BundleLedger.Proofs.Store.Transaction
import BundleLedger.Proofs.Bundle.Lookup
import BundleLedger.Proofs.Service.Interruption
import BundleLedger.Proofs.Reconciliation.Run
import BundleLedger.Proofs.Reconciliation.Refreshed
import BundleLedger.Proofs.Reconciliation.Account
import BundleLedger.Proofs.Reconciliation.Latest
import BundleLedger.Proofs.Service.Convergence
import BundleLedger.Proofs.Service.Isolation
import BundleLedger.Proofs.Reconciliation.Scoping
import BundleLedger.Proofs.Bundle.Trace
import BundleLedger.Proofs.Store.Capacity
import BundleLedger.Proofs.Store.Readable
import BundleLedger.Proofs.Service.Publication
import BundleLedger.Proofs.Service.Completeness
import BundleLedger.Proofs.Service.AutoRefresh
import BundleLedger.Proofs.Bundle.Scan
import BundleLedger.Bundle.Waiting
import BundleLedger.Proofs.Bundle.Drain
import BundleLedger.Proofs.Access.Verification
import BundleLedger.Proofs.Access.Authorization
import BundleLedger.Proofs.Request.Refusal
import BundleLedger.Proofs.Currency.Applicable
import BundleLedger.Proofs.Currency.Accuracy
import BundleLedger.Proofs.Service.RateOrder
import BundleLedger.Proofs.Service.Spelling
import BundleLedger.Proofs.Decimal.Order
import BundleLedger.Proofs.Currency.Order
import BundleLedger.Proofs.Reconciliation.Density
import BundleLedger.Proofs.Reconciliation.ChargedThrough
import BundleLedger.Proofs.Service.Extension
import BundleLedger.Proofs.Request.PathLabel
import BundleLedger.Proofs.Request.UnknownAccount
import BundleLedger.Proofs.Event.Reentrancy
import BundleLedger.Proofs.Service.Correlation
import BundleLedger.Proofs.Request.Segments
import BundleLedger.Proofs.Tracing
import BundleLedger.Proofs.Logging.Line
import BundleLedger.Service.Traced
import BundleLedger.Proofs.Bundle.SpanTree
import BundleLedger.Proofs.Service.SpanTree
