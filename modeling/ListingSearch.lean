import ListingSearch.CommandLine.FileTree
import ListingSearch.CoverageArea
import ListingSearch.JsonText.Printer
import ListingSearch.JsonText.Reader
import ListingSearch.Main
import ListingSearch.Memory.Basic
import ListingSearch.Predicate.Holds
import ListingSearch.Proofs.Criteria.Admission
import ListingSearch.Proofs.Criteria.Determined
import ListingSearch.Proofs.Predicate.Verdict
import ListingSearch.Proofs.SavedSearch.DeliveryRuns
import ListingSearch.Query.Clause
import ListingSearch.Recipients
import ListingSearch.Remote.Conversation
import ListingSearch.Remote.Stores
import ListingSearch.SavedSearch.Registry
import ListingSearch.Proofs.Memory.Rows
import ListingSearch.Proofs.SavedSearch.Columns
import ListingSearch.Proofs.SavedSearch.Traffic
import ListingSearch.Proofs.SavedSearch.Requests
import ListingSearch.Proofs.SavedSearch.Versions
import ListingSearch.Proofs.SavedSearch.Edits
import ListingSearch.Proofs.SavedSearch.EditRuns
import ListingSearch.Proofs.SavedSearch.Marks
import ListingSearch.Proofs.Predicate.StoreForm
import ListingSearch.Proofs.Query.Clause
import ListingSearch.Proofs.Binary64.Decimal
import ListingSearch.Proofs.Binary64.Numeral
import ListingSearch.Proofs.Query.Literal
import ListingSearch.Proofs.Query.Demand
import ListingSearch.Proofs.Query.Tree
import ListingSearch.Proofs.Calendar
import ListingSearch.Proofs.Sorting
import ListingSearch.Proofs.Search
import ListingSearch.Proofs.Binary64.Range
import ListingSearch.Proofs.Criteria.Window
import ListingSearch.Proofs.Criteria.Readable
import ListingSearch.Proofs.Criteria.Reread
import ListingSearch.Proofs.Value.Order
import ListingSearch.Proofs.Memory.Ordering
import ListingSearch.Proofs.SavedSearch.OwnerList
import ListingSearch.Proofs.SavedSearch.Backlog
import ListingSearch.Proofs.SavedSearch.Draining
import ListingSearch.Proofs.SavedSearch.Review
import ListingSearch.Proofs.Recipients.Coverage
import ListingSearch.Proofs.SavedSearch.Ledger
import ListingSearch.Proofs.Remote.Table
import ListingSearch.Proofs.Remote.Repetition
import ListingSearch.Proofs.Remote.Reports
import ListingSearch.Proofs.Recipients.Estimate
import ListingSearch.Proofs.Criteria.Restated
import ListingSearch.Proofs.Criteria.Leniency
import ListingSearch.Proofs.Query.Pattern
import ListingSearch.Proofs.Results
import ListingSearch.Proofs.Criteria.Recency
import ListingSearch.Proofs.Criteria.Sendable
import ListingSearch.Proofs.Predicate.Connectives
import ListingSearch.Proofs.Predicate.NormalForm
import ListingSearch.Proofs.Remote.Persistence
import ListingSearch.Proofs.Remote.Pages
